import Mathlib.Data.List.Induction
import ClassReconciler.Proofs.CleanupCoverage

/-!
# What the cleanup after a class leaves

A class is edited and reconciled again and again, then marked for deletion and reconciled once
more, and no call fails. Two annotations of a namespace decide what is left in it. Where it has
obsolete objects deleted, each revision takes with it what it dropped. Where it has not, what a
revision dropped stays in place, and the record forgets it: an entry stays on the record only
while a deletion that was asked for is refused or deferred. The cleanup reads the record, so that
it does not find what was left in place, though the namespace opts into it
(`object_outlives_class`, `cleanup_forgets_obsolete`).

`Cluster.Revised` is what holds after some revisions. `Cluster.Revised.revised` keeps it through
one more.
-/

namespace ClassReconciler

open Cluster (sampleEntry sampleKey)

/-! ## Objects after an update -/

/-- Where no name is refused, an object is found after templates are written at their keys and
where one was before. -/
theorem find?_foldl_writeTemplate_ne_none (n : String) (templates : List Template)
    (objects : Objects) (k : ObjectKey) :
    (templates.foldl (writeTemplate [] n) objects).find? k ≠ none ↔
      (∃ t ∈ templates, k = ObjectKey.new t.kind n t.name) ∨ objects.find? k ≠ none := by
  induction templates generalizing objects with
  | nil => simp
  | cons t rest ih =>
    rw [List.foldl_cons, ih, writeTemplate, if_neg List.not_mem_nil, SortedMap.find?_insert]
    by_cases hk : k = ObjectKey.new t.kind n t.name
    · simp [hk]
    · simp [hk]

/-- Where no name is refused, an object is found after an update of a namespace at the keys where
the class places one and where one was before, but for those that are pruned. -/
theorem NamespaceClass.find?_updateObjects_ne_none (c : NamespaceClass) (ns : Namespace)
    (objects : Objects) {k : ObjectKey} (hk : k.namespaceName = ns.nameAny) :
    (c.updateObjects [] objects ns).find? k ≠ none ↔
      (Template.Places c.spec.resources k ∨ objects.find? k ≠ none) ∧
        ¬∃ t ∈ c.prunedFrom ns, k = ObjectKey.new t.kind ns.nameAny t.name := by
  rw [updateObjects, find?_foldl_eraseTemplate, Template.Places, hk,
    ← find?_foldl_writeTemplate_ne_none]
  simp only [List.not_mem_nil, not_false_eq_true, true_and]
  split
  case isTrue hpruned => simp [hpruned]
  case isFalse hpruned => simp [hpruned]

/-- A recorded template is declared still, or it is pruned from a namespace that has obsolete
objects deleted. -/
theorem NamespaceClass.places_declared_or_pruned {c : NamespaceClass}
    (htemplates : ∀ raw ∈ c.spec.resources, ∃ t, Template.parse raw = .ok t) {ns : Namespace}
    (hopted : ns.cleanupObsoleteEnabled = true) {k : ObjectKey} (hk : k.namespaceName = ns.nameAny)
    (hrecorded : Template.Places c.lastApplied k) :
    Template.Places c.spec.resources k ∨
      ∃ t ∈ c.prunedFrom ns, k = ObjectKey.new t.kind ns.nameAny t.name := by
  obtain ⟨t, ht, hplace⟩ := hrecorded
  rw [hk] at hplace
  obtain ⟨raw, -, hparse⟩ := Template.mem_parseAll.1 ht
  -- the template of the same identity that takes the place of the recorded one
  have hsame : ∀ {raws}, t.id ∈ Template.ids raws → ∃ u ∈ Template.parseAll raws,
      k = ObjectKey.new u.kind ns.nameAny u.name := by
    intro raws hid
    obtain ⟨u, hu, hid⟩ := Template.mem_ids.1 hid
    obtain ⟨raw', -, hparse'⟩ := Template.mem_parseAll.1 hu
    exact ⟨u, hu, hplace.trans (Template.key_eq_of_id_eq hparse hparse' hid _).symm⟩
  by_cases hclaimed : t.id ∈ Revision.claimedIds c.spec.resources
  · obtain ⟨u, hu, hkey⟩ := hsame (Template.mem_ids_of_mem_claimedIds htemplates hclaimed)
    exact Or.inl ⟨u, hu, hk ▸ hkey⟩
  · obtain ⟨u, hu, hkey⟩ := hsame
      (mem_ids_removedEntries.2 ⟨Template.mem_ids.2 ⟨t, ht, rfl⟩, hclaimed⟩)
    exact Or.inr ⟨u, mem_prunedFrom.2 ⟨⟨hopted, isIdentified_of_parse htemplates⟩, hu⟩, hkey⟩

/-! ## Revisions -/

namespace Cluster

/-- Which objects are found after the reconcile of a class that is not being deleted. -/
theorem find?_reconciled_ne_none {s : Cluster} (hs : s.WellFormed) {name : String}
    {c : NamespaceClass} (hc : s.classes.find? name = some c) (active : c.isDeleting = false)
    {ns : Namespace} (hns : ns ∈ s.namespacesForClass name) {k : ObjectKey}
    (hk : k.namespaceName = ns.nameAny) :
    (s.reconciled (.ofClass name)).objects.find? k ≠ none ↔
      (Template.Places c.spec.resources k ∨ s.objects.find? k ≠ none) ∧
        ¬∃ t ∈ c.prunedFrom ns, k = ObjectKey.new t.kind ns.nameAny t.name := by
  have happlied := Simulation.isApplied_of_active (s := { cluster := s }) rfl hs hc active
  have hafter := (Simulation.stored_of_isApplied (s := { cluster := s }) rfl hs happlied hc).2
    ns hns k hk
  have hbefore : s.contents.objects.find? k ≠ none ↔ s.objects.find? k ≠ none := by
    rw [contents, SortedMap.find?_map, ne_eq, Option.map_eq_none_iff]
  rw [← hbefore, ← c.find?_updateObjects_ne_none ns s.contents.objects hk, ← hafter, ne_eq,
    ne_eq, Option.map_eq_none_iff]
  exact Iff.rfl

/-- A class is edited and then reconciled, and no call fails. -/
def revised (name : String) (s : Cluster) (resources : List Json) : Cluster :=
  ((s.setResources name resources).getD s).reconciled (.ofClass name)

def revisedEach (s : Cluster) (name : String) (revisions : List (List Json)) : Cluster :=
  revisions.foldl (revised name) s

theorem revisedEach_append_singleton (s : Cluster) (name : String) (revisions : List (List Json))
    (resources : List Json) :
    s.revisedEach name (revisions ++ [resources]) =
      (s.revisedEach name revisions).revised name resources :=
  List.foldl_concat ..

/-- What an edit leaves. -/
theorem setResources_keeps {s : Cluster} (hs : s.WellFormed) {name : String} {c : NamespaceClass}
    (hc : s.classes.find? name = some c) (active : c.isDeleting = false)
    (resources : List Json) :
    ∃ s' c', s.setResources name resources = some s' ∧ s'.WellFormed ∧
      s'.namespaces = s.namespaces ∧ s'.objects = s.objects ∧
      s'.classes.find? name = some c' ∧ c'.isDeleting = false ∧
      c'.spec.resources = resources ∧ c'.lastApplied = c.lastApplied := by
  have hedited := History.setResources_of_stored hc resources
  exact ⟨_, _, hedited, hs.setResources hedited, rfl, rfl,
    (SortedMap.find?_insert _ _ _ _).trans (if_pos rfl), active, rfl, rfl⟩

/-- What has come of some revisions of a class: the last one is recorded. In a namespace that was
empty at first, and has obsolete objects deleted, there are objects of the last revision only; and
else there are all those of any revision. -/
structure Revised (start : Cluster) (name : String) (past : List (List Json)) (s : Cluster)
    (c : NamespaceClass) : Prop where
  wellFormed : s.WellFormed
  namespaces : s.namespaces = start.namespaces
  stored : s.classes.find? name = some c
  active : c.isDeleting = false
  recorded : ∀ {last}, past.getLast? = some last → c.hasFinalizer = true ∧
    c.spec.resources = last ∧ ∀ id, id ∈ Template.ids c.lastApplied ↔ id ∈ Template.ids last
  pruned : ∀ ns ∈ start.namespacesForClass name, start.IsEmptyIn ns.nameAny →
    ns.cleanupObsoleteEnabled = true → ∀ k, k.namespaceName = ns.nameAny →
      s.objects.find? k ≠ none → ∃ last, past.getLast? = some last ∧ Template.Places last k
  kept : ∀ ns ∈ start.namespacesForClass name, start.IsEmptyIn ns.nameAny →
    ns.cleanupObsoleteEnabled = false → ∀ k, k.namespaceName = ns.nameAny →
      (s.objects.find? k ≠ none ↔ ∃ resources ∈ past, Template.Places resources k)

namespace Revised

variable {start s : Cluster} {name : String} {past : List (List Json)} {c : NamespaceClass}

theorem start_revised (hs : s.WellFormed) (hc : s.classes.find? name = some c)
    (active : c.isDeleting = false) : Revised s name [] s c where
  wellFormed := hs
  namespaces := rfl
  stored := hc
  active := active
  recorded h := by cases h
  pruned ns _ hempty _ k hk hfound := absurd (hempty k hk) hfound
  kept ns _ hempty _ k hk := by simp [hempty k hk]

theorem namespacesForClass (h : Revised start name past s c) :
    s.namespacesForClass name = start.namespacesForClass name := by
  rw [Cluster.namespacesForClass, h.namespaces, Cluster.namespacesForClass]

/-- One more revision, all of whose entries are templates. -/
theorem revised (h : Revised start name past s c) {resources : List Json}
    (htemplates : ∀ raw ∈ resources, ∃ t, Template.parse raw = .ok t) :
    ∃ c', Revised start name (past ++ [resources]) (s.revised name resources) c' := by
  obtain ⟨s₁, c₁, hedited, hs₁, hnamespaces₁, hobjects₁, hc₁, active₁, hspec₁, hrecord₁⟩ :=
    setResources_keeps h.wellFormed h.stored h.active resources
  have hs₂ : s.revised name resources = s₁.reconciled (.ofClass name) := by
    rw [Cluster.revised, hedited, Option.getD_some]
  obtain ⟨hs', _, hends⟩ := reconciled_ends hs₁ (.ofClass name)
  obtain ⟨c', hc', active', hspec', hguard⟩ := reconciled_active hs₁ hc₁ active₁ (.ofClass name)
  have happlied := Simulation.isApplied_of_active (s := { cluster := s₁ }) rfl hs₁ hc₁ active₁
  have hrecord := (Simulation.stored_of_isApplied (s := { cluster := s₁ }) rfl hs₁ happlied hc₁).1
    c' hc'
  have htemplates₁ : ∀ raw ∈ c₁.spec.resources, ∃ t, Template.parse raw = .ok t :=
    hspec₁ ▸ htemplates
  have hnamespaces : s₁.namespacesForClass name = start.namespacesForClass name := by
    rw [← h.namespacesForClass, Cluster.namespacesForClass, hnamespaces₁,
      Cluster.namespacesForClass]
  have hfound : ∀ ns ∈ start.namespacesForClass name, ∀ k, k.namespaceName = ns.nameAny →
      ((s₁.reconciled (.ofClass name)).objects.find? k ≠ none ↔
        (Template.Places resources k ∨ s.objects.find? k ≠ none) ∧
          ¬∃ t ∈ c₁.prunedFrom ns, k = ObjectKey.new t.kind ns.nameAny t.name) := by
    intro ns hns k hk
    rw [← hobjects₁, ← hspec₁]
    exact find?_reconciled_ne_none hs₁ hc₁ active₁ (hnamespaces ▸ hns) hk
  rw [hs₂]
  refine ⟨c', hs', ?_, hc', active', ?_, ?_, ?_⟩
  · exact hends.namespaces.trans (hnamespaces₁.trans h.namespaces)
  · intro last hlast
    rw [List.getLast?_concat] at hlast
    obtain rfl := Option.some.inj hlast
    refine ⟨hguard (Or.inr ⟨Or.inl rfl, rfl⟩), by rw [hspec', hspec₁], fun id => ?_⟩
    rw [hrecord, NamespaceClass.mem_ids_recordAfter,
      NamespaceClass.isIdentified_of_parse htemplates₁, hspec₁]
    simp
  · intro ns hns hempty hopted k hk hafter
    refine ⟨resources, List.getLast?_concat, ?_⟩
    obtain ⟨hplaces | hbefore, hkept⟩ := (hfound ns hns k hk).1 hafter
    · exact hplaces
    · obtain ⟨last, hlast, hplaces⟩ := h.pruned ns hns hempty hopted k hk hbefore
      have hplaces : Template.Places c₁.lastApplied k := by
        rw [hrecord₁]
        exact Template.places_of_ids (fun id => ((h.recorded hlast).2.2 id).2) hplaces
      exact hspec₁ ▸ (NamespaceClass.places_declared_or_pruned htemplates₁ hopted hk
        hplaces).resolve_right hkept
  · intro ns hns hempty hopted k hk
    have hnone : c₁.prunedFrom ns = [] := by
      simp [NamespaceClass.prunedFrom, hopted]
    rw [hfound ns hns k hk, h.kept ns hns hempty hopted k hk, hnone]
    simp [or_and_right, exists_or, or_comm]

/-- Any number of revisions. -/
theorem revisedEach (hs : s.WellFormed) (hc : s.classes.find? name = some c)
    (active : c.isDeleting = false) {revisions : List (List Json)}
    (htemplates : ∀ resources ∈ revisions, ∀ raw ∈ resources, ∃ t, Template.parse raw = .ok t) :
    ∃ c', Revised s name revisions (s.revisedEach name revisions) c' := by
  induction revisions using List.reverseRecOn with
  | nil => exact ⟨c, start_revised hs hc active⟩
  | append_singleton past resources ih =>
    rw [revisedEach_append_singleton]
    obtain ⟨c', hpast⟩ :=
      ih fun resources' hmem => htemplates resources' (List.mem_append_left _ hmem)
    exact hpast.revised (htemplates resources (List.mem_append_right _ (List.mem_singleton_self _)))

end Revised

end Cluster

/-! ## The cleanup -/

/-- A mark is no more than a write of the class. -/
theorem Cluster.markDeleted_leaves {s s' : Cluster} {name : String} {c : NamespaceClass}
    (hc : s.classes.find? name = some c) (hmarked : s.markDeleted name = some s') :
    s'.namespaces = s.namespaces ∧ s'.objects = s.objects ∧
      ∃ c', s'.classes.find? name = some c' ∧ c'.isDeleting = true ∧
        c'.hasFinalizer = c.hasFinalizer ∧ c'.spec = c.spec ∧ c'.lastApplied = c.lastApplied := by
  rw [markDeleted_of_stored hc] at hmarked
  obtain rfl := Option.some.inj hmarked
  exact ⟨rfl, rfl, _, (SortedMap.find?_insert _ _ _ _).trans (if_pos rfl), rfl, rfl, rfl, rfl⟩

/-- Let a class be edited and reconciled again and again, all entries of its revisions be templates
and no call fail. Then it is marked for deletion and reconciled. In a namespace of the class that
opts into cleanup and was empty at first, an object is left exactly if the namespace does not have
obsolete objects deleted, some revision placed the object and the last one did not. -/
theorem object_outlives_class {s : Cluster} (hs : s.Reachable) {name : String} {c : NamespaceClass}
    (hc : s.classes.find? name = some c) (active : c.isDeleting = false)
    {revisions : List (List Json)}
    (htemplates : ∀ resources ∈ revisions, ∀ raw ∈ resources, ∃ t, Template.parse raw = .ok t)
    {ns : Namespace} (hns : ns ∈ s.namespacesForClass name) (hopted : ns.cleanupEnabled = true)
    (hempty : s.IsEmptyIn ns.nameAny) {marked : Cluster}
    (hmarked : (s.revisedEach name revisions).markDeleted name = some marked) :
    let r := ({ cluster := marked } : Simulation).reconcile (.ofClass name) .never
    (revisions ≠ [] → ∃ cleaned orphaned, r.1 = .ok (.finalized cleaned orphaned)) ∧
      ∀ k, k.namespaceName = ns.nameAny →
        (r.2.cluster.objects.find? k ≠ none ↔ ns.cleanupObsoleteEnabled = false ∧
          (∃ resources ∈ revisions, Template.Places resources k) ∧
          ∀ last, revisions.getLast? = some last → ¬Template.Places last k) := by
  intro r
  obtain ⟨c', hrevised⟩ := Cluster.Revised.revisedEach hs.wellFormed hc active htemplates
  have hs' : marked.WellFormed := hrevised.wellFormed.markDeleted hmarked
  obtain ⟨hnamespaces, hobjects, c₁, hc₁, deleting, hheld, hspec, hrecord⟩ :=
    Cluster.markDeleted_leaves hrevised.stored hmarked
  have hns' : ns ∈ marked.namespacesForClass name := by
    rwa [Cluster.namespacesForClass, hnamespaces, hrevised.namespaces]
  cases hlast : revisions.getLast? with
  | none =>
    -- nothing was reconciled, so that nothing was there
    obtain rfl := List.getLast?_eq_none_iff.1 hlast
    refine ⟨fun h => absurd rfl h, fun k hk => ⟨fun hafter => ?_, fun h => ?_⟩⟩
    · have hdeleting : ∀ c, marked.classes.find? name = some c → c.isDeleting = true :=
        fun c hc => Option.some.inj (hc₁.symm.trans hc) ▸ deleting
      have hbefore := Cluster.find?_of_reconciled hs' hns' _ hdeleting hk hafter
      rw [hobjects] at hbefore
      exact absurd (hempty k hk) hbefore
    · obtain ⟨-, ⟨_, hmem, -⟩, -⟩ := h
      exact absurd hmem List.not_mem_nil
  | some last =>
    obtain ⟨held, hdeclared, hids⟩ := hrevised.recorded hlast
    have held₁ : c₁.hasFinalizer = true := hheld.trans held
    refine ⟨fun _ => Simulation.finalized_of_hasFinalizer (s := { cluster := marked }) hs' rfl hc₁
      deleting held₁, fun k hk => ?_⟩
    have howns : c₁.Owns k ↔ Template.Places last k := by
      rw [NamespaceClass.Owns, hspec, hrecord, Template.places_append, hdeclared]
      exact or_iff_left_of_imp (Template.places_of_ids fun id => (hids id).1)
    have hkey : (Key.ofClass name).StandsFor marked name := ⟨Or.inl rfl, rfl⟩
    have hfind : r.2.cluster.objects.find? k =
        if c₁.Owns k then none else marked.objects.find? k :=
      Cluster.find?_reconciled_of_optedIn hs' hkey hc₁ deleting held₁ hns' hopted hk
    rw [hfind, hobjects]
    by_cases hplaces : Template.Places last k
    · simp [howns, hplaces]
    · rw [if_neg fun h => hplaces (howns.1 h)]
      cases hobsolete : ns.cleanupObsoleteEnabled with
      | true =>
        refine ⟨fun hbefore => ?_, fun h => absurd h.1 (by decide)⟩
        obtain ⟨last', hlast', hplaces'⟩ := hrevised.pruned ns hns hempty hobsolete k hk hbefore
        obtain rfl := Option.some.inj (hlast.symm.trans hlast')
        exact absurd hplaces' hplaces
      | false =>
        rw [hrevised.kept ns hns hempty hobsolete k hk]
        simp [hplaces]

/-! ### An object that is dropped before the class is deleted -/

/-- The revisions of a class whose namespace keeps obsolete objects. -/
def earlyThenLate : List (List Json) := [[sampleEntry "early"], [sampleEntry "late"]]

theorem templates_earlyThenLate :
    ∀ resources ∈ earlyThenLate, ∀ raw ∈ resources, ∃ t, Template.parse raw = .ok t := by
  have hall : (earlyThenLate.all fun resources =>
      resources.all fun raw => (Template.parse? raw).isSome) = true := by decide +kernel
  simp only [List.all_eq_true, Option.isSome_iff_exists, Template.parse?_eq_some] at hall
  exact hall

/-- The class is revised and then marked for deletion. -/
def Cluster.markedLate : Cluster :=
  ((unguarded.revisedEach "gold" earlyThenLate).markDeleted "gold").getD {}

theorem Cluster.markDeleted_late :
    (unguarded.revisedEach "gold" earlyThenLate).markDeleted "gold" = some markedLate := by
  have hmarked : ((unguarded.revisedEach "gold" earlyThenLate).markDeleted "gold").isSome = true :=
    by decide +kernel
  obtain ⟨marked, hmarked⟩ := Option.isSome_iff_exists.1 hmarked
  rw [markedLate, hmarked, Option.getD_some]

/-- What the first revision placed is left, and what the last one placed is not. -/
theorem object_outlives_class_sample :
    let r := ({ cluster := .markedLate } : Simulation).reconcile (.ofClass "gold") .never
    Cluster.unguarded.Reachable ∧
      (Cluster.unguarded.revisedEach "gold" earlyThenLate).markDeleted "gold" =
        some Cluster.markedLate ∧
      (∃ cleaned orphaned, r.1 = .ok (.finalized cleaned orphaned)) ∧
      r.2.cluster.objects.find? (sampleKey "early") ≠ none ∧
      r.2.cluster.objects.find? (sampleKey "late") = none := by
  intro r
  obtain ⟨ns, hlisted, hopted, hname⟩ := Cluster.unguarded_namespace
  obtain ⟨c, hc, active⟩ : ∃ c, Cluster.unguarded.classes.find? "gold" = some c ∧
      c.isDeleting = false := ⟨_, rfl, rfl⟩
  have hns : ns ∈ Cluster.unguarded.namespacesForClass "gold" :=
    hlisted ▸ List.mem_singleton_self ns
  have hkept : ns.cleanupObsoleteEnabled = false := by
    have hall : (Cluster.unguarded.namespacesForClass "gold").all
        (!·.cleanupObsoleteEnabled) = true := by decide +kernel
    simpa [hlisted] using hall
  obtain ⟨hfinalized, hleft⟩ := object_outlives_class Cluster.reachable_unguarded hc active
    templates_earlyThenLate hns hopted (Cluster.isEmptyIn_unguarded _) Cluster.markDeleted_late
  obtain ⟨hearly, hlate, hnot⟩ : Template.Places [sampleEntry "early"] (sampleKey "early") ∧
      Template.Places [sampleEntry "late"] (sampleKey "late") ∧
      ¬Template.Places [sampleEntry "late"] (sampleKey "early") := by decide +kernel
  refine ⟨Cluster.reachable_unguarded, Cluster.markDeleted_late, hfinalized nofun, ?_, ?_⟩
  · refine (hleft (sampleKey "early") hname.symm).2 ⟨hkept, ⟨_, List.mem_cons_self, hearly⟩, ?_⟩
    rintro _ ⟨⟩
    exact hnot
  · by_contra hfound
    exact ((hleft (sampleKey "late") hname.symm).1 hfound).2.2 _ rfl hlate

/-- So what was injected can stay in a namespace that opts into cleanup. -/
theorem cleanup_forgets_obsolete :
    ¬∀ (s : Cluster) (name : String) (c : NamespaceClass) (revisions : List (List Json))
      (marked : Cluster), s.Reachable → s.classes.find? name = some c → c.isDeleting = false →
      (∀ resources ∈ revisions, ∀ raw ∈ resources, ∃ t, Template.parse raw = .ok t) →
      (∀ ns ∈ s.namespacesForClass name, ns.cleanupEnabled = true ∧ s.IsEmptyIn ns.nameAny) →
      (s.revisedEach name revisions).markDeleted name = some marked →
      let r := ({ cluster := marked } : Simulation).reconcile (.ofClass name) .never
      (∃ cleaned orphaned, r.1 = .ok (.finalized cleaned orphaned)) →
        ∀ ns ∈ s.namespacesForClass name, r.2.cluster.IsEmptyIn ns.nameAny := by
  intro hclaim
  obtain ⟨ns, hlisted, hopted, hname⟩ := Cluster.unguarded_namespace
  have hns : ns ∈ Cluster.unguarded.namespacesForClass "gold" :=
    hlisted ▸ List.mem_singleton_self ns
  obtain ⟨c, hc, active⟩ : ∃ c, Cluster.unguarded.classes.find? "gold" = some c ∧
      c.isDeleting = false := ⟨_, rfl, rfl⟩
  have hall : ∀ ns' ∈ Cluster.unguarded.namespacesForClass "gold",
      ns'.cleanupEnabled = true ∧ Cluster.unguarded.IsEmptyIn ns'.nameAny := by
    rw [hlisted]
    exact fun ns' hns' => List.mem_singleton.1 hns' ▸ ⟨hopted, Cluster.isEmptyIn_unguarded _⟩
  let r := ({ cluster := .markedLate } : Simulation).reconcile (.ofClass "gold") .never
  obtain ⟨hresult, hfound⟩ : r.1.toOption = some (.finalized 1 0) ∧
      (r.2.cluster.objects.find? (sampleKey "early")).isSome = true := by decide +kernel
  have hempty := hclaim Cluster.unguarded "gold" c earlyThenLate .markedLate
    Cluster.reachable_unguarded hc active templates_earlyThenLate hall Cluster.markDeleted_late
    ⟨_, _, except_toOption_eq_some.1 hresult⟩ ns hns
  rw [show r.2.cluster.objects.find? (sampleKey "early") = none from
    hempty (sampleKey "early") hname.symm] at hfound
  cases hfound

end ClassReconciler
