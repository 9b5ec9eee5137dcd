import ClassReconciler.Proofs.EqualValues
import ClassReconciler.Proofs.Underway

/-!
# What a reconcile leaves of a class

What the end of a reconcile (`Cluster.Ends`) means for one class and for its namespaces. Every
object in them is one from before, or a template of the class made it, which the key concerns
(`Cluster.Ends.find?_objects`). A class that is not being deleted stays so and keeps its spec, and
its record changes only where the reconcile has applied the class (`Cluster.Ends.active`). There
the new record has the identities of what is declared and, while some entry has no identity, of
what is removed, and nothing is left of a removed template in a namespace that has obsolete
objects deleted (`NamespaceClass.mem_ids_recordAfter`,
`NamespaceClass.find?_updateObjects_of_removed`).
-/

namespace ClassReconciler

/-! ## Objects of templates -/

/-- The identity of an object by its own fields. -/
def Manifest.id? (o : Manifest) : Option TemplateId :=
  o.types.map fun types => ⟨types.apiVersion, types.kind, o.nameAny⟩

namespace Template

/-- The identities of the templates among raw resources. -/
def ids (raws : List Json) : List TemplateId := (parseAll raws).map Template.id

theorem mem_ids {raws : List Json} {id : TemplateId} :
    id ∈ ids raws ↔ ∃ t ∈ parseAll raws, t.id = id := List.mem_map

/-- A template claims its identity. -/
theorem mem_claimedIds_of_mem_ids {raws : List Json} {id : TemplateId} (h : id ∈ ids raws) :
    id ∈ Revision.claimedIds raws := by
  obtain ⟨t, ht, rfl⟩ := mem_ids.1 h
  obtain ⟨raw, hraw, hparse⟩ := mem_parseAll.1 ht
  exact Revision.mem_claimedIds.2 ⟨raw, hraw, (parse_eq_ok hparse).1⟩

/-- The template made the object at a key, for a namespace. -/
structure Made (t : Template) (n : String) (k : ObjectKey) (o : Manifest) : Prop where
  isTemplate : ∃ raw, parse raw = .ok t
  key : k = ObjectKey.new t.kind n t.name
  object : o.unversioned = t.toObject n

theorem Made.namespaceName {t : Template} {n : String} {k : ObjectKey} {o : Manifest}
    (h : t.Made n k o) : k.namespaceName = n :=
  congrArg ObjectKey.namespaceName h.key

/-- An object that a template made has the identity of the template. -/
theorem Made.id? {t : Template} {n : String} {k : ObjectKey} {o : Manifest}
    (h : t.Made n k o) : o.id? = some t.id := by
  obtain ⟨raw, hparse⟩ := h.isTemplate
  have htypes : o.types = some ⟨t.id.apiVersion, t.id.kind⟩ :=
    (congrArg Manifest.types h.object).trans (object_of_parse hparse).1
  have hname : o.nameAny = t.id.name :=
    (congrArg Manifest.nameAny h.object).trans (nameAny_toObject hparse n)
  rw [Manifest.id?, htypes, hname]
  rfl

/-- Templates of one identity are stored at one key. -/
theorem key_eq_of_id_eq {raw raw' : Json} {t u : Template} (ht : parse raw = .ok t)
    (hu : parse raw' = .ok u) (hid : u.id = t.id) (n : String) :
    ObjectKey.new u.kind n u.name = ObjectKey.new t.kind n t.name := by
  have hkind : u.kind = t.kind := by
    have hkind := (parse_eq_ok ht).2.1
    rw [← hid, (parse_eq_ok hu).2.1] at hkind
    exact Option.some.inj hkind
  rw [hkind, name, name, hid]

end Template

/-- For every template among the entries of a class one is declared that is stored at the same
key. -/
theorem exists_declaredTemplate {c : NamespaceClass} {t : Template}
    (ht : t ∈ Template.parseAll (c.spec.resources ++ c.lastApplied)) (n : String) :
    ∃ u ∈ declaredTemplates c,
      ObjectKey.new u.kind n u.name = ObjectKey.new t.kind n t.name := by
  obtain ⟨u, hu, hid⟩ := (exists_mem_firstOfEachId _ [] ht).resolve_left List.not_mem_nil
  obtain ⟨raw, -, hraw⟩ := Template.mem_parseAll.1 ht
  obtain ⟨raw', -, hraw'⟩ := Template.mem_parseAll.1 (mem_of_mem_firstOfEachId hu)
  exact ⟨u, hu, Template.key_eq_of_id_eq hraw hraw' hid n⟩

theorem mem_parseAll_of_declared {c : NamespaceClass} {t : Template}
    (ht : t ∈ Template.parseAll c.spec.resources) :
    t ∈ Template.parseAll (c.spec.resources ++ c.lastApplied) := by
  rw [Template.parseAll, List.filterMap_append]
  exact List.mem_append_left _ ht

/-! ## What a reconcile does for a class -/

/-- The key stands for the class, or for a namespace that names it. -/
def Key.concerns (key : Key) (s : Cluster) (className : String) : Bool :=
  key.className? s = some className

namespace Cluster

variable {names : List String} {key : Key} {className : String} {s s₁ s₂ : Cluster}

/-- A namespace names one class. -/
theorem Named.eq_of_mem_namespacesForClass (hs : s.Named) {className' : String}
    {ns ns' : Namespace} (hns : ns ∈ s.namespacesForClass className)
    (hns' : ns' ∈ s.namespacesForClass className') (hname : ns.nameAny = ns'.nameAny) :
    className = className' := by
  obtain ⟨hfind, hclass⟩ := hs.mem_namespacesForClass.1 hns
  obtain ⟨hfind', hclass'⟩ := hs.mem_namespacesForClass.1 hns'
  rw [hname, hfind'] at hfind
  obtain rfl := Option.some.inj hfind
  exact Option.some.inj (hclass.symm.trans hclass')

/-- An object that is found after work is one from before, or a template made it. -/
theorem Worked.find?_objects {listed : List Namespace} {written : List Template}
    {erased : Namespace → List Template} (h : s.Worked names listed written erased s₁)
    (hwritten : ∀ t ∈ written, ∃ raw, Template.parse raw = .ok t) {k : ObjectKey} {o : Manifest}
    (ho : s₁.objects.find? k = some o) :
    s.objects.find? k = some o ∨ ∃ ns ∈ listed, ∃ t ∈ written, t.Made ns.nameAny k o := by
  rcases h.objects k with hsame | ⟨ns, hns, ⟨t, ht, -, hk, hobject⟩ | ⟨t, -, -, -, hnone⟩⟩
  · exact Or.inl (hsame.symm.trans ho)
  · rw [ho] at hobject
    exact Or.inr ⟨ns, hns, t, ht, hwritten t ht, hk, Option.some.inj hobject⟩
  · rw [ho] at hnone
    cases hnone

/-- An object that is found in a namespace of a class is one from before, or a template of the
class made it, which is not being deleted and which the key concerns. -/
theorem Underway.find?_objects (h : s.Underway names key s₁) (hs : s.Named) {ns : Namespace}
    (hns : ns ∈ s.namespacesForClass className) {k : ObjectKey}
    (hk : k.namespaceName = ns.nameAny) {o : Manifest} (ho : s₁.objects.find? k = some o) :
    s.objects.find? k = some o ∨ key.concerns s className = true ∧
      ∃ c, s.classes.find? className = some c ∧ c.isDeleting = false ∧
        ∃ t ∈ Template.parseAll c.spec.resources, t.Made ns.nameAny k o := by
  have hparse : ∀ {c : NamespaceClass}, ∀ t ∈ Template.parseAll c.spec.resources,
      ∃ raw, Template.parse raw = .ok t :=
    fun t ht => (Template.mem_parseAll.1 ht).imp fun _ h => h.2
  cases h with
  | started => exact Or.inl ho
  | @inNamespace ns' className' c _ hkind hns' hclass hc active hworked =>
    refine (hworked.find?_objects hparse ho).imp_right ?_
    rintro ⟨ns'', hmem, t, ht, hmade⟩
    obtain rfl := List.mem_singleton.1 hmem
    have hname : ns.nameAny = ns''.nameAny := hk.symm.trans hmade.namespaceName
    have hlisted : ns'' ∈ s.namespacesForClass className' :=
      hs.mem_namespacesForClass.2 ⟨by rw [hs.namespaces hns', hns'], hclass⟩
    obtain rfl := hs.eq_of_mem_namespacesForClass hns hlisted hname
    refine ⟨?_, c, hc, active, t, ht, hname ▸ hmade⟩
    rw [Key.concerns, Key.className?_of_stored hkind hns', hclass, decide_eq_true rfl]
  | @updating c c₁ s₀ _ hkey hcname hc active hguards hworked =>
    rcases hworked.find?_objects hparse ho with hsame | ⟨ns', hns', t, ht, hmade⟩
    · exact Or.inl (hguards.objects ▸ hsame)
    · have hname : ns.nameAny = ns'.nameAny := hk.symm.trans hmade.namespaceName
      obtain rfl := hs.eq_of_mem_namespacesForClass hns hns' hname
      have hconcerns : key.concerns s key.name = true := decide_eq_true hkey.className?
      exact Or.inr ⟨hconcerns, c, hc, active, t, ht, hname ▸ hmade⟩
  | finalizing _ _ _ _ _ hworked =>
    refine (hworked.find?_objects (fun t ht => absurd ht List.not_mem_nil) ho).imp_right ?_
    rintro ⟨-, -, t, ht, -⟩
    exact absurd ht List.not_mem_nil

/-- A class keeps its spec, its status and whether it is being deleted. -/
theorem Underway.find?_classes (h : s.Underway names key s₁) (hs : s.WellFormed)
    (d : String) : s₁.classes.find? d = s.classes.find? d ∨
      ∃ c c₁, s.classes.find? d = some c ∧ s₁.classes.find? d = some c₁ ∧
        c₁.spec = c.spec ∧ c₁.status = c.status ∧ c₁.isDeleting = c.isDeleting := by
  cases h with
  | started => exact Or.inl rfl
  | inNamespace _ _ _ _ _ hworked => exact Or.inl (by rw [hworked.classes])
  | finalizing _ _ _ _ _ hworked => exact Or.inl (by rw [hworked.classes])
  | @updating c c₁ s₀ _ hkey hname hc active hguards hworked =>
    rw [hworked.classes]
    by_cases hd : d = c.nameAny
    · subst hd
      obtain ⟨hspec, hstatus⟩ := hguards.unamended (hs.find?_webhooks c.nameAny)
      exact Or.inr ⟨c, c₁, hname ▸ hc, hguards.stored, hspec, hstatus, hguards.isDeleting⟩
    · exact Or.inl (hguards.others d hd)

/-- Only a class of the key's name is written. -/
theorem Underway.find?_classes_of_ne (h : s.Underway names key s₁) (hname : className ≠ key.name) :
    s₁.classes.find? className = s.classes.find? className := by
  cases h with
  | started => rfl
  | inNamespace _ _ _ _ _ hworked => rw [hworked.classes]
  | finalizing _ _ _ _ _ hworked => rw [hworked.classes]
  | updating _ hkey _ _ hguards hworked =>
    rw [hworked.classes]
    exact hguards.others className (hkey ▸ hname)

theorem Underway.namespaces (h : s.Underway names key s₁) : s₁.namespaces = s.namespaces := by
  cases h with
  | started => rfl
  | inNamespace _ _ _ _ _ hworked => exact hworked.namespaces
  | updating _ _ _ _ hguards hworked => exact hworked.namespaces.trans hguards.namespaces
  | finalizing _ _ _ _ _ hworked => exact hworked.namespaces

theorem Ends.namespaces {r : ReconcileResult} (h : s.Ends names key r s₂) :
    s₂.namespaces = s.namespaces := by
  cases h with
  | left _ hunderway => exact hunderway.namespaces
  | recorded _ _ _ hunderway hstores => exact hstores.namespaces.trans hunderway.namespaces
  | released _ _ hunderway hnamespaces => exact hnamespaces.trans hunderway.namespaces

theorem Ends.find?_classes_of_ne {r : ReconcileResult} (h : s.Ends names key r s₂)
    (hname : className ≠ key.name) : s₂.classes.find? className = s.classes.find? className := by
  cases h with
  | left _ hunderway => exact hunderway.find?_classes_of_ne hname
  | recorded _ _ _ hunderway hstores =>
    exact (hstores.others className hname).trans (hunderway.find?_classes_of_ne hname)
  | released _ _ hunderway _ _ hothers =>
    exact (hothers className hname).trans (hunderway.find?_classes_of_ne hname)

theorem Ends.find?_objects {r : ReconcileResult} (h : s.Ends names key r s₂) (hs : s.Named)
    {ns : Namespace} (hns : ns ∈ s.namespacesForClass className) {k : ObjectKey}
    (hk : k.namespaceName = ns.nameAny) {o : Manifest} (ho : s₂.objects.find? k = some o) :
    s.objects.find? k = some o ∨ key.concerns s className = true ∧
      ∃ c, s.classes.find? className = some c ∧ c.isDeleting = false ∧
        ∃ t ∈ Template.parseAll c.spec.resources, t.Made ns.nameAny k o := by
  cases h with
  | left _ hunderway => exact hunderway.find?_objects hs hns hk ho
  | recorded _ _ _ hunderway hstores =>
    exact hunderway.find?_objects hs hns hk (hstores.objects ▸ ho)
  | released _ _ hunderway _ hobjects =>
    exact hunderway.find?_objects hs hns hk (hobjects ▸ ho)

/-- A class that is not being deleted stays so and keeps its spec. Its record stays unless it is
this class that the reconcile has applied. -/
theorem Ends.active {r : ReconcileResult} (h : s.Ends names key r s₂) (hs : s.WellFormed)
    {c : NamespaceClass} (hc : s.classes.find? className = some c)
    (active : c.isDeleting = false) : ∃ c₂, s₂.classes.find? className = some c₂ ∧
      c₂.isDeleting = false ∧ c₂.spec = c.spec ∧
        (c₂.status = c.status ∨ key.name = className ∧ r.isApplied = true) := by
  -- what the class is before the last write
  have hbefore : ∀ {s₁}, s.Underway names key s₁ → ∃ c₁, s₁.classes.find? className = some c₁ ∧
      c₁.isDeleting = false ∧ c₁.spec = c.spec ∧ c₁.status = c.status := by
    intro s₁ hunderway
    rcases hunderway.find?_classes hs className with hsame |
      ⟨c', c₁, hc', hc₁, hspec, hstatus, hdeleting⟩
    · exact ⟨c, hsame.trans hc, active, rfl, rfl⟩
    · obtain rfl := Option.some.inj (hc.symm.trans hc')
      exact ⟨c₁, hc₁, hdeleting.trans active, hspec, hstatus⟩
  cases h with
  | left _ hunderway =>
    obtain ⟨c₁, hc₁, hactive, hspec, hstatus⟩ := hbefore hunderway
    exact ⟨c₁, hc₁, hactive, hspec, Or.inl hstatus⟩
  | @recorded _ _ _ c' c₂ s₁ _ _ hc' _ hunderway hstores hspec hactive =>
    by_cases hname : className = key.name
    · subst hname
      obtain rfl := Option.some.inj (hc.symm.trans hc')
      exact ⟨c₂, hstores.stored, hactive, hspec, Or.inr ⟨rfl, rfl⟩⟩
    · obtain ⟨c₁, hc₁, hactive, hspec, hstatus⟩ := hbefore hunderway
      exact ⟨c₁, (hstores.others className hname).trans hc₁, hactive, hspec, Or.inl hstatus⟩
  | @released _ _ c' s₁ _ hc' deleting hunderway _ _ hothers _ =>
    have hname : className ≠ key.name := by
      rintro rfl
      obtain rfl := Option.some.inj (hc.symm.trans hc')
      rw [active] at deleting
      cases deleting
    obtain ⟨c₁, hc₁, hactive, hspec, hstatus⟩ := hbefore hunderway
    exact ⟨c₁, (hothers className hname).trans hc₁, hactive, hspec, Or.inl hstatus⟩

/-- A class that is being deleted or missing stays so. -/
theorem Ends.deleting {r : ReconcileResult} (h : s.Ends names key r s₂) (hs : s.WellFormed)
    (deleting : ∀ c, s.classes.find? className = some c → c.isDeleting = true)
    {c₂ : NamespaceClass} (hc₂ : s₂.classes.find? className = some c₂) :
    c₂.isDeleting = true := by
  have hbefore : ∀ {s₁ c₁}, s.Underway names key s₁ → s₁.classes.find? className = some c₁ →
      c₁.isDeleting = true := by
    intro s₁ c₁ hunderway hc₁
    rcases hunderway.find?_classes hs className with hsame | ⟨c, c₁', hc, hc₁', -, -, hdeleting⟩
    · exact deleting c₁ (hsame.symm.trans hc₁)
    · obtain rfl := Option.some.inj (hc₁.symm.trans hc₁')
      exact hdeleting.trans (deleting c hc)
  cases h with
  | left _ hunderway => exact hbefore hunderway hc₂
  | @recorded _ _ _ c c₁ s₁ _ _ hc active hunderway hstores =>
    have hname : className ≠ key.name := by
      rintro rfl
      rw [deleting c hc] at active
      cases active
    exact hbefore hunderway ((hstores.others className hname).symm.trans hc₂)
  | @released _ _ c s₁ _ _ _ hunderway _ _ hothers hreleased =>
    by_cases hname : className = key.name
    · exact hreleased c₂ (hname ▸ hc₂)
    · exact hbefore hunderway ((hothers className hname).symm.trans hc₂)

/-- Only a class that is stored and not being deleted is applied. -/
theorem Ends.of_isApplied {r : ReconcileResult} (h : s.Ends names key r s₂)
    (hr : r.isApplied = true) : key.NamesClass s ∧
      ∃ c, s.classes.find? key.name = some c ∧ c.isDeleting = false := by
  cases h with
  | left hr' =>
    rw [hr'] at hr
    cases hr
  | recorded hkey hc active => exact ⟨hkey, _, hc, active⟩
  | released => cases hr

end Cluster

/-! ## What an update leaves -/

namespace NamespaceClass

variable {c : NamespaceClass} {id : TemplateId}

theorem mem_ids_removedEntries : id ∈ Template.ids c.removedEntries ↔
    id ∈ Template.ids c.lastApplied ∧ id ∉ Revision.claimedIds c.spec.resources := by
  simp only [Template.mem_ids, ← c.templates_eq, Revision.mem_templates, Template.mem_parseAll,
    Revision.mem_claimedIds, not_exists, not_and]
  constructor
  · rintro ⟨t, ⟨raw, hraw, hparse, hclaimed⟩, rfl⟩
    exact ⟨⟨t, ⟨raw, hraw, hparse⟩, rfl⟩, hclaimed⟩
  · rintro ⟨⟨t, ⟨raw, hraw, hparse⟩, rfl⟩, hclaimed⟩
    exact ⟨t, ⟨raw, hraw, hparse, hclaimed⟩, rfl⟩

/-- Where no name is refused, the record holds what is declared and, unless the class is
identified, what is removed. -/
theorem mem_ids_recordAfter {namespaces : List Namespace} :
    id ∈ Template.ids (c.recordAfter [] namespaces) ↔ id ∈ Template.ids c.spec.resources ∨
      c.isIdentified = false ∧ id ∈ Template.ids c.removedEntries := by
  have hnone : ∀ raw, (Template.parse? raw).any (fun t => decide (t.name ∈ ([] : List String))) =
      false := by
    intro raw
    cases Template.parse? raw with
    | none => rfl
    | some t => simp
  rw [recordAfter, Template.ids, Template.parseAll, List.filterMap_append, List.map_append,
    List.mem_append]
  simp only [hnone, Bool.false_and, Bool.or_false]
  refine or_congr Iff.rfl ?_
  cases c.isIdentified with
  | true => simp
  | false => simp [Template.ids, Template.parseAll]

/-- Where no name is refused, nothing is found at the key of a removed template in a namespace
that has obsolete objects deleted. -/
theorem find?_updateObjects_of_removed {ns : Namespace} (hopted : ns.cleanupObsoleteEnabled = true)
    (hidentified : c.isIdentified = true) {t : Template} (ht : ∃ raw, Template.parse raw = .ok t)
    (hid : t.id ∈ Template.ids c.removedEntries) (objects : Objects) :
    (c.updateObjects [] objects ns).find? (ObjectKey.new t.kind ns.nameAny t.name) = none := by
  obtain ⟨u, hu, hsame⟩ := Template.mem_ids.1 hid
  obtain ⟨raw, hparse⟩ := ht
  obtain ⟨raw', -, hparse'⟩ := Template.mem_parseAll.1 hu
  have hpruned : u ∈ c.prunedFrom ns := mem_prunedFrom.2 ⟨⟨hopted, hidentified⟩, hu⟩
  rw [updateObjects, find?_foldl_eraseTemplate, if_pos]
  exact ⟨u, hpruned, List.not_mem_nil, (Template.key_eq_of_id_eq hparse hparse' hsame _).symm⟩

end NamespaceClass

/-- An update leaves a class stored that it has updated. -/
theorem Cluster.find?_of_updateContents {s s' : Cluster} {names : List String}
    {namespaces : List Namespace} {c : NamespaceClass}
    (h : s'.contents = c.updateContents names namespaces s.contents) :
    ∃ c', s'.classes.find? c.nameAny = some c' ∧
      c'.unversioned = (c.updated names namespaces).unversioned := by
  have hfind := congrArg (fun s : Contents => s.classes.find? c.nameAny) h
  simp only [Cluster.contents, NamespaceClass.updateContents, SortedMap.find?_map,
    SortedMap.find?_insert, if_true] at hfind
  exact Option.map_eq_some_iff.1 hfind

namespace Simulation

/-- A key of a class that is not being deleted has it updated. -/
theorem reconcile_active {s : Simulation} (hs : s.cluster.WellFormed)
    {error : String → StoreError} {names : List String}
    (hfaults : s.faults = Fault.refusing error names) {className : String} {c : NamespaceClass}
    (hc : s.cluster.classes.find? className = some c) (active : c.isDeleting = false) :
    let r := s.reconcile (.ofClass className) .never
    let namespaces := s.cluster.namespacesForClass className
    r.1 = .ok (.applied namespaces.length (namespaces.map (c.failedIn names)).sum
        (namespaces.map (c.deletedFrom names)).sum) ∧
      r.2.cluster.contents = c.updateContents names namespaces s.cluster.contents := by
  intro r namespaces
  obtain ⟨s', hrun, hcontents⟩ := Cluster.runRefusing_reconcile_active error names hs hc active
  obtain ⟨hresult, hcluster, -⟩ :=
    run_refusing hfaults (ClassReconciler.reconcile (.ofClass className)).run
  rw [hrun] at hresult hcluster
  obtain rfl : r.2.cluster = s' := hcluster
  exact ⟨hresult, hcontents⟩

/-- Where no call fails, a reconcile ends as on a store that refuses no name. -/
theorem reconcile_ends_of_faultless {s : Simulation} (hfaults : s.faults = [])
    (hs : s.cluster.WellFormed) (key : Key) (cancellation : Cancellation) :
    let r := s.reconcile key cancellation
    r.2.faults = [] ∧ r.2.cluster.WellFormed ∧ s.cluster.Ends [] key r.1 r.2.cluster := by
  have hrefusing : s.faults = Fault.refusing (fun _ => .timeout) [] := hfaults
  exact reconcile_ends hrefusing hs key cancellation

/-- A reconcile that has applied a class, where no call fails: it is the update of the class. -/
theorem reconcile_of_isApplied {s : Simulation} (hfaults : s.faults = [])
    (hs : s.cluster.WellFormed) {key : Key} {cancellation : Cancellation}
    (h : (s.reconcile key cancellation).1.isApplied = true) :
    ∃ c, s.cluster.classes.find? key.name = some c ∧ c.isDeleting = false ∧
      (s.reconcile key cancellation).2.cluster.contents =
        c.updateContents [] (s.cluster.namespacesForClass key.name) s.cluster.contents := by
  have hrefusing : s.faults = Fault.refusing (fun _ => .timeout) [] := hfaults
  obtain ⟨hkey, c, hc, active⟩ :=
    (reconcile_ends_of_faultless hfaults hs key cancellation).2.2.of_isApplied h
  refine ⟨c, hc, active, ?_⟩
  obtain ⟨s', hrun, hcontents⟩ :=
    Cluster.runRefusing_reconcile_active (fun _ => .timeout) [] hs hc active
  rw [← Cluster.runRefusing_reconcile_of_namesClass (fun _ => .timeout) [] hkey] at hrun
  obtain ⟨m, f, p, hresult⟩ := ReconcileResult.isApplied_iff.1 h
  rw [reconcile_of_ok hresult]
  refine Eq.trans (congrArg Cluster.contents ?_) hcontents
  exact (run_refusing hrefusing _).2.1.trans (congrArg Prod.snd hrun)

/-- What such a reconcile leaves of the class and at the keys of its namespaces. -/
theorem stored_of_isApplied {s : Simulation} (hfaults : s.faults = [])
    (hs : s.cluster.WellFormed) {key : Key} {cancellation : Cancellation}
    (h : (s.reconcile key cancellation).1.isApplied = true) {c : NamespaceClass}
    (hc : s.cluster.classes.find? key.name = some c) :
    let after := (s.reconcile key cancellation).2.cluster
    let namespaces := s.cluster.namespacesForClass key.name
    (∀ c₂, after.classes.find? key.name = some c₂ →
      Template.ids c₂.lastApplied = Template.ids (c.recordAfter [] namespaces)) ∧
    ∀ ns ∈ namespaces, ∀ k, k.namespaceName = ns.nameAny →
      (after.objects.find? k).map Manifest.unversioned =
        (c.updateObjects [] s.cluster.contents.objects ns).find? k := by
  intro after namespaces
  obtain ⟨c', hc', active, hcontents⟩ := reconcile_of_isApplied hfaults hs h
  obtain rfl := Option.some.inj (hc.symm.trans hc')
  constructor
  · intro c₂ hc₂
    have hname : c.nameAny = key.name := hs.classes hc
    obtain ⟨c', hc', hstored⟩ := Cluster.find?_of_updateContents hcontents
    rw [hname, hc₂] at hc'
    obtain rfl := Option.some.inj hc'
    have hrecord : c₂.unversioned.lastApplied =
        (c.updated [] namespaces).unversioned.lastApplied := by rw [hstored]
    exact (congrArg Template.ids hrecord).trans
      (Template.ids_congr (c.lastApplied_updated [] namespaces))
  · intro ns hns k hk
    have hfind := congrArg (fun s : Contents => s.objects.find? k) hcontents
    simp only [Cluster.contents, NamespaceClass.updateContents, SortedMap.find?_map] at hfind
    refine hfind.trans ?_
    exact find?_foldl_actsIn (c.actsIn_updateObjects [])
      (hs.pairwise_namespacesForClass key.name) hns hk s.cluster.contents.objects

end Simulation

end ClassReconciler
