import ClassReconciler.Proofs.ClassUpdate
import ClassReconciler.Proofs.FailureReport

/-!
# Required objects

What is found of a declared template after its class has been updated without a failure. The
objects are written first, so that of several templates for one object the last one is found
(`find?_updateObjects`). Pruning comes after that and goes by identity, which holds an API
version, whereas all versions of a kind are views of one stored object. So a recorded template
that no entry claims can stand for the object of a declared one (`NamespaceClass.displaces`),
and where the namespace opts into pruning, its deletion takes that object away.
-/

namespace ClassReconciler

namespace NamespaceClass

variable (c : NamespaceClass)

/-- The last declared template that is stored at a key. -/
def lastAt? (n : String) (k : ObjectKey) : Option Template :=
  ((Template.parseAll c.spec.resources).filter fun t => ObjectKey.new t.kind n t.name = k).getLast?

/-- A removed template stands for the same object as the given one. -/
def displaces (t : Template) : Bool :=
  (Template.parseAll c.removedEntries).any fun u =>
    u.kind.group = t.kind.group ∧ u.kind.kind = t.kind.kind ∧ u.name = t.name

/-- Two templates are stored at one key if group, kind and name agree. -/
theorem displaces_iff {c : NamespaceClass} {t : Template} (n : String) :
    c.displaces t = true ↔ ∃ u ∈ Template.parseAll c.removedEntries,
      ObjectKey.new t.kind n t.name = ObjectKey.new u.kind n u.name := by
  simp only [displaces, List.any_eq_true, decide_eq_true_eq, ObjectKey.new, ObjectKey.mk.injEq,
    true_and]
  refine exists_congr fun u => and_congr_right fun _ => ?_
  constructor
  · rintro ⟨hgroup, hkind, hname⟩
    exact ⟨hgroup.symm, hkind.symm, hname.symm⟩
  · rintro ⟨hgroup, hkind, hname⟩
    exact ⟨hgroup.symm, hkind.symm, hname.symm⟩

/-- A declared template has a last one at its key. -/
theorem exists_lastAt? {c : NamespaceClass} {t : Template}
    (ht : t ∈ Template.parseAll c.spec.resources) (n : String) :
    ∃ u, c.lastAt? n (ObjectKey.new t.kind n t.name) = some u := by
  refine Option.isSome_iff_exists.1 (List.getLast?_isSome.2 ?_)
  exact List.ne_nil_of_mem (List.mem_filter.2 ⟨ht, by simp⟩)

/-- What an update leaves of a declared template's object, where every write is served. -/
theorem find?_updateObjects {c : NamespaceClass} {t : Template}
    (ht : t ∈ Template.parseAll c.spec.resources) (hidentified : c.isIdentified = true)
    (ns : Namespace) (objects : Objects) :
    let k := ObjectKey.new t.kind ns.nameAny t.name
    (c.updateObjects [] objects ns).find? k =
      if ns.cleanupObsoleteEnabled = true ∧ c.displaces t = true then none
      else (c.lastAt? ns.nameAny k).map (·.toObject ns.nameAny) := by
  intro k
  obtain ⟨u, hu⟩ := exists_lastAt? ht ns.nameAny
  have hwritten : ((Template.parseAll c.spec.resources).foldl (writeTemplate [] ns.nameAny)
      objects).find? k = (c.lastAt? ns.nameAny k).map (·.toObject ns.nameAny) := by
    rw [find?_foldl_writeTemplate]
    simp only [List.not_mem_nil, not_false_eq_true, true_and]
    rw [← lastAt?, hu]
    rfl
  have hpruned : (∃ u ∈ c.prunedFrom ns, u.name ∉ ([] : List String) ∧
      k = ObjectKey.new u.kind ns.nameAny u.name) ↔
        ns.cleanupObsoleteEnabled = true ∧ c.displaces t = true := by
    simp only [mem_prunedFrom, hidentified, List.not_mem_nil, not_false_eq_true, true_and,
      and_true, displaces_iff ns.nameAny]
    constructor
    · rintro ⟨u, ⟨hopted, hu⟩, hk⟩
      exact ⟨hopted, u, hu, hk⟩
    · rintro ⟨hopted, u, hu, hk⟩
      exact ⟨u, ⟨hopted, hu⟩, hk⟩
  rw [updateObjects, find?_foldl_eraseTemplate, hwritten]
  simp only [hpruned]

end NamespaceClass

/-- If the reconcile of a class that declares templates only reports an update without a
failure, then in each namespace that names the class, the object of each declared template
exists and is the one of the last declared template for it, unless a removed template stands
for the same object and the namespace has removed ones deleted: there it is gone. -/
theorem required_object_found {s : Simulation} (hs : s.cluster.Reachable) {className : String}
    {c : NamespaceClass} (hc : s.cluster.classes.find? className = some c)
    (active : c.isDeleting = false)
    (htemplates : ∀ raw ∈ c.spec.resources, ∃ t, Template.parse raw = .ok t)
    {namespaces pruned : Nat}
    (hresult : (s.reconcile (.ofClass className) .never).1 = .ok (.applied namespaces 0 pruned))
    {ns : Namespace} (hns : ns ∈ s.cluster.namespacesForClass className)
    {t : Template} (ht : t ∈ Template.parseAll c.spec.resources) :
    let k := ObjectKey.new t.kind ns.nameAny t.name
    let found := (s.reconcile (.ofClass className) .never).2.cluster.objects.find? k
    if ns.cleanupObsoleteEnabled = true ∧ c.displaces t = true then found = none
    else ∃ u o, c.lastAt? ns.nameAny k = some u ∧ found = some o ∧
      o.unversioned = u.toObject ns.nameAny := by
  intro k found
  obtain rfl := hs.wellFormed.classes hc
  -- as no failure is reported, every call was served
  obtain ⟨failed, hreported, -, hserved⟩ := Simulation.run_ensures_failed (s := s)
    (fun _ => .timeout) (reconcile_ofClass_failed c.nameAny)
  have hrun := hserved (hreported _ _ hresult)
  obtain ⟨s', hupdate, hcontents⟩ :=
    Cluster.runRefusing_reconcile_active (fun _ => .timeout) [] hs.wellFormed hc active
  have hcluster : (s.reconcile (.ofClass c.nameAny) .never).2.cluster = s' :=
    congrArg Prod.snd (hrun.symm.trans hupdate)
  have hfound : found.map Manifest.unversioned =
      (c.updateObjects [] s.cluster.contents.objects ns).find? k := by
    have hmap : found.map Manifest.unversioned = s'.contents.objects.find? k := by
      rw [Cluster.contents, SortedMap.find?_map, ← hcluster]
    rw [hmap, hcontents]
    exact find?_foldl_actsIn (c.actsIn_updateObjects [])
      (hs.wellFormed.pairwise_namespacesForClass c.nameAny) hns rfl s.cluster.contents.objects
  rw [NamespaceClass.find?_updateObjects ht (NamespaceClass.isIdentified_of_parse htemplates)]
    at hfound
  split
  case isTrue hdisplaced =>
    rw [if_pos hdisplaced] at hfound
    exact Option.map_eq_none_iff.1 hfound
  case isFalse hkept =>
    obtain ⟨u, hu⟩ := NamespaceClass.exists_lastAt? ht ns.nameAny
    rw [if_neg hkept, hu] at hfound
    obtain ⟨o, ho, hobject⟩ := Option.map_eq_some_iff.1 hfound
    exact ⟨u, o, hu, ho, hobject⟩

/-- In the small cluster, the declared config map is found. -/
theorem required_object_found_sample :
    let s : Simulation := { cluster := Cluster.sample }
    let r := s.reconcile (.ofClass "gold") .never
    ∃ c ns t, s.cluster.Reachable ∧ s.cluster.classes.find? "gold" = some c ∧
      c.isDeleting = false ∧ (∀ raw ∈ c.spec.resources, ∃ t, Template.parse raw = .ok t) ∧
      r.1 = .ok (.applied 1 0 2) ∧ ns ∈ s.cluster.namespacesForClass "gold" ∧
      t ∈ Template.parseAll c.spec.resources ∧ c.displaces t = false ∧
      ∃ o, r.2.cluster.objects.find? (ObjectKey.new t.kind ns.nameAny t.name) = some o := by
  intro s r
  have hs : s.cluster.Reachable := Cluster.reachable_sample
  obtain ⟨c, t, hc, hspec, active, hparse, hkept⟩ : ∃ c t,
      s.cluster.classes.find? "gold" = some c ∧ c.spec.resources = [Cluster.sampleEntry "new"] ∧
      c.isDeleting = false ∧ Template.parse (Cluster.sampleEntry "new") = .ok t ∧
      c.displaces t = false := ⟨_, _, rfl, rfl, rfl, rfl, rfl⟩
  have htemplates : ∀ raw ∈ c.spec.resources, ∃ t, Template.parse raw = .ok t := by
    rw [hspec]
    exact fun raw hraw => ⟨t, List.mem_singleton.1 hraw ▸ hparse⟩
  have ht : t ∈ Template.parseAll c.spec.resources := by
    rw [hspec]
    exact Template.mem_parseAll.2 ⟨_, List.mem_singleton_self _, hparse⟩
  have hresult : r.1 = .ok (.applied 1 0 2) := rfl
  obtain ⟨ns, hns⟩ : ∃ ns, ns ∈ s.cluster.namespacesForClass "gold" := ⟨_, List.mem_cons_self⟩
  have hfound := required_object_found hs hc active htemplates hresult hns ht
  rw [hkept, if_neg (by simp)] at hfound
  obtain ⟨u, o, -, ho, -⟩ := hfound
  exact ⟨c, ns, t, hs, hc, active, htemplates, hresult, hns, ht, hkept, o, ho⟩

/-! ### A template that moves to another version -/

/-- A raw widget of an API version. -/
def widgetEntry (apiVersion : String) : Json :=
  .obj [("apiVersion", .str apiVersion), ("kind", .str "Widget"),
    ("metadata", .obj [("name", .str "w")])]

/-- A class that has applied a widget and now declares it in the next version. -/
def Cluster.moved : Cluster :=
  let c : NamespaceClass := {
    metadata := { name := some "gold" }
    spec := ⟨[widgetEntry "example.com/v2"]⟩
    status := some ⟨[widgetEntry "example.com/v1"]⟩ }
  (({} : Cluster).putNamespace (pruningNamespace "team" "gold")).putClass c

theorem Cluster.reachable_moved : moved.Reachable :=
  (Reachable.empty.putNamespace _).putClass _

/-- The update of that class reports no failure and leaves no widget. -/
theorem Cluster.reconcile_moved :
    let r := ({ cluster := Cluster.moved } : Simulation).reconcile (.ofClass "gold") .never
    r.1.toOption = some (.applied 1 0 1) ∧ r.2.cluster.objects.keys = [] := by decide +kernel

/-- The widget that is declared is not found: the one of the earlier version is deleted after it
has been written in its place. -/
theorem required_object_not_kept :
    ¬∀ (s : Simulation) (className : String) (c : NamespaceClass) (namespaces pruned : Nat)
      (ns : Namespace) (t : Template), s.cluster.Reachable →
      s.cluster.classes.find? className = some c → c.isDeleting = false →
      (∀ raw ∈ c.spec.resources, ∃ t, Template.parse raw = .ok t) →
      (s.reconcile (.ofClass className) .never).1 = .ok (.applied namespaces 0 pruned) →
      ns ∈ s.cluster.namespacesForClass className → t ∈ Template.parseAll c.spec.resources →
      ((s.reconcile (.ofClass className) .never).2.cluster.objects.find?
        (ObjectKey.new t.kind ns.nameAny t.name)).isSome := by
  intro hclaim
  obtain ⟨c, hc, hspec, active⟩ : ∃ c, Cluster.moved.classes.find? "gold" = some c ∧
      c.spec.resources = [widgetEntry "example.com/v2"] ∧ c.isDeleting = false :=
    ⟨_, rfl, rfl, rfl⟩
  have hsome : (Template.parse? (widgetEntry "example.com/v2")).isSome = true := by decide +kernel
  obtain ⟨t, ht⟩ := Option.isSome_iff_exists.1 hsome
  have htemplates : ∀ raw ∈ c.spec.resources, ∃ t, Template.parse raw = .ok t := by
    rw [hspec]
    exact fun raw hraw => ⟨t, List.mem_singleton.1 hraw ▸ Template.parse?_eq_some.1 ht⟩
  have ht : t ∈ Template.parseAll c.spec.resources := by
    rw [hspec]
    exact List.mem_filterMap.2 ⟨_, List.mem_singleton_self _, ht⟩
  obtain ⟨ns, hns⟩ : ∃ ns, ns ∈ Cluster.moved.namespacesForClass "gold" :=
    ⟨_, List.mem_cons_self⟩
  obtain ⟨hresult, hnone⟩ := Cluster.reconcile_moved
  have hfound := hclaim { cluster := Cluster.moved } "gold" c 1 1 ns t Cluster.reachable_moved hc
    active htemplates (except_toOption_eq_some.1 hresult) hns ht
  rw [← SortedMap.mem_keys_iff, hnone] at hfound
  exact List.not_mem_nil hfound

end ClassReconciler
