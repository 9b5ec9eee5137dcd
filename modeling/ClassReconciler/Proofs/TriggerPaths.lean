import ClassReconciler.Proofs.ReconcileEnds
import ClassReconciler.Proofs.Upshot

/-!
# The two ways to a class

The class of a namespace is applied when the namespace is reconciled, and when the class is. Where
the writes to the objects of some names are refused and nothing else fails, both ways come to the
same objects as long as the class has nothing to prune, and it does not matter in which order keys
of different classes are reconciled (`trigger_paths_agree`).

A reconcile about a class looks at no other class and works in no namespace of another one
(`Key.IsAbout.upshot_eq`). What is done in different namespaces can be exchanged
(`foldl_actsIn_comm`) and can be done in any order (`foldl_actsIn_of_perm`).
-/

namespace ClassReconciler

/-! ## Changes of namespaces in another order -/

section Namespaces

variable {step step' : Objects → Namespace → Objects}
  (hstep : ∀ ns, ActsIn ns.nameAny (step · ns)) {namespaces namespaces' : List Namespace}

include hstep

/-- Changes of namespaces with different names come to the same in every order. -/
theorem foldl_actsIn_of_perm (hperm : namespaces.Perm namespaces')
    (hnames : namespaces'.Pairwise fun ns ns' => ns.nameAny ≠ ns'.nameAny) (objects : Objects) :
    namespaces.foldl step objects = namespaces'.foldl step objects := by
  have hnames₁ := hnames.perm hperm.symm fun h => h.symm
  refine SortedMap.ext_find? fun k => ?_
  by_cases hk : ∃ ns ∈ namespaces, k.namespaceName = ns.nameAny
  · obtain ⟨ns, hns, hk⟩ := hk
    rw [find?_foldl_actsIn hstep hnames₁ hns hk,
      find?_foldl_actsIn hstep hnames (hperm.subset hns) hk]
  · rw [find?_foldl_of_forall_ne hstep fun ns hns h => hk ⟨ns, hns, h⟩,
      find?_foldl_of_forall_ne hstep fun ns hns h => hk ⟨ns, hperm.symm.subset hns, h⟩]

/-- Changes of namespaces and changes of others can be exchanged. -/
theorem foldl_actsIn_comm (hstep' : ∀ ns, ActsIn ns.nameAny (step' · ns))
    (hne : ∀ ns ∈ namespaces, ∀ ns' ∈ namespaces', ns.nameAny ≠ ns'.nameAny) (objects : Objects) :
    namespaces'.foldl step' (namespaces.foldl step objects) =
      namespaces.foldl step (namespaces'.foldl step' objects) := by
  refine SortedMap.ext_find? fun k => ?_
  by_cases hk : ∃ ns ∈ namespaces, k.namespaceName = ns.nameAny
  · obtain ⟨ns, hns, hk⟩ := hk
    have hother : ∀ ns' ∈ namespaces', k.namespaceName ≠ ns'.nameAny :=
      fun ns' hns' h => hne ns hns ns' hns' (hk.symm.trans h)
    rw [find?_foldl_of_forall_ne hstep' hother]
    exact find?_foldl_congr hstep namespaces (find?_foldl_of_forall_ne hstep' hother objects).symm
  · have hother : ∀ ns ∈ namespaces, k.namespaceName ≠ ns.nameAny :=
      fun ns hns h => hk ⟨ns, hns, h⟩
    rw [find?_foldl_of_forall_ne hstep hother]
    exact find?_foldl_congr hstep' namespaces' (find?_foldl_of_forall_ne hstep hother objects)

end Namespaces

/-! ## Keys about a class -/

/-- The key is tagged as the class's, or as that of a namespace that names the class. -/
def Key.IsAbout (key : Key) (s : Cluster) (className : String) : Prop :=
  key.kind = some .ofClass ∧ key.name = className ∨
    key.kind = some .inNamespace ∧ ∃ ns ∈ s.namespacesForClass className, ns.nameAny = key.name

namespace ClassWork

variable {names : List String} {className : String} {stored : Option NamespaceClass}

theorem eq_of_mem_ofNamespace {ns ns' : Namespace}
    (h : ns' ∈ (ofNamespace names className ns stored).namespaces) : ns' = ns := by
  cases stored with
  | none => exact absurd h List.not_mem_nil
  | some c =>
    simp only [ofNamespace] at h
    split at h
    · exact absurd h List.not_mem_nil
    · exact List.mem_singleton.1 h

theorem mem_of_mem_ofClass {listed : List Namespace} {ns : Namespace}
    (h : ns ∈ (ofClass names className listed stored).namespaces) : ns ∈ listed := by
  cases stored with
  | none => exact absurd h List.not_mem_nil
  | some c =>
    simp only [ofClass] at h
    split at h
    · exact h
    · split at h
      · exact h
      · exact absurd h List.not_mem_nil

end ClassWork

/-- Of the namespaces, a reconcile about a class works only in those that name it. Of the classes,
it regards only this one. -/
theorem Key.IsAbout.upshot_eq (names : List String) {s₀ : Cluster} (hs : s₀.Named) {key : Key}
    {className : String} (h : key.IsAbout s₀ className) :
    ∃ work : Option NamespaceClass → ClassWork,
      (∀ stored, ∀ ns ∈ (work stored).namespaces, ns ∈ s₀.namespacesForClass className) ∧
        ∀ s : Contents, s.namespaces = s₀.namespaces →
          s.upshot names key = s.after className (work (s.classes.find? className)) := by
  rcases h with ⟨hkind, rfl⟩ | ⟨hkind, ns, hns, hname⟩
  · refine ⟨.ofClass names key.name (s₀.namespacesForClass key.name),
      fun _ _ => ClassWork.mem_of_mem_ofClass, fun s hsame => ?_⟩
    rw [Contents.upshot, if_pos hkind, Contents.classUpshot, Contents.namespacesForClass, hsame,
      Cluster.namespacesForClass]
  · refine ⟨.ofNamespace names className ns,
      fun _ _ hmem => ClassWork.eq_of_mem_ofNamespace hmem ▸ hns, fun s hsame => ?_⟩
    obtain ⟨hfind, hlabel⟩ := hs.mem_namespacesForClass.1 hns
    have hstored : s.namespaces.find? key.name = some ns := by rw [hsame, ← hname, hfind]
    have hclass : key.kind ≠ some .ofClass := by simp [hkind]
    simp only [Contents.upshot, if_neg hclass, hstored, Contents.namespaceUpshot, hlabel]

/-- Work on one class and work on another one in other namespaces can be exchanged. -/
theorem Contents.after_comm (s : Contents) {className className' : String} {w w' : ClassWork}
    (hname : className ≠ className')
    (hne : ∀ ns ∈ w.namespaces, ∀ ns' ∈ w'.namespaces, ns.nameAny ≠ ns'.nameAny) :
    ((s.after className w).2.after className' w').2 =
      ((s.after className' w').2.after className w).2 := by
  simp only [after, s.classes.set_comm hname, foldl_actsIn_comm w.acts w'.acts hne]

/-- The order of two reconciles about different classes does not matter. -/
theorem Contents.upshotEach_comm (names : List String) {s₀ : Cluster} (hs : s₀.Named)
    {className className' : String} (hname : className ≠ className') {key key' : Key}
    (hkey : key.IsAbout s₀ className) (hkey' : key'.IsAbout s₀ className') :
    let one := s₀.contents.upshotEach names [key, key']
    let other := s₀.contents.upshotEach names [key', key]
    other.1 = one.1.reverse ∧ other.2 = one.2 := by
  intro one other
  obtain ⟨work, hwork, hafter⟩ := hkey.upshot_eq names hs
  obtain ⟨work', hwork', hafter'⟩ := hkey'.upshot_eq names hs
  let s := s₀.contents
  let w := work (s.classes.find? className)
  let w' := work' (s.classes.find? className')
  have hne : ∀ ns ∈ w.namespaces, ∀ ns' ∈ w'.namespaces, ns.nameAny ≠ ns'.nameAny :=
    fun ns hns ns' hns' heq =>
      hname (hs.eq_of_mem_namespacesForClass (hwork _ ns hns) (hwork' _ ns' hns') heq)
  have hfirst : s.upshot names key = s.after className w := hafter s rfl
  have hfirst' : s.upshot names key' = s.after className' w' := hafter' s rfl
  -- the second reconcile finds its class as the first one did
  have hsecond : (s.after className w).2.upshot names key' =
      (s.after className w).2.after className' w' := by
    rw [hafter' (s.after className w).2 rfl, find?_classes_after, if_neg hname.symm]
  have hsecond' : (s.after className' w').2.upshot names key =
      (s.after className' w').2.after className w := by
    rw [hafter (s.after className' w').2 rfl, find?_classes_after, if_neg hname]
  have hone : one = ([w.result, w'.result], ((s.after className w).2.after className' w').2) := by
    simp only [one, upshotEach, show s₀.contents = s from rfl, hfirst, hsecond]
    rfl
  have hother : other =
      ([w'.result, w.result], ((s.after className' w').2.after className w).2) := by
    simp only [other, upshotEach, show s₀.contents = s from rfl, hfirst', hsecond']
    rfl
  rw [hone, hother]
  exact ⟨rfl, (s.after_comm hname hne).symm⟩

/-! ## A class with nothing to prune -/

namespace NamespaceClass

variable {c : NamespaceClass} (hnone : c.removedEntries = []) (names : List String)

/-- Where every recorded template has the identity of an entry, nothing has been removed. -/
theorem removedEntries_eq_nil (h : ∀ raw ∈ c.lastApplied, ∀ t, Template.parse raw = .ok t →
    ∃ entry ∈ c.spec.resources, TemplateId.of entry = .ok t.id) : c.removedEntries = [] := by
  refine List.filter_eq_nil_iff.2 fun raw hraw hremoved => ?_
  obtain ⟨t, ht, hall⟩ := (Option.any_eq_true _ _).1 hremoved
  obtain ⟨entry, hentry, hid⟩ := h raw hraw t (Template.parse?_eq_some.1 ht)
  have hother := of_decide_eq_true (List.all_eq_true.1 hall entry hentry)
  exact hother (except_toOption_eq_some.2 hid)

include hnone

theorem prunedFrom_eq_nil (ns : Namespace) : c.prunedFrom ns = [] := by
  rw [prunedFrom, hnone]
  split <;> rfl

theorem updateObjects_eq_applyObjects : c.updateObjects names = c.applyObjects names := by
  funext objects ns
  rw [updateObjects, c.prunedFrom_eq_nil hnone, applyObjects, List.foldl_nil]

/-- Every namespace reports the entries that cannot be written, and no deletions. -/
theorem result_update (listed : List Namespace) :
    (ClassWork.update names c listed).result = .ok (.applied listed.length
      (listed.map fun _ => c.spec.resources.countP (isUnwritable names)).sum 0) := by
  have hfailed : c.failedIn names = fun _ => c.spec.resources.countP (isUnwritable names) := by
    funext ns
    rw [failedIn, c.prunedFrom_eq_nil hnone, List.countP_nil, Nat.add_zero]
  have hdeleted : c.deletedFrom names = fun _ => 0 := by
    funext ns
    rw [deletedFrom, c.prunedFrom_eq_nil hnone, List.countP_nil]
  simp only [ClassWork.update, hfailed, hdeleted, List.map_const', List.sum_replicate_nat,
    Nat.mul_zero]

end NamespaceClass

namespace Contents

variable (names : List String) {s : Contents} {className : String} {c : NamespaceClass}

/-- An active class is applied into a namespace, and nothing else happens. -/
theorem upshot_ofNamespace (hc : s.classes.find? className = some c)
    (active : c.isDeleting = false) {ns : Namespace}
    (hns : s.namespaces.find? ns.nameAny = some ns) (hlabel : ns.className? = some className) :
    s.upshot names (.ofNamespace ns.nameAny) =
      (.ok (.inNamespace className (c.spec.resources.countP (isUnwritable names))),
        { s with objects := c.applyObjects names s.objects ns }) := by
  have hwork : s.upshot names (.ofNamespace ns.nameAny) =
      s.after className (.apply names className c ns) := by
    have hkind : (Key.ofNamespace ns.nameAny).kind ≠ some .ofClass := nofun
    have hfind : s.namespaces.find? (Key.ofNamespace ns.nameAny).name = some ns := hns
    simp only [upshot, if_neg hkind, hfind, namespaceUpshot, hlabel, hc, ClassWork.ofNamespace,
      active, Bool.false_eq_true, if_false]
  have hclasses : s.classes.set className (some c) = s.classes := hc ▸ s.classes.set_find? className
  rw [hwork, after, ClassWork.apply, hclasses]
  rfl

/-- An active class is applied into one namespace after the other. -/
theorem upshotEach_ofNamespace (hc : s.classes.find? className = some c)
    (active : c.isDeleting = false) {order : List Namespace} (horder : ∀ ns ∈ order,
      s.namespaces.find? ns.nameAny = some ns ∧ ns.className? = some className) :
    s.upshotEach names (order.map fun ns => .ofNamespace ns.nameAny) =
      (order.map fun _ =>
          .ok (.inNamespace className (c.spec.resources.countP (isUnwritable names))),
        { s with objects := order.foldl (c.applyObjects names) s.objects }) := by
  induction order generalizing s with
  | nil => rfl
  | cons ns rest ih =>
    obtain ⟨hns, hlabel⟩ := horder ns List.mem_cons_self
    have hrest : ∀ ns' ∈ rest, s.namespaces.find? ns'.nameAny = some ns' ∧
        ns'.className? = some className := fun ns' hns' => horder ns' (List.mem_cons_of_mem _ hns')
    simp only [List.map_cons, upshotEach, upshot_ofNamespace names hc active hns hlabel]
    have hafter := ih (s := { s with objects := c.applyObjects names s.objects ns }) hc hrest
    rw [hafter]
    rfl

/-- An active class is updated in the namespaces that name it. -/
theorem upshot_ofClass (hc : s.classes.find? className = some c) (active : c.isDeleting = false) :
    s.upshot names (.ofClass className) =
      s.after className (.update names c (s.namespacesForClass className)) := by
  have hkind : (Key.ofClass className).kind = some .ofClass := rfl
  have hfind : s.classes.find? (Key.ofClass className).name = some c := hc
  simp only [upshot, if_pos hkind, classUpshot, hfind, ClassWork.ofClass, active, Bool.not_false,
    if_true]
  rfl

/-- To update a class with nothing to prune is to apply it into the namespaces that name it, in
whatever order. -/
theorem upshotEach_of_perm {s₀ : Cluster} (hs : s₀.Named)
    (hc : s₀.contents.classes.find? className = some c) (active : c.isDeleting = false)
    (hnone : c.removedEntries = []) {order : List Namespace}
    (hperm : order.Perm (s₀.namespacesForClass className)) :
    let each := s₀.contents.upshotEach names (order.map fun ns => .ofNamespace ns.nameAny)
    let whole := s₀.contents.upshot names (.ofClass className)
    each.2.objects = whole.2.objects ∧ ∃ failed : List Nat,
      each.1 = failed.map (fun n => .ok (.inNamespace className n)) ∧
        whole.1 = .ok (.applied order.length failed.sum 0) := by
  intro each whole
  have horder : ∀ ns ∈ order, s₀.contents.namespaces.find? ns.nameAny = some ns ∧
      ns.className? = some className := fun ns hns =>
    hs.mem_namespacesForClass.1 (hperm.subset hns)
  have heach : each = _ := upshotEach_ofNamespace names hc active horder
  have hwhole : whole = _ := upshot_ofClass names hc active
  rw [heach, hwhole]
  refine ⟨?_, order.map fun _ => c.spec.resources.countP (isUnwritable names), ?_, ?_⟩
  · rw [after, ClassWork.update]
    simp only [NamespaceClass.updateObjects_eq_applyObjects hnone]
    exact foldl_actsIn_of_perm (c.actsIn_applyObjects names) hperm
      (hs.pairwise_namespacesForClass className) s₀.contents.objects
  · rw [List.map_map]
    rfl
  · rw [hperm.length_eq, (hperm.map _).sum_nat]
    exact NamespaceClass.result_update hnone names _

end Contents

/-! ## Simulated runs -/

/-- Where the writes to the objects of some names are refused and nothing else fails, a reconcile
of an active class none of whose recorded templates has been removed leaves the same objects, but
for their versions, as reconciles of all the namespaces that name it, in whatever order, and
reports as many failures as they do together. Reconciles of two keys that are about different
classes have the same results in either order, and leave the same contents but for versions. -/
theorem trigger_paths_agree {s : Simulation} (hs : s.cluster.Reachable)
    {error : String → StoreError} {names : List String}
    (hfaults : s.faults = Fault.refusing error names) :
    (∀ className c, s.cluster.classes.find? className = some c → c.isDeleting = false →
      (∀ raw ∈ c.lastApplied, ∀ t, Template.parse raw = .ok t →
        ∃ entry ∈ c.spec.resources, TemplateId.of entry = .ok t.id) →
      ∀ order : List Namespace, order.Perm (s.cluster.namespacesForClass className) →
        let each := s.reconcileEach (order.map fun ns => .ofNamespace ns.nameAny)
        let whole := s.reconcile (.ofClass className) .never
        each.2.cluster.contents.objects = whole.2.cluster.contents.objects ∧
          ∃ failed : List Nat,
            each.1 = failed.map (fun n => .ok (.inNamespace className n)) ∧
            whole.1 = .ok (.applied order.length failed.sum 0)) ∧
    ∀ className className', className ≠ className' → ∀ key key' : Key,
      key.IsAbout s.cluster className → key'.IsAbout s.cluster className' →
        let one := s.reconcileEach [key, key']
        let other := s.reconcileEach [key', key]
        other.1 = one.1.reverse ∧ other.2.cluster.contents = one.2.cluster.contents := by
  have hw : s.cluster.WellFormed := hs.wellFormed
  refine ⟨fun className c hc active hrecord order hperm => ?_,
    fun className className' hname key key' hkey hkey' => ?_⟩
  · have hstored : s.cluster.contents.classes.find? className = some c.unversioned := by
      rw [Cluster.find?_classes_contents, hc]
      rfl
    have hnone : c.unversioned.removedEntries = [] :=
      NamespaceClass.removedEntries_eq_nil (c := c.unversioned) hrecord
    have hagree := Contents.upshotEach_of_perm names hw.toNamed hstored active hnone hperm
    rw [← reconcileEach_upshot hw hfaults, ← reconcile_upshot hw hfaults] at hagree
    exact hagree
  · have hcomm := Contents.upshotEach_comm names hw.toNamed hname hkey hkey'
    rw [← reconcileEach_upshot hw hfaults, ← reconcileEach_upshot hw hfaults] at hcomm
    exact hcomm

/-- Two namespaces name a class of which a template has been applied and one is new, and one names
a class that does not exist. -/
def Cluster.sampleShared : Cluster :=
  let c : NamespaceClass := {
    metadata := { name := some "gold", finalizers := some [classFinalizer] }
    spec := ⟨[sampleEntry "new", sampleEntry "stuck"]⟩
    status := some ⟨[sampleEntry "new"]⟩ }
  (((({} : Cluster).putNamespace (pruningNamespace "team" "gold")).putNamespace
    (pruningNamespace "lab" "gold")).putNamespace (pruningNamespace "field" "silver")).putClass c

/-- The class and its namespaces in reverse order, and the class and the namespace of the other
one, where the writes of one of the two objects are refused. -/
theorem trigger_paths_agree_sample :
    let s : Simulation :=
      { cluster := .sampleShared, faults := Fault.refusing (fun _ => .timeout) ["stuck"] }
    let order := (s.cluster.namespacesForClass "gold").reverse
    let whole := s.reconcile (.ofClass "gold") .never
    let one := s.reconcileEach [.ofClass "gold", .ofNamespace "field"]
    let other := s.reconcileEach [.ofNamespace "field", .ofClass "gold"]
    s.cluster.Reachable ∧ order.map Namespace.nameAny = ["team", "lab"] ∧
      (s.reconcileEach (order.map fun ns => .ofNamespace ns.nameAny)).2.cluster.contents.objects =
        whole.2.cluster.contents.objects ∧
      whole.1.toOption = some (.applied 2 2 0) ∧
      other.1 = one.1.reverse ∧ other.2.cluster.contents = one.2.cluster.contents := by
  intro s order whole one other
  have hs : s.cluster.Reachable :=
    (((Cluster.Reachable.empty.putNamespace _).putNamespace _).putNamespace _).putClass _
  have hfaults : s.faults = Fault.refusing (fun _ => .timeout) ["stuck"] := rfl
  obtain ⟨hpaths, hcomm⟩ := trigger_paths_agree hs hfaults
  obtain ⟨c, hc, active, hspec, hrecord⟩ : ∃ c, s.cluster.classes.find? "gold" = some c ∧
      c.isDeleting = false ∧
      c.spec.resources = [Cluster.sampleEntry "new", Cluster.sampleEntry "stuck"] ∧
      c.lastApplied = [Cluster.sampleEntry "new"] := ⟨_, rfl, rfl, rfl, rfl⟩
  have hrecorded : ∀ raw ∈ c.lastApplied, ∀ t, Template.parse raw = .ok t →
      ∃ entry ∈ c.spec.resources, TemplateId.of entry = .ok t.id := by
    intro raw hraw t ht
    rw [hrecord] at hraw
    rw [hspec]
    exact ⟨raw, List.mem_cons.2 (Or.inl (List.mem_singleton.1 hraw)), (Template.parse_eq_ok ht).1⟩
  obtain ⟨hobjects, -⟩ :=
    hpaths "gold" c hc active hrecorded order (List.reverse_perm _)
  have hnamespace : (Key.ofNamespace "field").IsAbout s.cluster "silver" :=
    Or.inr ⟨rfl, _, List.mem_singleton_self _, rfl⟩
  obtain ⟨hresults, hcontents⟩ := hcomm "gold" "silver" (by decide) (.ofClass "gold")
    (.ofNamespace "field") (Or.inl ⟨rfl, rfl⟩) hnamespace
  exact ⟨hs, by decide +kernel, hobjects, by decide +kernel, hresults, hcontents⟩

end ClassReconciler
