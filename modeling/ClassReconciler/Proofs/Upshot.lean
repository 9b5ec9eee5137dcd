import ClassReconciler.Proofs.Resumption

/-!
# What a reconcile comes to

Where the writes to the objects of some names are refused and nothing else fails, the result of a
reconcile and the contents of the cluster afterwards are a function of the contents before
(`Cluster.runRefusing_reconcile`): versions do not matter to either. `Contents.upshot` is this
function.

But for keys that stand for nothing, it is work on one class. `ClassWork` says what comes of it: a
result, what is left of the class, and a change of the objects in some namespaces. All of that
depends on the namespaces and on the class alone, and the objects are changed namespace by
namespace, whatever else there is.
-/

namespace ClassReconciler

/-! ## Entries that are set -/

namespace SortedMap

variable {κ α : Type} [Ord κ] [Std.TransOrd κ] [Std.LawfulEqOrd κ] [DecidableEq κ]

/-- The map with a value at a key, or with none there. -/
def set (m : SortedMap κ α) (k : κ) : Option α → SortedMap κ α
  | some a => m.insert k a
  | none => m.erase k

theorem find?_set (m : SortedMap κ α) (k k' : κ) (a? : Option α) :
    (m.set k a?).find? k' = if k' = k then a? else m.find? k' := by
  cases a? with
  | some a => exact find?_insert m k k' a
  | none => exact find?_erase m k k'

theorem set_find? (m : SortedMap κ α) (k : κ) : m.set k (m.find? k) = m := by
  refine ext_find? fun k' => ?_
  rw [find?_set]
  split
  case isTrue h => rw [h]
  case isFalse => rfl

theorem set_comm (m : SortedMap κ α) {k k' : κ} (h : k ≠ k') (a? b? : Option α) :
    (m.set k a?).set k' b? = (m.set k' b?).set k a? := by
  refine ext_find? fun j => ?_
  simp only [find?_set]
  by_cases hj : j = k
  · have hj' : j ≠ k' := fun hk' => h (hj.symm.trans hk')
    simp only [if_pos hj, if_neg hj']
  · simp only [if_neg hj]

end SortedMap

/-! ## Work on one class -/

/-- What comes of a reconcile about one class: its result, what is left of the class, and how the
objects of some namespaces change. -/
structure ClassWork where
  result : ReconcileResult
  left : Option NamespaceClass
  namespaces : List Namespace
  step : Objects → Namespace → Objects
  acts : ∀ ns, ActsIn ns.nameAny (step · ns)

/-- The objects after a class is applied into a namespace. -/
def NamespaceClass.applyObjects (c : NamespaceClass) (names : List String) (objects : Objects)
    (ns : Namespace) : Objects :=
  (Template.parseAll c.spec.resources).foldl (writeTemplate names ns.nameAny) objects

theorem NamespaceClass.actsIn_applyObjects (c : NamespaceClass) (names : List String)
    (ns : Namespace) : ActsIn ns.nameAny (c.applyObjects names · ns) :=
  ActsIn.foldl (Template.parseAll c.spec.resources)
    fun t _ => actsIn_writeTemplate names ns.nameAny t

theorem actsIn_cleanObjects (names : List String) (templates : List Template) (ns : Namespace) :
    ActsIn ns.nameAny (cleanObjects names templates · ns) :=
  (ActsIn.foldl templates fun t _ => actsIn_eraseTemplate names ns.nameAny t).ite (.id ns.nameAny)

namespace ClassWork

/-- No object changes. -/
def idle (result : ReconcileResult) (left : Option NamespaceClass) : ClassWork where
  result := result
  left := left
  namespaces := []
  step objects _ := objects
  acts ns := .id ns.nameAny

variable (names : List String)

/-- A class is applied into a namespace. -/
def apply (className : String) (c : NamespaceClass) (ns : Namespace) : ClassWork where
  result := .ok (.inNamespace className (c.spec.resources.countP (isUnwritable names)))
  left := some c
  namespaces := [ns]
  step := c.applyObjects names
  acts := c.actsIn_applyObjects names

/-- A class is updated in the namespaces that name it. -/
def update (c : NamespaceClass) (listed : List Namespace) : ClassWork where
  result := .ok (.applied listed.length (listed.map (c.failedIn names)).sum
    (listed.map (c.deletedFrom names)).sum)
  left := some (c.updated names listed).unversioned
  namespaces := listed
  step := c.updateObjects names
  acts := c.actsIn_updateObjects names

/-- A class is cleaned up after, and is released if no deletion is refused. -/
def cleanup (className : String) (c : NamespaceClass) (listed : List Namespace) : ClassWork where
  result :=
    if c.refusedDeletions names listed = 0 then
      .ok (.finalized (listed.countP (·.cleanupEnabled)) (listed.countP (!·.cleanupEnabled)))
    else .error (.cleanup className (c.refusedDeletions names listed))
  left :=
    if c.refusedDeletions names listed ≠ 0 then some c
    else if c.otherFinalizers = [] then none
    else some (c.withFinalizers c.otherFinalizers)
  namespaces := listed
  step := cleanObjects names c.ownTemplates
  acts := actsIn_cleanObjects names c.ownTemplates

/-- The reconcile of a namespace that names a class. -/
def ofNamespace (className : String) (ns : Namespace) : Option NamespaceClass → ClassWork
  | none => idle (.error (.missingClass ns.nameAny className)) none
  | some c =>
    if c.isDeleting then idle (.ok (.classDeleting className)) (some c)
    else apply names className c ns

/-- The reconcile of a class that some namespaces name. -/
def ofClass (className : String) (listed : List Namespace) : Option NamespaceClass → ClassWork
  | none => idle (.ok (.orphaned listed.length)) none
  | some c =>
    if !c.isDeleting then update names c listed
    else if c.hasFinalizer then cleanup names className c listed
    else idle (.ok .deleted) (some c)

end ClassWork

/-! ## Contents afterwards -/

namespace Contents

/-- The result of the work on the class of a name, and the contents afterwards. -/
def after (s : Contents) (className : String) (w : ClassWork) : ReconcileResult × Contents :=
  (w.result, ⟨s.namespaces, s.classes.set className w.left, w.namespaces.foldl w.step s.objects⟩)

theorem find?_classes_after (s : Contents) (className d : String) (w : ClassWork) :
    (s.after className w).2.classes.find? d =
      if d = className then w.left else s.classes.find? d :=
  SortedMap.find?_set _ _ _ _

theorem after_idle (s : Contents) (className : String) (result : ReconcileResult) :
    s.after className (.idle result (s.classes.find? className)) = (result, s) :=
  congrArg (fun classes => (result, (⟨s.namespaces, classes, s.objects⟩ : Contents)))
    (s.classes.set_find? className)

theorem eq_after {s s' : Contents} {className : String} {w : ClassWork}
    {result : ReconcileResult} (hresult : result = w.result)
    (hnamespaces : s'.namespaces = s.namespaces) (hleft : s'.classes.find? className = w.left)
    (hothers : ∀ d, d ≠ className → s'.classes.find? d = s.classes.find? d)
    (hobjects : s'.objects = w.namespaces.foldl w.step s.objects) :
    (result, s') = s.after className w := by
  have hclasses : s'.classes = s.classes.set className w.left := by
    refine SortedMap.ext_find? fun d => ?_
    rw [SortedMap.find?_set]
    split
    case isTrue hd => rw [hd, hleft]
    case isFalse hd => exact hothers d hd
  rw [after, ← hresult, ← hnamespaces, ← hclasses, ← hobjects]

variable (names : List String)

def namespacesForClass (s : Contents) (className : String) : List Namespace :=
  s.namespaces.values.filter fun ns => ns.className? = some className

def namespaceUpshot (s : Contents) (ns : Namespace) : ReconcileResult × Contents :=
  match ns.className? with
  | none => (.ok .unlabeled, s)
  | some className =>
    s.after className (.ofNamespace names className ns (s.classes.find? className))

def classUpshot (s : Contents) (className : String) : ReconcileResult × Contents :=
  s.after className
    (.ofClass names className (s.namespacesForClass className) (s.classes.find? className))

/-- The result of reconciling a key, and the contents afterwards. -/
def upshot (s : Contents) (key : Key) : ReconcileResult × Contents :=
  if key.kind = some .ofClass then s.classUpshot names key.name
  else
    match s.namespaces.find? key.name with
    | some ns => s.namespaceUpshot names ns
    | none =>
      if key.kind = some .inNamespace then (.ok .gone, s) else s.classUpshot names key.name

/-- The results of reconciling keys in order, and the contents afterwards. -/
def upshotEach (s : Contents) : List Key → List ReconcileResult × Contents
  | [] => ([], s)
  | key :: rest =>
    let r := s.upshot names key
    let after := r.2.upshotEach rest
    (r.1 :: after.1, after.2)

end Contents

/-! ## Runs -/

namespace Cluster

variable (error : String → StoreError) (names : List String) {s : Cluster}

theorem find?_classes_contents (s : Cluster) (name : String) :
    s.contents.classes.find? name = (s.classes.find? name).map NamespaceClass.unversioned :=
  SortedMap.find?_map _ _ _

/-- A reconcile of a class that ends without a change. -/
theorem contents_after_idle {className : String} {stored : Option NamespaceClass}
    (hstored : s.classes.find? className = stored) (result : ReconcileResult) :
    (result, s.contents) =
      s.contents.after className (.idle result (stored.map NamespaceClass.unversioned)) := by
  rw [← hstored, ← find?_classes_contents, Contents.after_idle]

/-- A key of a namespace. -/
theorem runRefusing_reconcile_of_namespace (hs : s.WellFormed) {key : Key}
    (hkind : key.kind ≠ some .ofClass) {ns : Namespace}
    (hns : s.namespaces.find? key.name = some ns) :
    let r := s.runRefusing error names (reconcile key).run
    (r.1, r.2.contents) = s.contents.namespaceUpshot names ns := by
  intro r
  have hread : s.perform (.getNamespace key.name) = (.ok (some ns), s) := by rw [perform, hns]
  have hrun : r = s.runRefusing error names (reconcileNamespace ns).run := by
    simp only [r, reconcile, if_neg hkind]
    exact runRefusing_callOrFail_bind error names rfl hread _
  rw [reconcileNamespace] at hrun
  cases hlabel : ns.className? with
  | none =>
    simp only [hlabel] at hrun
    rw [hrun, Contents.namespaceUpshot, hlabel]
    rfl
  | some className =>
    simp only [hlabel] at hrun
    simp only [Contents.namespaceUpshot, hlabel, find?_classes_contents]
    cases hc : s.classes.find? className with
    | none =>
      have hget : s.perform (.getClass className) = (.ok none, s) := by rw [perform, hc]
      rw [hrun.trans (runRefusing_callOrFail_bind error names rfl hget _)]
      exact contents_after_idle hc _
    | some c =>
      have hget : s.perform (.getClass className) = (.ok (some c), s) := by rw [perform, hc]
      have hsame : c.unversioned.isDeleting = c.isDeleting := rfl
      simp only [Option.map_some, ClassWork.ofNamespace, hsame]
      cases hdeleting : c.isDeleting with
      | true =>
        have hexit := hrun.trans (runRefusing_callOrFail_bind error names rfl hget _)
        simp only [hdeleting, if_true] at hexit
        rw [hexit]
        exact contents_after_idle hc _
      | false =>
        obtain ⟨hresult, hcontents⟩ :=
          runRefusing_reconcile_inNamespace error names hs hkind hns hlabel hc hdeleting
        rw [show r.2.contents = _ from hcontents]
        refine Contents.eq_after hresult rfl ?_ (fun _ _ => rfl) rfl
        rw [find?_classes_contents, hc]
        rfl

/-- A key of a class that is not being deleted. -/
theorem runRefusing_reconcile_update (hs : s.WellFormed) {c : NamespaceClass}
    (hc : s.classes.find? c.nameAny = some c) (active : c.isDeleting = false) :
    let r := s.runRefusing error names (reconcile (.ofClass c.nameAny)).run
    (r.1, r.2.contents) = s.contents.after c.nameAny
      (.update names c.unversioned (s.namespacesForClass c.nameAny)) := by
  intro r
  obtain ⟨s', hrun, hcontents⟩ := runRefusing_reconcile_active error names hs hc active
  have hupdated := c.unversioned_updated_of_guarded (m := c.unversioned.metadata)
    ⟨none, Or.inl rfl⟩ names (s.namespacesForClass c.nameAny)
  rw [show r = _ from hrun, hcontents]
  refine Contents.eq_after rfl rfl ?_ (fun d hd => ?_) rfl
  · rw [NamespaceClass.updateContents, SortedMap.find?_insert, if_pos rfl, ← hupdated]
    rfl
  · rw [NamespaceClass.updateContents, SortedMap.find?_insert, if_neg hd]

/-- A key of a class that is being deleted and held by the finalizer. -/
theorem runRefusing_reconcile_cleanup (hs : s.WellFormed) {c : NamespaceClass}
    (hc : s.classes.find? c.nameAny = some c) (deleting : c.isDeleting = true)
    (held : c.hasFinalizer = true) :
    let r := s.runRefusing error names (reconcile (.ofClass c.nameAny)).run
    (r.1, r.2.contents) = s.contents.after c.nameAny
      (.cleanup names c.nameAny c.unversioned (s.namespacesForClass c.nameAny)) := by
  intro r
  let listed := s.namespacesForClass c.nameAny
  obtain ⟨hobjects, hnamespaces, hothers, hrefused, hdone⟩ :=
    runRefusing_reconcile_deleting error names hs hc deleting held
  have hcount : c.unversioned.refusedDeletions names listed = c.refusedDeletions names listed := rfl
  have hcleaned : r.2.contents.objects =
      listed.foldl (cleanObjects names c.ownTemplates) s.contents.objects := by
    refine SortedMap.ext_find? fun k => ?_
    rw [contents, hobjects, SortedMap.find?_map, find?_foldl_cleanObjects,
      find?_foldl_cleanObjects, contents, SortedMap.find?_map]
    split <;> rfl
  obtain ⟨hresult, hleft⟩ : r.1 = (ClassWork.cleanup names c.nameAny c.unversioned listed).result ∧
      r.2.contents.classes.find? c.nameAny =
        (ClassWork.cleanup names c.nameAny c.unversioned listed).left := by
    simp only [ClassWork.cleanup, hcount, find?_classes_contents]
    by_cases hnone : c.refusedDeletions names listed = 0
    · rw [if_pos hnone, if_neg (not_not.2 hnone)]
      exact hdone hnone
    · obtain ⟨hresult, hstays⟩ := hrefused (Nat.pos_of_ne_zero hnone)
      rw [if_neg hnone, if_pos hnone]
      exact ⟨hresult, congrArg (Option.map NamespaceClass.unversioned) hstays⟩
  refine Contents.eq_after hresult hnamespaces hleft (fun d hd => ?_) hcleaned
  rw [find?_classes_contents, hothers d hd, find?_classes_contents]

/-- A key of a class. -/
theorem runRefusing_reconcile_of_class (hs : s.WellFormed) (name : String) :
    let r := s.runRefusing error names (reconcile (.ofClass name)).run
    (r.1, r.2.contents) = s.contents.classUpshot names name := by
  intro r
  rw [Contents.classUpshot, find?_classes_contents]
  cases hc : s.classes.find? name with
  | none =>
    have hread : s.perform (.getClass name) = (.ok none, s) := by rw [perform, hc]
    have hlist : s.perform (.namespacesForClass name) = (.ok (s.namespacesForClass name), s) := rfl
    have hwarns : (warnEach name (s.namespacesForClass name)).Ensures
        (FateRule.refusing error names).Answers (fun _ _ => True) s fun _ s' => s' = s :=
      ensures_warnEach name (s.namespacesForClass name) s fun _ => trivial
    have hwarned := runRefusing_ensures error names hwarns
    have hrun : r = (.ok (.orphaned (s.namespacesForClass name).length), s) := by
      simp only [r, reconcile_ofClass]
      refine (runRefusing_callOrFail_bind error names rfl hread _).trans ?_
      refine (runRefusing_callOrFail_bind error names rfl hlist _).trans ?_
      refine (runRefusing_bind_of_ok error names (runRefusing_liftM error names s _) _).trans ?_
      rw [hwarned]
      rfl
    rw [hrun]
    exact contents_after_idle hc _
  | some c =>
    obtain rfl := hs.classes hc
    have hsame : c.unversioned.isDeleting = c.isDeleting := rfl
    have hheld : c.unversioned.hasFinalizer = c.hasFinalizer := rfl
    simp only [Option.map_some, ClassWork.ofClass, hsame, hheld]
    cases hdeleting : c.isDeleting with
    | false => exact runRefusing_reconcile_update error names hs hc hdeleting
    | true =>
      cases held : c.hasFinalizer with
      | true => exact runRefusing_reconcile_cleanup error names hs hc hdeleting held
      | false =>
        have hrun : r = (.ok .deleted, s) := by
          simp only [r, runRefusing_reconcile_ofClass error names hc, reconcileClass, hdeleting,
            held, Bool.not_true, Bool.false_eq_true, if_false]
          rfl
        rw [hrun]
        exact contents_after_idle hc _

/-- The result of a reconcile and the contents afterwards. -/
theorem runRefusing_reconcile (hs : s.WellFormed) (key : Key) :
    let r := s.runRefusing error names (reconcile key).run
    (r.1, r.2.contents) = s.contents.upshot names key := by
  intro r
  rw [Contents.upshot]
  split
  case isTrue hkind =>
    rw [show r = _ from runRefusing_reconcile_of_namesClass error names (Or.inl hkind)]
    exact runRefusing_reconcile_of_class error names hs key.name
  case isFalse hkind =>
    rw [show s.contents.namespaces = s.namespaces from rfl]
    cases hns : s.namespaces.find? key.name with
    | some ns => exact runRefusing_reconcile_of_namespace error names hs hkind hns
    | none =>
      simp only
      split
      case isTrue hnamespace =>
        have hread : s.perform (.getNamespace key.name) = (.ok none, s) := by rw [perform, hns]
        have hrun : r = (.ok .gone, s) := by
          simp only [r, reconcile, if_neg hkind]
          refine (runRefusing_callOrFail_bind error names rfl hread _).trans ?_
          simp only [if_pos hnamespace]
          rfl
        rw [hrun]
      case isFalse hnamespace =>
        have hkey : key.NamesClass s := .of_missing hkind hnamespace hns
        rw [show r = _ from runRefusing_reconcile_of_namesClass error names hkey]
        exact runRefusing_reconcile_of_class error names hs key.name

end Cluster

/-! ## Simulated runs -/

/-- Reconciles keys in order, each to its end. -/
def Simulation.reconcileEach (s : Simulation) : List Key → List ReconcileResult × Simulation
  | [] => ([], s)
  | key :: rest =>
    let r := s.reconcile key .never
    let after := r.2.reconcileEach rest
    (r.1 :: after.1, after.2)

section Simulated

variable {s : Simulation} (hs : s.cluster.WellFormed) {error : String → StoreError}
  {names : List String} (hfaults : s.faults = Fault.refusing error names)

include hs hfaults

theorem reconcile_upshot (key : Key) :
    let r := s.reconcile key .never
    (r.1, r.2.cluster.contents) = s.cluster.contents.upshot names key := by
  intro r
  obtain ⟨hresult, hcluster, -⟩ := Simulation.run_refusing hfaults (reconcile key).run
  rw [← Cluster.runRefusing_reconcile error names hs key]
  exact Prod.ext hresult (congrArg Cluster.contents hcluster)

/-- Reconciles one after another come to what `Contents.upshotEach` says. -/
theorem reconcileEach_upshot (keys : List Key) :
    let r := s.reconcileEach keys
    (r.1, r.2.cluster.contents) = s.cluster.contents.upshotEach names keys := by
  induction keys generalizing s with
  | nil => rfl
  | cons key rest ih =>
    obtain ⟨-, hcluster, hfaults₁⟩ := Simulation.run_refusing hfaults (reconcile key).run
    have hs₁ : (s.reconcile key .never).2.cluster.WellFormed := by
      rw [show (s.reconcile key .never).2.cluster = _ from hcluster]
      exact hs.runRefusing error names (reconcile key).run
    have hfirst := reconcile_upshot hs hfaults key
    have hrest := ih hs₁ hfaults₁
    rw [Contents.upshotEach, ← hfirst, ← hrest]
    rfl

end Simulated

end ClassReconciler
