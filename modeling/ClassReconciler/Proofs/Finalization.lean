import ClassReconciler.Proofs.FinalizerKept
import ClassReconciler.Proofs.RefusedRun

/-!
# Finalization

What the reconcile of a class that is being deleted comes to, where the writes to the objects
of some names are refused and nothing else fails. In the namespaces that opt in, the objects of
all templates that the class declares or has on record are erased, as far as their names are not
refused. The finalizer is removed exactly if none of them was.

The templates are those of the class with each identity once (`declaredTemplates_eq`), and what
the cleanup erases is read off by look-up (`find?_cleanObjects`).
-/

namespace ClassReconciler

/-! ## What is cleaned up -/

namespace NamespaceClass

variable (c : NamespaceClass)

/-- The templates among the declared and the recorded entries, the first of each identity. -/
def ownTemplates : List Template :=
  (Template.parseAll (c.spec.resources ++ c.lastApplied)).eraseDupsBy fun t u => t.id == u.id

/-- The object is one that the cleanup erases. -/
def CleansUp (names : List String) (namespaces : List Namespace) (k : ObjectKey) : Prop :=
  ∃ ns ∈ namespaces, ns.cleanupEnabled = true ∧
    ∃ t ∈ c.ownTemplates, t.name ∉ names ∧ k = ObjectKey.new t.kind ns.nameAny t.name

instance (names : List String) (namespaces : List Namespace) (k : ObjectKey) :
    Decidable (c.CleansUp names namespaces k) :=
  inferInstanceAs (Decidable (∃ ns ∈ namespaces, ns.cleanupEnabled = true ∧
    ∃ t ∈ c.ownTemplates, t.name ∉ names ∧ k = ObjectKey.new t.kind ns.nameAny t.name))

/-- How many deletions are refused: one for each namespace that opts in and each template whose
name is refused. -/
def refusedDeletions (names : List String) (namespaces : List Namespace) : Nat :=
  namespaces.countP (·.cleanupEnabled) * c.ownTemplates.countP (·.name ∈ names)

/-- The finalizers of others, in their order. -/
def otherFinalizers : List String := c.finalizers.filter (· ≠ classFinalizer)

end NamespaceClass

theorem firstOfEachId_eq (seen : List TemplateId) (templates : List Template) :
    firstOfEachId seen templates =
      (templates.filter (·.id ∉ seen)).eraseDupsBy fun t u => t.id == u.id := by
  induction templates generalizing seen with
  | nil => rfl
  | cons t rest ih =>
    rw [firstOfEachId]
    by_cases hseen : t.id ∈ seen
    · rw [if_pos hseen, ih, List.filter_cons_of_neg (by simpa using hseen)]
    · rw [if_neg hseen, ih, List.filter_cons_of_pos (by simpa using hseen),
        List.eraseDupsBy_cons, List.filter_filter]
      refine congrArg (t :: List.eraseDupsBy _ ·) (List.filter_congr fun u _ => ?_)
      by_cases hid : u.id = t.id
      · simp [hid]
      · simp [hid]

/-- The templates of which the objects are deleted are the class's own ones. -/
theorem declaredTemplates_eq (c : NamespaceClass) : declaredTemplates c = c.ownTemplates := by
  rw [declaredTemplates, firstOfEachId_eq, NamespaceClass.ownTemplates,
    List.filter_eq_self.2 (by simp)]

/-! ## Erased objects -/

/-- The objects after the cleanup of a namespace. -/
def cleanObjects (names : List String) (templates : List Template) (objects : Objects)
    (ns : Namespace) : Objects :=
  if ns.cleanupEnabled then templates.foldl (eraseTemplate names ns.nameAny) objects else objects

theorem find?_cleanObjects (names : List String) (c : NamespaceClass) (objects : Objects)
    (ns : Namespace) (k : ObjectKey) :
    (cleanObjects names c.ownTemplates objects ns).find? k =
      if c.CleansUp names [ns] k then none else objects.find? k := by
  simp only [NamespaceClass.CleansUp, List.mem_singleton, exists_eq_left]
  rw [cleanObjects]
  cases hopted : ns.cleanupEnabled with
  | true => simp only [if_true, find?_foldl_eraseTemplate, true_and]
  | false => simp

/-- Exactly the objects that are cleaned up are erased. -/
theorem find?_foldl_cleanObjects (names : List String) (c : NamespaceClass)
    (namespaces : List Namespace) (objects : Objects) (k : ObjectKey) :
    (namespaces.foldl (cleanObjects names c.ownTemplates) objects).find? k =
      if c.CleansUp names namespaces k then none else objects.find? k := by
  induction namespaces generalizing objects with
  | nil => simp [NamespaceClass.CleansUp]
  | cons ns rest ih =>
    have hcons : c.CleansUp names (ns :: rest) k ↔
        c.CleansUp names [ns] k ∨ c.CleansUp names rest k := by
      simp [NamespaceClass.CleansUp]
    rw [List.foldl_cons, ih, find?_cleanObjects]
    by_cases hrest : c.CleansUp names rest k
    · rw [if_pos hrest, if_pos (hcons.2 (Or.inr hrest))]
    · rw [if_neg hrest]
      by_cases hfirst : c.CleansUp names [ns] k
      · rw [if_pos hfirst, if_pos (hcons.2 (Or.inl hfirst))]
      · rw [if_neg hfirst, if_neg fun h => (hcons.1 h).elim hfirst hrest]

/-! ## Runs -/

namespace Cluster

variable (error : String → StoreError) (names : List String)

/-- Cleaning a namespace erases objects in it, if it opts in. -/
theorem runRefusing_finalizeNamespace (className : String) (templates : List Template)
    (ns : Namespace) (s : Cluster) :
    let r := s.runRefusing error names (finalizeNamespace className templates ns)
    r.1.cleaned.length = [ns].countP (·.cleanupEnabled) ∧
      r.1.orphaned.length = [ns].countP (!·.cleanupEnabled) ∧
      r.1.failed.length =
        [ns].countP (·.cleanupEnabled) * templates.countP (·.name ∈ names) ∧
      r.2 = { s with objects := cleanObjects names templates s.objects ns } := by
  rw [finalizeNamespace, cleanObjects]
  cases hopted : ns.cleanupEnabled with
  | true =>
    have hfailed := length_deletionErrors error names templates (DeleteFailure.mk ns.nameAny)
    simp only [if_true, runRefusing_bind, runRefusing_pure, runRefusing_deleteEach,
      List.countP_singleton, hopted, Nat.one_mul]
    exact ⟨rfl, rfl, hfailed, trivial⟩
  | false =>
    simp only [Bool.false_eq_true, if_false, runRefusing_bind, runRefusing_warn, runRefusing_pure,
      List.countP_singleton, hopted, Nat.zero_mul]
    exact ⟨rfl, rfl, rfl, trivial⟩

/-- Cleaning namespaces erases objects in those that opt in, and counts them. -/
theorem runRefusing_finalizeEach (className : String) (templates : List Template)
    (namespaces : List Namespace) (s : Cluster) :
    let r := s.runRefusing error names (finalizeEach className templates namespaces)
    r.1.cleaned.length = namespaces.countP (·.cleanupEnabled) ∧
      r.1.orphaned.length = namespaces.countP (!·.cleanupEnabled) ∧
      r.1.failed.length =
        namespaces.countP (·.cleanupEnabled) * templates.countP (·.name ∈ names) ∧
      r.2 = { s with objects := namespaces.foldl (cleanObjects names templates) s.objects } := by
  induction namespaces generalizing s with
  | nil => exact ⟨rfl, rfl, (Nat.zero_mul _).symm, rfl⟩
  | cons ns rest ih =>
    obtain ⟨hcleaned, horphaned, hfailed, hs₁⟩ :=
      runRefusing_finalizeNamespace error names className templates ns s
    obtain ⟨hcleaned', horphaned', hfailed', hs₂⟩ := ih
      (s.runRefusing error names (finalizeNamespace className templates ns)).2
    have hcount : ∀ p : Namespace → Bool, (ns :: rest).countP p = [ns].countP p + rest.countP p :=
      fun p => by rw [← List.countP_append, List.singleton_append]
    simp only [finalizeEach, runRefusing_bind, runRefusing_pure, FinalizeReport.append,
      List.length_append, hcount, Nat.add_mul, hcleaned, horphaned, hfailed, hcleaned',
      horphaned', hfailed', true_and]
    rw [hs₂, hs₁]
    rfl

/-- The cleanup after a class: where deletions are refused it fails and leaves the class alone,
else it replaces the class by one without the finalizer. -/
theorem runRefusing_finalizeClass {s : Cluster} {c : NamespaceClass}
    (hc : s.classes.find? c.nameAny = some c) :
    let namespaces := s.namespacesForClass c.nameAny
    let cleaned : Cluster :=
      { s with objects := namespaces.foldl (cleanObjects names c.ownTemplates) s.objects }
    s.runRefusing error names (finalizeClass c).run =
      if c.refusedDeletions names namespaces = 0 then
        (.ok (.finalized (namespaces.countP (·.cleanupEnabled))
          (namespaces.countP (!·.cleanupEnabled))), (cleaned.replaceClass c.removeFinalizer.2).2)
      else (.error (.cleanup c.nameAny (c.refusedDeletions names namespaces)), cleaned) := by
  intro namespaces cleaned
  have hread : s.perform (.namespacesForClass c.nameAny) = (.ok namespaces, s) := rfl
  obtain ⟨hcleaned, horphaned, hfailed, hs₁⟩ :=
    runRefusing_finalizeEach error names c.nameAny c.ownTemplates namespaces s
  have hreport : s.runRefusing error names (finalizeNamespaces c namespaces) =
      s.runRefusing error names (finalizeEach c.nameAny c.ownTemplates namespaces) := by
    rw [finalizeNamespaces, declaredTemplates_eq]
  rw [finalizeClass]
  refine (runRefusing_callOrFail_bind error names rfl hread _).trans ?_
  refine (runRefusing_bind_of_ok error names (runRefusing_liftM error names s _) _).trans ?_
  rw [hreport, hs₁]
  generalize (s.runRefusing error names
    (finalizeEach c.nameAny c.ownTemplates namespaces)).1 = report at hcleaned horphaned hfailed ⊢
  have hfailed : report.failed.length = c.refusedDeletions names namespaces := hfailed
  have hcomplete : report.isComplete = true ↔ c.refusedDeletions names namespaces = 0 := by
    rw [FinalizeReport.isComplete, List.isEmpty_iff_length_eq_zero, hfailed]
  by_cases hdone : c.refusedDeletions names namespaces = 0
  · have hc' : cleaned.classes.find? c.removeFinalizer.2.nameAny = some c := by
      rw [c.nameAny_removeFinalizer]
      exact hc
    have hcall := perform_replaceClass hc' c.resourceVersion_removeFinalizer.symm
    rw [if_pos hdone, if_pos (hcomplete.2 hdone)]
    refine (runRefusing_callOrFail_bind error names rfl hcall _).trans ?_
    rw [hcleaned, horphaned]
    rfl
  · rw [if_neg hdone, if_neg fun h => hdone (hcomplete.1 h), hfailed]
    rfl

end Cluster

/-! ## The finalizer -/

namespace Cluster

/-- What is left of a class whose finalizer is removed: nothing, if it had no other finalizer. -/
theorem find?_replaceClass_removeFinalizer {s : Cluster} {c : NamespaceClass}
    (hc : s.classes.find? c.nameAny = some c) (quiet : s.webhooks.find? c.nameAny = none)
    (deleting : c.isDeleting = true) (held : c.hasFinalizer = true) :
    (s.replaceClass c.removeFinalizer.2).2.classes.find? c.nameAny =
      if c.otherFinalizers = [] then none
      else some (s.stampClass (c.withFinalizers c.otherFinalizers)) := by
  let c' := c.withFinalizers c.otherFinalizers
  have hremoved : c.removeFinalizer.2 = c' := by
    rw [NamespaceClass.removeFinalizer_of_hasFinalizer held]
    rfl
  have hdeleting : c'.isDeleting = true := deleting
  have hreleased : isReleased c' = c.otherFinalizers.isEmpty := by
    rw [isReleased, hdeleting, Bool.true_and]
    rfl
  rw [hremoved]
  refine (find?_replaceClass (c := c') hc rfl quiet rfl).trans ?_
  simp only [hreleased, List.isEmpty_iff]
  rfl

end Cluster

/-- What the reconcile of a class that is being deleted and held by the finalizer comes to. -/
theorem Cluster.runRefusing_reconcile_deleting (error : String → StoreError) (names : List String)
    {s : Cluster} (hs : s.WellFormed) {c : NamespaceClass}
    (hc : s.classes.find? c.nameAny = some c) (deleting : c.isDeleting = true)
    (held : c.hasFinalizer = true) :
    let namespaces := s.namespacesForClass c.nameAny
    let failed := c.refusedDeletions names namespaces
    let r := s.runRefusing error names (reconcile (.ofClass c.nameAny)).run
    r.2.objects = namespaces.foldl (cleanObjects names c.ownTemplates) s.objects ∧
      r.2.namespaces = s.namespaces ∧
      (∀ d, d ≠ c.nameAny → r.2.classes.find? d = s.classes.find? d) ∧
      (0 < failed → r.1 = .error (.cleanup c.nameAny failed) ∧
        r.2.classes.find? c.nameAny = some c) ∧
      (failed = 0 →
        r.1 = .ok (.finalized (namespaces.countP (·.cleanupEnabled))
          (namespaces.countP (!·.cleanupEnabled))) ∧
        (r.2.classes.find? c.nameAny).map NamespaceClass.unversioned =
          if c.otherFinalizers = [] then none
          else some (c.withFinalizers c.otherFinalizers).unversioned) := by
  intro namespaces failed r
  have hrun : r = s.runRefusing error names (finalizeClass c).run := by
    simp only [r, runRefusing_reconcile_ofClass error names hc, reconcileClass, deleting, held,
      Bool.not_true, Bool.false_eq_true, if_false, if_true]
  rw [hrun, runRefusing_finalizeClass error names hc]
  by_cases hdone : c.refusedDeletions names namespaces = 0
  · rw [if_pos hdone]
    refine ⟨objects_replaceClass _ _, namespaces_replaceClass _ _, fun d hd => ?_,
      fun h => absurd hdone (Nat.ne_of_gt h), fun _ => ⟨rfl, ?_⟩⟩
    · exact find?_replaceClass_of_ne _ (c.nameAny_removeFinalizer ▸ hd)
    · let cleaned : Cluster :=
        { s with objects := namespaces.foldl (cleanObjects names c.ownTemplates) s.objects }
      have hleft := find?_replaceClass_removeFinalizer (s := cleaned) hc
        (hs.find?_webhooks c.nameAny) deleting held
      refine (congrArg (Option.map NamespaceClass.unversioned) hleft).trans ?_
      split <;> rfl
  · rw [if_neg hdone]
    exact ⟨rfl, rfl, fun _ _ => rfl, fun _ => ⟨rfl, hc⟩, fun h => absurd h hdone⟩

/-- Where the writes to the objects of some names are refused and nothing else fails, the
reconcile of a class that is being deleted and held by the finalizer erases the objects of its
templates in the namespaces that opt in, and no others. If some deletion is refused, it fails
with their number and the class stays as it is; else the finalizer is removed and no other one,
and the class disappears if it had no other one. No reconcile of whatever key removes the
finalizer from a class in any other way. -/
theorem cleanup_gates_finalizer {s : Simulation} (hs : s.cluster.Reachable)
    {error : String → StoreError} {names : List String}
    (hfaults : s.faults = Fault.refusing error names) :
    (∀ className c, s.cluster.classes.find? className = some c → c.isDeleting = true →
      c.hasFinalizer = true →
      let namespaces := s.cluster.namespacesForClass className
      let failed := c.refusedDeletions names namespaces
      let result := (s.reconcile (.ofClass className) .never).1
      let after := (s.reconcile (.ofClass className) .never).2.cluster
      (∀ k, after.objects.find? k =
        if c.CleansUp names namespaces k then none else s.cluster.objects.find? k) ∧
      after.namespaces = s.cluster.namespaces ∧
      (∀ d, d ≠ className → after.classes.find? d = s.cluster.classes.find? d) ∧
      (0 < failed → result = .error (.cleanup className failed) ∧
        after.classes.find? className = some c) ∧
      (failed = 0 →
        result = .ok (.finalized (namespaces.countP (·.cleanupEnabled))
          (namespaces.countP (!·.cleanupEnabled))) ∧
        (after.classes.find? className).map NamespaceClass.unversioned =
          if c.otherFinalizers = [] then none
          else some (c.withFinalizers c.otherFinalizers).unversioned)) ∧
    ∀ key, s.cluster.KeepsFinalizersBut key.name (s.reconcile key .never).1
      (s.reconcile key .never).2.cluster := by
  have hnamed : s.cluster.Named := hs.wellFormed.toNamed
  refine ⟨fun className c hc deleting held => ?_, fun key => ?_⟩
  · obtain rfl := hnamed.classes hc
    obtain ⟨hobjects, hnamespaces, hothers, hrefused, hdone⟩ :=
      Cluster.runRefusing_reconcile_deleting error names hs.wellFormed hc deleting held
    obtain ⟨hresult, hcluster, -⟩ :=
      Simulation.run_refusing hfaults (reconcile (.ofClass c.nameAny)).run
    rw [← hcluster] at hobjects hnamespaces hothers hrefused hdone
    rw [← hresult] at hrefused hdone
    refine ⟨fun k => ?_, hnamespaces, hothers, hrefused, hdone⟩
    exact (congrArg (·.find? k) hobjects).trans (find?_foldl_cleanObjects names c _ _ k)
  · exact Simulation.run_ensures hfaults (FateRule.ensures_of_imp
      (reconcile_keepsFinalizers hnamed key) fun _ _ => FateRule.effectless_of_refusing)

/-- In the small cluster whose class is marked for deletion, where a deletion is refused and
where none is. -/
theorem cleanup_gates_finalizer_sample :
    ∃ cluster c, Cluster.sample.markDeleted "gold" = some cluster ∧
      let s (names : List String) : Simulation :=
        { cluster, faults := Fault.refusing (fun _ => .timeout) names }
      cluster.Reachable ∧ cluster.classes.find? "gold" = some c ∧ c.isDeleting = true ∧
      c.hasFinalizer = true ∧
      ((s ["stuck"]).reconcile (.ofClass "gold") .never).1 = .error (.cleanup "gold" 1) ∧
      ((s ["stuck"]).reconcile (.ofClass "gold") .never).2.cluster.classes.find? "gold" = some c ∧
      ((s []).reconcile (.ofClass "gold") .never).1 = .ok (.finalized 1 0) ∧
      ((s []).reconcile (.ofClass "gold") .never).2.cluster.classes.find? "gold" = none := by
  obtain ⟨cluster, c, hmarked, hc, deleting, held, hstuck, hnone, hcleaned, horphaned, hothers⟩ :
      ∃ cluster c, Cluster.sample.markDeleted "gold" = some cluster ∧
        cluster.classes.find? "gold" = some c ∧ c.isDeleting = true ∧ c.hasFinalizer = true ∧
        c.refusedDeletions ["stuck"] (cluster.namespacesForClass "gold") = 1 ∧
        c.refusedDeletions [] (cluster.namespacesForClass "gold") = 0 ∧
        (cluster.namespacesForClass "gold").countP (·.cleanupEnabled) = 1 ∧
        (cluster.namespacesForClass "gold").countP (!·.cleanupEnabled) = 0 ∧
        c.otherFinalizers = [] :=
    ⟨_, _, rfl, rfl, rfl, rfl, rfl, rfl, rfl, rfl, rfl⟩
  have hs : cluster.Reachable := Cluster.reachable_sample.markDeleted hmarked
  refine ⟨cluster, c, hmarked, hs, hc, deleting, held, ?_⟩
  obtain ⟨hrefusing, -⟩ := cleanup_gates_finalizer
    (s := { cluster, faults := Fault.refusing (fun _ => .timeout) ["stuck"] }) hs rfl
  obtain ⟨-, -, -, hrefused, -⟩ := hrefusing "gold" c hc deleting held
  obtain ⟨hfails, hstays⟩ := hrefused (hstuck ▸ Nat.one_pos)
  obtain ⟨hserving, -⟩ := cleanup_gates_finalizer
    (s := { cluster, faults := Fault.refusing (fun _ => .timeout) [] }) hs rfl
  obtain ⟨-, -, -, -, hdone⟩ := hserving "gold" c hc deleting held
  obtain ⟨hfinalized, hgone⟩ := hdone hnone
  rw [if_pos hothers] at hgone
  refine ⟨hfails.trans ?_, hstays, hfinalized.trans ?_, Option.map_eq_none_iff.1 hgone⟩
  · rw [hstuck]
  · rw [hcleaned, horphaned]

end ClassReconciler
