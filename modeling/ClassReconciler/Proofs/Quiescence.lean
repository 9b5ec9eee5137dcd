import ClassReconciler.Proofs.FinalizerKept
import ClassReconciler.Proofs.ReconcileEnds

/-!
# Classes at rest

The controller watches the classes that it writes, so that a write which every reconcile repeats
would have it reconcile for ever. It does not repeat one. A class is settled
(`NamespaceClass.IsSettled`) where it holds the finalizer and its record is the one that its
update would write, and to apply a settled class writes no class
(`ensures_applyClass_of_isSettled`). Every class that has been applied is settled
(`NamespaceClass.isSettled_updated`). Its record is read back as what it was made of: what is
declared claims its own identity, so that nothing of it counts as removed, and what was kept of
the old record is removed still and is kept again.

The objects do not rest in this sense. They are written again by every reconcile, and where two
entries of a class write to one key, each of them is.
-/

namespace ClassReconciler

/-! ## Settled classes -/

namespace NamespaceClass

variable (c : NamespaceClass) (names : List String) (namespaces : List Namespace)

/-- The removed entries that stay on the record. -/
def keptEntries : List Json :=
  c.removedEntries.filter fun raw =>
    !c.isIdentified || (Template.parse? raw).any (·.name ∈ names) &&
      namespaces.any (·.cleanupObsoleteEnabled)

theorem recordAfter_eq_append :
    c.recordAfter names namespaces = c.spec.resources ++ c.keptEntries names namespaces := rfl

/-- The class holds the finalizer, and its record is the one that its update would write. -/
structure IsSettled : Prop where
  hasFinalizer : c.hasFinalizer = true
  recorded : (c.lastApplied == c.recordAfter names namespaces) = true

variable {c names namespaces} in
/-- Whether a class is settled does not depend on its version. -/
theorem isSettled_unversioned :
    c.unversioned.IsSettled names namespaces ↔ c.IsSettled names namespaces :=
  ⟨fun h => ⟨h.hasFinalizer, h.recorded⟩, fun h => ⟨h.hasFinalizer, h.recorded⟩⟩

/-! ### Reading the record back -/

/-- No declared entry counts as removed. -/
theorem not_removed_of_declared {raw : Json} (hraw : raw ∈ c.spec.resources) :
    ((Template.parse? raw).any fun t =>
      c.spec.resources.all fun entry => (TemplateId.of entry).toOption ≠ some t.id) = false := by
  cases ht : Template.parse? raw with
  | none => rfl
  | some t =>
    have hof : TemplateId.of raw = .ok t.id :=
      (Template.parse_eq_ok (Template.parse?_eq_some.1 ht)).1
    refine Bool.eq_false_iff.2 fun hall => ?_
    have hne := List.all_eq_true.1 hall raw hraw
    exact absurd (except_toOption_eq_some.2 hof) (of_decide_eq_true hne)

variable {c} {c' : NamespaceClass}

/-- Of the record, what was kept counts as removed and nothing else does. -/
theorem removedEntries_of_record (hspec : c'.spec = c.spec)
    (hrecord : c'.lastApplied = c.recordAfter names namespaces) :
    c'.removedEntries = c.keptEntries names namespaces := by
  rw [removedEntries, hspec, hrecord, recordAfter_eq_append, List.filter_append]
  have hdeclared : (c.spec.resources.filter fun raw => (Template.parse? raw).any fun t =>
      c.spec.resources.all fun entry => (TemplateId.of entry).toOption ≠ some t.id) = [] :=
    List.filter_eq_nil_iff.2 fun raw hraw => by
      rw [c.not_removed_of_declared hraw]
      exact Bool.false_ne_true
  rw [hdeclared, List.nil_append]
  -- a filter keeps what it has filtered already
  exact List.filter_eq_self.2 fun raw hraw =>
    (List.mem_filter.1 (List.mem_filter.1 hraw).1).2

/-- The record of a class that has it is the same record. -/
theorem recordAfter_of_record (hspec : c'.spec = c.spec)
    (hrecord : c'.lastApplied = c.recordAfter names namespaces) :
    c'.recordAfter names namespaces = c.recordAfter names namespaces := by
  have hidentified : c'.isIdentified = c.isIdentified := by rw [isIdentified, hspec, isIdentified]
  have hkept : c'.keptEntries names namespaces = c.keptEntries names namespaces := by
    rw [keptEntries, removedEntries_of_record names namespaces hspec hrecord, hidentified,
      keptEntries, List.filter_filter]
    simp only [Bool.and_self]
  rw [recordAfter_eq_append, recordAfter_eq_append, hspec, hkept]

/-- A class that keeps its spec and its record keeps the record that its update would write. -/
theorem recordAfter_congr (hspec : c'.spec = c.spec) (hrecord : c'.lastApplied = c.lastApplied) :
    c'.recordAfter names namespaces = c.recordAfter names namespaces := by
  simp only [recordAfter, removedEntries, isIdentified, hspec, hrecord]

/-! ### The updated class -/

variable (c)

theorem spec_updated : (c.updated names namespaces).spec = c.spec := c.spec_addFinalizer

/-- The updated class has the same record as before or the one that is written. -/
theorem lastApplied_updated_cases :
    (c.lastApplied == c.recordAfter names namespaces) = true ∧
        (c.updated names namespaces).lastApplied = c.lastApplied ∨
      (c.updated names namespaces).lastApplied = c.recordAfter names namespaces := by
  rw [lastApplied, updated]
  by_cases hsame : (c.lastApplied == c.recordAfter names namespaces) = true
  · exact Or.inl ⟨hsame, by rw [if_pos hsame, lastApplied]⟩
  · refine Or.inr ?_
    rw [if_neg hsame]
    rfl

/-- A class is settled by its update. -/
theorem isSettled_updated : (c.updated names namespaces).IsSettled names namespaces := by
  refine ⟨c.hasFinalizer_updated names namespaces, ?_⟩
  have hspec := c.spec_updated names namespaces
  rcases c.lastApplied_updated_cases names namespaces with ⟨hsame, hrecord⟩ | hrecord
  · rw [recordAfter_congr names namespaces hspec hrecord, hrecord]
    exact hsame
  · rw [recordAfter_of_record names namespaces hspec hrecord, hrecord]
    exact beq_self_eq_true _

variable {c names namespaces}

/-- Where deletions are asked for, as many are refused among what is kept as among what is
removed. -/
theorem countP_keptEntries (hidentified : c.isIdentified = true)
    (hopted : namespaces.any (·.cleanupObsoleteEnabled) = true) :
    (Template.parseAll (c.keptEntries names namespaces)).countP (·.name ∈ names) =
      (Template.parseAll c.removedEntries).countP (·.name ∈ names) := by
  rw [Template.parseAll, Template.parseAll, List.countP_filterMap, List.countP_filterMap,
    keptEntries, List.countP_filter]
  refine List.countP_congr fun raw _ => ?_
  cases Template.parse? raw <;> simp [hidentified, hopted]

/-- As much fails in a namespace after the update of a class as before. -/
theorem failedIn_updated {ns : Namespace} (hns : ns ∈ namespaces) :
    (c.updated names namespaces).failedIn names ns = c.failedIn names ns := by
  have hspec := c.spec_updated names namespaces
  have hidentified : (c.updated names namespaces).isIdentified = c.isIdentified := by
    rw [isIdentified, hspec, isIdentified]
  rw [failedIn, failedIn, hspec, prunedFrom, prunedFrom, hidentified]
  refine congrArg _ ?_
  split
  case isFalse => rfl
  case isTrue h =>
    obtain ⟨hopted, hidentified⟩ := h
    rcases c.lastApplied_updated_cases names namespaces with ⟨-, hrecord⟩ | hrecord
    · rw [removedEntries, hspec, hrecord, removedEntries]
    · rw [removedEntries_of_record names namespaces hspec hrecord,
        countP_keptEntries hidentified (List.any_eq_true.2 ⟨ns, hns, hopted⟩)]

/-- Every removed identity of a settled class is kept. -/
theorem IsSettled.mem_ids_keptEntries (h : c.IsSettled names namespaces) {id : TemplateId}
    (hid : id ∈ Template.ids c.removedEntries) :
    id ∈ Template.ids (c.keptEntries names namespaces) := by
  obtain ⟨hrecorded, hclaimed⟩ := mem_ids_removedEntries.1 hid
  have hrecord : Template.ids c.lastApplied = Template.ids (c.recordAfter names namespaces) :=
    Template.ids_congr h.recorded
  rw [hrecord, recordAfter_eq_append, Template.ids, Template.parseAll, List.filterMap_append,
    List.map_append, List.mem_append] at hrecorded
  refine hrecorded.resolve_left fun hdeclared => hclaimed ?_
  exact Template.mem_claimedIds_of_mem_ids hdeclared

/-- Nothing is left to be deleted of a settled class. -/
theorem IsSettled.deletedFrom_eq_zero (h : c.IsSettled names namespaces) (ns : Namespace) :
    c.deletedFrom names ns = 0 := by
  refine List.countP_eq_zero.2 fun t ht => ?_
  obtain ⟨⟨-, hidentified⟩, hremoved⟩ := mem_prunedFrom.1 ht
  obtain ⟨u, hu, hid⟩ := Template.mem_ids.1
    (h.mem_ids_keptEntries (Template.mem_ids.2 ⟨t, hremoved, rfl⟩))
  obtain ⟨raw, hraw, hparse⟩ := Template.mem_parseAll.1 hu
  have hname : t.name = u.name := congrArg TemplateId.name hid.symm
  -- what is kept of an identified class is kept because its deletion is refused
  have hkept := (List.mem_filter.1 hraw).2
  simp only [Template.parse?_eq_some.2 hparse, hidentified, Option.any_some, Bool.not_true,
    Bool.false_or, Bool.and_eq_true, decide_eq_true_eq] at hkept
  simpa [hname] using hkept.1

end NamespaceClass

/-! ## Applying a settled class -/

section Courses

variable {error : String → StoreError} {names : List String} {s : Cluster} {c : NamespaceClass}

/-- What holds at the end of a run on a store that refuses names is ensured there, and so is what
every question of the action is. -/
theorem ensures_of_runRefusing {α : Type} {a : Action α} {asks : Effect → Prop} (ha : a.Asks asks)
    {s : Cluster} {post : α → Cluster → Prop}
    (h : post (s.runRefusing error names a).1 (s.runRefusing error names a).2) :
    a.Ensures (FateRule.refusing error names).Answers (fun _ e => asks e) s post := by
  induction a generalizing s with
  | done a => exact h
  | ask q next ih =>
    refine ⟨ha.1, fun x s' hanswer => ih x (ha.2 x) ?_⟩
    cases q with
    | warn w =>
      obtain rfl : s' = s := hanswer
      exact h
    | call call =>
      obtain ⟨f, rfl, hm⟩ := hanswer
      have hnext : s.runRefusing error names (.ask (.call call) next) =
          s'.runRefusing error names (next x) := by
        rw [show s' = (s.meet call (FateRule.refusal error names call)).2 by rw [hm],
          show x = (s.meet call (FateRule.refusal error names call)).1 by rw [hm]]
        rfl
      rwa [hnext] at h

/-- To apply a settled class writes no class. -/
theorem ensures_applyClass_of_isSettled (hs : s.WellFormed)
    (hsettled : c.IsSettled names (s.namespacesForClass c.nameAny)) :
    (applyClass c).run.Ensures (FateRule.refusing error names).Answers
      (fun _ e => e.SparesClasses) s fun _ s' => s'.classes = s.classes := by
  rw [applyClass, ensureFinalizer,
    NamespaceClass.addFinalizer_of_hasFinalizer hsettled.hasFinalizer]
  refine (ensures_exceptT_bind _ _ s _).2 ?_
  refine (ensures_exceptT_bind _ _ s _).2 (ensures_read rfl trivial ?_ fun _ => rfl)
  let namespaces := s.namespacesForClass c.nameAny
  let revision := Revision.of c
  have hspares := updateEach_sparesClasses c.spec.resources revision
    { retained := revision.deferred } namespaces
  -- the record of what is retained is the stored one, and so are the classes
  obtain ⟨-, -, hretained, -⟩ := Cluster.runRefusing_updateEach error names c namespaces
    { retained := revision.deferred } hs
  have hrecord := record_eq names c namespaces hretained
  have hclasses := (Cluster.runRefusing_sameOutside error names (updateEach_asks c.spec.resources
    revision { retained := revision.deferred } namespaces) s).classes
  refine (ensures_exceptT_bind _ _ s _).2 ((ensures_liftM _ s _).2
    (ensures_of_runRefusing hspares ?_))
  refine (ensures_exceptT_bind _ _ _ _).2 ?_
  rw [hrecord, writeRecord, if_pos hsettled.recorded]
  exact hclasses

end Courses

/-! ## Reconciling again -/

namespace Simulation

variable {error : String → StoreError} {names : List String} {s : Simulation}

/-- The calls of a run are recorded behind those from before, and they are what the action asks. -/
theorem calls_run {α : Type} {a : Action α} (hs : s.faults = Fault.refusing error names)
    {asks : Effect → Prop} {post : α → Cluster → Prop}
    (h : a.Ensures (FateRule.refusing error names).Answers (fun _ e => asks e) s.cluster post) :
    ∃ calls, (s.run a).2.calls = s.calls ++ calls ∧ ∀ r ∈ calls, asks (.call r.call) := by
  induction a generalizing s with
  | done a => exact ⟨[], (List.append_nil _).symm, fun r hr => absurd hr List.not_mem_nil⟩
  | ask q next ih => cases q with
    | warn w =>
      exact ih () (s := { s with warnings := s.warnings ++ [w] }) hs (h.2 () s.cluster rfl)
    | call c =>
      obtain ⟨hresult, hcluster, hfaults⟩ := answer_refusing hs c
      obtain ⟨calls, hcalls, hasks⟩ := ih (s.answer c).1 hfaults
        (h.2 _ _ ⟨_, rfl, Prod.ext hresult.symm hcluster.symm⟩)
      refine ⟨⟨c, some (s.answer c).1⟩ :: calls, hcalls.trans ?_, fun r hr => ?_⟩
      · exact List.append_assoc s.calls [_] calls
      · rcases List.mem_cons.1 hr with rfl | hr
        · exact h.1
        · exact hasks r hr

/-- The class that a reconcile has applied is stored and settled, and as much fails in its
namespaces as the reconcile says. -/
theorem settled_of_applied (hs : s.cluster.WellFormed)
    (hfaults : s.faults = Fault.refusing error names) {className : String} {n failed pruned : Nat}
    (happlied : (s.reconcile (.ofClass className) .never).1 = .ok (.applied n failed pruned)) :
    let after := (s.reconcile (.ofClass className) .never).2.cluster
    let namespaces := after.namespacesForClass className
    ∃ c, after.classes.find? className = some c ∧ c.isDeleting = false ∧
      c.IsSettled names namespaces ∧ namespaces.length = n ∧
      (namespaces.map (c.failedIn names)).sum = failed := by
  intro after namespaces
  have hends := (reconcile_ends hfaults hs (.ofClass className) .never).2.2
  obtain ⟨c, hc, active⟩ : ∃ c, s.cluster.classes.find? className = some c ∧
      c.isDeleting = false :=
    (hends.of_isApplied (ReconcileResult.isApplied_iff.2 ⟨_, _, _, happlied⟩)).2
  obtain rfl : c.nameAny = className := hs.classes hc
  obtain ⟨hresult, hcontents⟩ := reconcile_active hs hfaults hc active
  have hnamespaces : s.cluster.namespacesForClass c.nameAny = namespaces := by
    have h : after.namespaces = s.cluster.namespaces := congrArg Contents.namespaces hcontents
    simp only [namespaces, Cluster.namespacesForClass, h]
  rw [hnamespaces] at hresult hcontents
  obtain ⟨hlength, hfailed, -⟩ : namespaces.length = n ∧
      (namespaces.map (c.failedIn names)).sum = failed ∧
      (namespaces.map (c.deletedFrom names)).sum = pruned := by
    simpa using hresult.symm.trans happlied
  -- but for its version, the stored class is the updated one
  obtain ⟨c', hc', hstored⟩ := Cluster.find?_of_updateContents hcontents
  have hsettled : c'.IsSettled names namespaces := by
    rw [← NamespaceClass.isSettled_unversioned, hstored, NamespaceClass.isSettled_unversioned]
    exact c.isSettled_updated names namespaces
  have hdeleting : c'.unversioned.isDeleting = (c.updated names namespaces).isDeleting := by
    rw [hstored]
    rfl
  have hfails : ∀ ns ∈ namespaces, c'.unversioned.failedIn names ns = c.failedIn names ns := by
    rw [hstored]
    exact fun ns hns => NamespaceClass.failedIn_updated hns
  refine ⟨c', hc', ?_, hsettled, hlength, ?_⟩
  · exact hdeleting.trans (c.isDeleting_addFinalizer.trans active)
  · rw [← hfailed]
    exact congrArg List.sum (List.map_congr_left hfails)

end Simulation

/-- Reconciles of a class come to rest after one. Where the writes to the objects of some names
are refused and nothing else fails, let the reconcile of a class end as applied. Then the next one
ends as applied too, with as many failures and with nothing left to delete, and no call of it
writes a class, so that all classes stay as they are, with their versions. -/
theorem applied_class_rests {s : Simulation} (hs : s.cluster.Reachable)
    {error : String → StoreError} {names : List String}
    (hfaults : s.faults = Fault.refusing error names) {className : String} {n failed pruned : Nat}
    (happlied : (s.reconcile (.ofClass className) .never).1 = .ok (.applied n failed pruned)) :
    let first := (s.reconcile (.ofClass className) .never).2
    let second := first.reconcile (.ofClass className) .never
    second.1 = .ok (.applied n failed 0) ∧
      (∃ calls, second.2.calls = first.calls ++ calls ∧
        ∀ r ∈ calls, Effect.SparesClasses (.call r.call)) ∧
      second.2.cluster.classes = first.cluster.classes := by
  intro first second
  obtain ⟨c, hc, active, hsettled, hlength, hfailed⟩ :=
    Simulation.settled_of_applied hs.wellFormed hfaults happlied
  obtain ⟨hrefusing, hfirst, -⟩ :=
    Simulation.reconcile_ends hfaults hs.wellFormed (.ofClass className) .never
  obtain rfl : c.nameAny = className := hfirst.classes hc
  have hquiet : (reconcile (.ofClass c.nameAny)).run.Ensures
      (FateRule.refusing error names).Answers (fun _ e => e.SparesClasses) first.cluster
      fun _ s' => s'.classes = first.cluster.classes := by
    rw [reconcile_ofClass]
    refine reconcileClassNamed_of_stored hc trivial ?_ fun _ => rfl
    rw [reconcileClass, active]
    exact ensures_applyClass_of_isSettled hfirst hsettled
  refine ⟨?_, Simulation.calls_run hrefusing hquiet, Simulation.run_ensures hrefusing hquiet⟩
  refine (Simulation.reconcile_active hfirst hrefusing hc active).1.trans ?_
  have hdeleted : ((first.cluster.namespacesForClass c.nameAny).map
      (c.deletedFrom names)).sum = 0 := by
    rw [funext hsettled.deletedFrom_eq_zero]
    simp
  rw [hlength, hfailed, hdeleted]

/-- In the small cluster, where the deletion of an obsolete object is refused and has to stay on
the record: the first reconcile deletes the other one, and the second has nothing to delete. -/
theorem applied_class_rests_sample :
    let s : Simulation :=
      { cluster := Cluster.sample, faults := Fault.refusing (fun _ => .timeout) ["stuck"] }
    let first := s.reconcile (.ofClass "gold") .never
    s.cluster.Reachable ∧ first.1 = .ok (.applied 1 1 1) ∧
      (first.2.reconcile (.ofClass "gold") .never).1 = .ok (.applied 1 1 0) := by
  intro s first
  have hs : s.cluster.Reachable := Cluster.reachable_sample
  have hfaults : s.faults = Fault.refusing (fun _ => .timeout) ["stuck"] := rfl
  have hrun : first.1.toOption = some (.applied 1 1 1) := by decide +kernel
  have happlied := except_toOption_eq_some.1 hrun
  exact ⟨hs, happlied, (applied_class_rests hs hfaults happlied).1⟩

end ClassReconciler
