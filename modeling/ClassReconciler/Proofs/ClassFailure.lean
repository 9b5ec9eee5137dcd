import ClassReconciler.Proofs.ClassUpdate
import ClassReconciler.Proofs.Finalization
import ClassReconciler.Proofs.RecordOrigin
import ClassReconciler.Proofs.Trace

/-!
# The failure of a class's reconcile

The reconcile of a class makes calls of two sorts. The calls that read and write the class and
list its namespaces are fatal: the reconcile ends with the first of them that fails. The calls on
objects are not. Where one of them fails, that is counted and the work goes on, so that every
template is attempted in every namespace (`AttemptsEach`, `DeletesEach`).

`ClassCourse` has a case for each way in which the reconcile of a class can go, with what has been
attempted on that way; `reconcileClassNamed_course` finds the case for every schedule of calls that
are served or fail without effect. What a failed reconcile leaves behind is read off the cases
(`class_failure`).
-/

namespace ClassReconciler

/-! ## Attempts -/

/-- The deletion of each of the templates is called for in a namespace. -/
def DeletesEach (calls : List ScheduledCall) (templates : List Template) (n : String) : Prop :=
  ∀ t ∈ templates, ∃ d ∈ calls, d.call.Deletes t n

theorem DeletesEach.mono {calls calls' : List ScheduledCall} {templates : List Template}
    {n : String} (h : DeletesEach calls templates n) (hsubset : calls ⊆ calls') :
    DeletesEach calls' templates n := by
  intro t ht
  obtain ⟨d, hd, hdel⟩ := h t ht
  exact ⟨d, hsubset hd, hdel⟩

section Walk

variable {admits : Fate → Prop}

theorem deleteEach_deletes (templates : List Template) (n : String) (past : List ScheduledCall) :
    (deleteEach templates n).Ensures (AnswersAmong admits) (fun _ _ => True) past fun _ past' =>
      ∃ more, past' = past ++ more ∧ DeletesEach more templates n := by
  induction templates generalizing past with
  | nil => exact ⟨[], by simp, fun t ht => absurd ht List.not_mem_nil⟩
  | cons t rest ih =>
    refine (Dialogue.ensures_bind _ _ _ _).2 ((Dialogue.ensures_map _ _ _ _).2
      (ensures_call_among trivial fun met f _ _ => ?_))
    let deletion : ScheduledCall := ⟨met, .deleteObject t.kind n t.name, f⟩
    refine (Dialogue.ensures_bind _ _ _ _).2 ((ih (past ++ [deletion])).imp ?_)
    rintro results _ ⟨more, rfl, hmore⟩
    refine ⟨deletion :: more, by simp [deletion], fun u hu => ?_⟩
    rcases List.mem_cons.1 hu with rfl | hu
    · exact ⟨deletion, List.mem_cons_self, rfl⟩
    · obtain ⟨d, hd, hdel⟩ := hmore u hu
      exact ⟨d, List.mem_cons_of_mem _ hd, hdel⟩

/-- Pruning calls for the deletion of every removed template, where the namespace opts in. -/
theorem pruneObsolete_deletes (ns : Namespace) (removed : List Template)
    (past : List ScheduledCall) :
    (pruneObsolete ns removed).Ensures (AnswersAmong admits) (fun _ _ => True) past
      fun _ past' => ∃ more, past' = past ++ more ∧
        (ns.cleanupObsoleteEnabled = true → DeletesEach more removed ns.nameAny) := by
  rw [pruneObsolete]
  split
  case isTrue h =>
    refine ⟨[], by simp, fun hopted t ht => ?_⟩
    rw [hopted, Bool.not_true, Bool.or_false, List.isEmpty_iff] at h
    rw [h] at ht
    exact absurd ht List.not_mem_nil
  case isFalse =>
    refine (Dialogue.ensures_bind _ _ _ _).2 ((deleteEach_deletes removed _ past).imp ?_)
    rintro results _ ⟨more, rfl, hmore⟩
    exact ⟨more, rfl, fun _ => hmore⟩

theorem updateNamespace_deletes (resources : List Json) (revision : Revision) (ns : Namespace)
    (past : List ScheduledCall) :
    (updateNamespace resources revision ns).Ensures (AnswersAmong admits) (fun _ _ => True) past
      fun _ past' => ∃ more, past' = past ++ more ∧ (revision.prunes = true →
        ns.cleanupObsoleteEnabled = true → DeletesEach more revision.templates ns.nameAny) := by
  rw [updateNamespace_eq]
  refine (Dialogue.ensures_bind _ _ _ _).2 ((applyFrom_attempts resources 0 _ past).imp ?_)
  rintro applied _ ⟨calls, rfl, -⟩
  refine (Dialogue.ensures_map _ _ _ _).2 ?_
  split
  case isFalse hprunes => exact ⟨calls, rfl, fun h => absurd h hprunes⟩
  case isTrue =>
    refine (pruneObsolete_deletes ns revision.templates _).imp ?_
    rintro pruned _ ⟨calls', rfl, hdeletes⟩
    exact ⟨calls ++ calls', List.append_assoc .., fun _ hopted =>
      (hdeletes hopted).mono (List.subset_append_right _ _)⟩

/-- An update calls for the deletion of every removed template in every namespace that opts in,
unless that is deferred. -/
theorem updateEach_deletes (resources : List Json) (revision : Revision) (tally : Tally)
    (namespaces : List Namespace) (past : List ScheduledCall) :
    (updateEach resources revision tally namespaces).Ensures (AnswersAmong admits)
      (fun _ _ => True) past fun _ past' => ∃ more, past' = past ++ more ∧
        ∀ ns ∈ namespaces, revision.prunes = true → ns.cleanupObsoleteEnabled = true →
          DeletesEach more revision.templates ns.nameAny := by
  induction namespaces generalizing tally past with
  | nil => exact ⟨[], by simp, by simp⟩
  | cons ns rest ih =>
    refine (Dialogue.ensures_bind _ _ _ _).2
      ((updateNamespace_deletes resources revision ns past).imp ?_)
    rintro r _ ⟨calls, rfl, hfirst⟩
    refine (ih (tally.add r.1 r.2) (past ++ calls)).imp ?_
    rintro tally' _ ⟨calls', rfl, hothers⟩
    refine ⟨calls ++ calls', List.append_assoc .., fun ns' hns' hprunes hopted => ?_⟩
    rcases List.mem_cons.1 hns' with rfl | hns'
    · exact (hfirst hprunes hopted).mono (List.subset_append_left _ _)
    · exact (hothers ns' hns' hprunes hopted).mono (List.subset_append_right _ _)

/-- A cleanup calls for the deletion of every template in every namespace that opts in. -/
theorem finalizeEach_deletes (className : String) (templates : List Template)
    (namespaces : List Namespace) (past : List ScheduledCall) :
    (finalizeEach className templates namespaces).Ensures (AnswersAmong admits)
      (fun _ _ => True) past fun _ past' => ∃ more, past' = past ++ more ∧
        ∀ ns ∈ namespaces, ns.cleanupEnabled = true → DeletesEach more templates ns.nameAny := by
  induction namespaces generalizing past with
  | nil => exact ⟨[], by simp, by simp⟩
  | cons ns rest ih =>
    have hfirst : (finalizeNamespace className templates ns).Ensures (AnswersAmong admits)
        (fun _ _ => True) past fun _ past' => ∃ more, past' = past ++ more ∧
          (ns.cleanupEnabled = true → DeletesEach more templates ns.nameAny) := by
      rw [finalizeNamespace]
      split
      case isTrue =>
        refine (Dialogue.ensures_bind _ _ _ _).2 ((deleteEach_deletes templates _ past).imp ?_)
        rintro results _ ⟨more, rfl, hmore⟩
        exact ⟨more, rfl, fun _ => hmore⟩
      case isFalse hopted =>
        refine ⟨trivial, ?_⟩
        rintro _ _ rfl
        exact ⟨[], by simp, fun h => absurd h hopted⟩
    refine (Dialogue.ensures_bind _ _ _ _).2 (hfirst.imp ?_)
    rintro first _ ⟨calls, rfl, hcalls⟩
    refine (Dialogue.ensures_bind _ _ _ _).2 ((ih (past ++ calls)).imp ?_)
    rintro others _ ⟨calls', rfl, hcalls'⟩
    refine ⟨calls ++ calls', List.append_assoc .., fun ns' hns' hopted => ?_⟩
    rcases List.mem_cons.1 hns' with rfl | hns'
    · exact (hcalls hopted).mono (List.subset_append_left _ _)
    · exact (hcalls' ns' hns' hopted).mono (List.subset_append_right _ _)

end Walk

/-- Everything that the update of a class has to write or to delete has been attempted. -/
def Cluster.AttemptsUpdate (s : Cluster) (c : NamespaceClass) (calls : List ScheduledCall) :
    Prop :=
  ∀ ns ∈ s.namespacesForClass c.nameAny,
    AttemptsEach calls (Template.parseAll c.spec.resources) ns.nameAny ∧
      DeletesEach calls (c.prunedFrom ns) ns.nameAny

/-- Everything that the cleanup after a class has to delete has been attempted. -/
def Cluster.AttemptsCleanup (s : Cluster) (c : NamespaceClass) (calls : List ScheduledCall) :
    Prop :=
  ∀ ns ∈ s.namespacesForClass c.nameAny, ns.cleanupEnabled = true →
    DeletesEach calls c.ownTemplates ns.nameAny

theorem Cluster.AttemptsUpdate.mono {s : Cluster} {c : NamespaceClass}
    {calls calls' : List ScheduledCall} (h : s.AttemptsUpdate c calls) (hsubset : calls ⊆ calls') :
    s.AttemptsUpdate c calls' :=
  fun ns hns => ⟨(h ns hns).1.mono hsubset, (h ns hns).2.mono hsubset⟩

theorem Cluster.AttemptsCleanup.mono {s : Cluster} {c : NamespaceClass}
    {calls calls' : List ScheduledCall} (h : s.AttemptsCleanup c calls)
    (hsubset : calls ⊆ calls') : s.AttemptsCleanup c calls' :=
  fun ns hns hopted => (h ns hns hopted).mono hsubset

/-! ## Fatal calls -/

namespace StoreCall

/-- The call is one on an object. -/
def OnObject : StoreCall → Prop
  | .getObject .. | .createObject .. | .replaceObject .. | .deleteObject .. => True
  | _ => False

instance : DecidablePred OnObject
  | .getObject .. | .createObject .. | .replaceObject .. | .deleteObject .. => isTrue trivial
  | .getNamespace _ | .getClass _ | .namespacesForClass _ | .replaceClass _
  | .replaceClassStatus _ => isFalse id

/-- The call comes before any work in namespaces: it reads a class, adds the finalizer to it or
lists its namespaces. -/
def Prepares : StoreCall → Prop
  | .getClass _ | .namespacesForClass _ => True
  | .replaceClass c => c.hasFinalizer = true
  | _ => False

theorem Prepares.not_onObject {c : StoreCall} (h : c.Prepares) : ¬c.OnObject := by
  cases c <;> first | exact id | exact h.elim

end StoreCall

/-- The last call has failed, and the reconcile with its error. -/
structure Trace.FailsAt (t : Trace) (e : ReconcileError) (d : ScheduledCall) : Prop where
  last : t.calls.getLast? = some d
  error : ∃ e', e = .store e' ∧ (d.met.meet d.call d.fate).1 = .error e'

theorem Trace.failsAt_meet (t : Trace) (c : StoreCall) (e : StoreError) :
    (t.meet c (.refused e)).FailsAt (.store e) ⟨t.cluster, c, .refused e⟩ :=
  ⟨List.getLast?_concat, e, rfl, rfl⟩

theorem Trace.FailsAt.failed {t : Trace} {e : ReconcileError} {d : ScheduledCall}
    (h : t.FailsAt e d) : d ∈ t.calls ∧ d.Failed := by
  obtain ⟨e', -, he'⟩ := h.error
  exact ⟨List.mem_of_getLast? h.last, e', he'⟩

theorem Trace.FailsAt.unique {t : Trace} {e e' : ReconcileError} {d d' : ScheduledCall}
    (h : t.FailsAt e d) (h' : t.FailsAt e' d') : d' = d :=
  Option.some.inj (h'.last.symm.trans h.last)

/-- The class of a name has its spec, its record and the finalizer if it had it. -/
def Cluster.KeepsBookkeeping (s s' : Cluster) (name : String) : Prop :=
  ∀ c, s.classes.find? name = some c → ∃ c', s'.classes.find? name = some c' ∧
    c'.spec = c.spec ∧ c'.status = c.status ∧ (c.hasFinalizer = true → c'.hasFinalizer = true)

theorem Cluster.keepsBookkeeping_of_eq {s s' : Cluster} (h : s'.classes = s.classes)
    (name : String) : s.KeepsBookkeeping s' name :=
  fun c hc => ⟨c, h ▸ hc, rfl, rfl, id⟩

theorem NamespaceClass.GuardedFrom.hasFinalizer {c c' : NamespaceClass} (h : c.GuardedFrom c')
    (held : c.hasFinalizer = true) : c'.hasFinalizer = true := by
  rcases h.finalizers with hsame | ⟨hlacked, -⟩
  · rw [NamespaceClass.hasFinalizer, hsame]
    exact held
  · rw [held] at hlacked
    cases hlacked

theorem Cluster.Guards.keepsBookkeeping {s s' : Cluster} {c c' : NamespaceClass}
    (h : s.Guards s' c c') (hc : s.classes.find? c.nameAny = some c)
    (quiet : s.webhooks.find? c.nameAny = none) : s.KeepsBookkeeping s' c.nameAny := by
  intro d hd
  obtain rfl : c = d := Option.some.inj (hc.symm.trans hd)
  exact ⟨c', h.stored, (h.unamended quiet).1, (h.unamended quiet).2,
    h.toGuardedFrom.hasFinalizer⟩

/-! ## Courses -/

/-- How the reconcile of a class goes. It stops with a call that prepares it; or the class is not
to be applied; or an update has been attempted, and its record may not have been written; or a
cleanup has been attempted, and may have been incomplete or may not have been concluded. -/
inductive ClassCourse (s : Cluster) (name : String) : ReconcileResult → Trace → Prop
  | stopped {e : ReconcileError} {t : Trace} {d : ScheduledCall} (failed : t.FailsAt e d)
    (prepares : d.call.Prepares) (objects : t.cluster.objects = s.objects)
    (warnings : t.warnings = []) (keeps : s.KeepsBookkeeping t.cluster name) :
    ClassCourse s name (.error e) t
  | inactive {o : Outcome} {t : Trace}
    (deleting : ∀ c, s.classes.find? name = some c → c.isDeleting = true) :
    ClassCourse s name (.ok o) t
  | applied {failed pruned : Nat} {t : Trace} {c : NamespaceClass}
    (hc : s.classes.find? name = some c) (attempts : s.AttemptsUpdate c t.calls) :
    ClassCourse s name (.ok (.applied (s.namespacesForClass name).length failed pruned)) t
  | unrecorded {e : ReconcileError} {t : Trace} {d : ScheduledCall} {c c' : NamespaceClass}
    (hc : s.classes.find? name = some c) (active : c.isDeleting = false)
    (failed : t.FailsAt e d) (hcall : d.call = .replaceClassStatus c')
    (attempts : s.AttemptsUpdate c t.calls) (keeps : s.KeepsBookkeeping t.cluster name) :
    ClassCourse s name (.error e) t
  | uncleaned {n : Nat} {t : Trace} {c : NamespaceClass} (hc : s.classes.find? name = some c)
    (deleting : c.isDeleting = true) (attempts : s.AttemptsCleanup c t.calls)
    (keeps : s.KeepsBookkeeping t.cluster name) : ClassCourse s name (.error (.cleanup name n)) t
  | held {e : ReconcileError} {t : Trace} {d : ScheduledCall} {c : NamespaceClass}
    (hc : s.classes.find? name = some c) (deleting : c.isDeleting = true)
    (failed : t.FailsAt e d) (hcall : d.call = .replaceClass c.removeFinalizer.2)
    (attempts : s.AttemptsCleanup c t.calls) (keeps : s.KeepsBookkeeping t.cluster name) :
    ClassCourse s name (.error e) t

section Courses

/-- A call is served, or it fails without effect. -/
theorem ensures_callOrFail_effectless {c : StoreCall} {t : Trace} {a : c.Answer} {s : Cluster}
    {post : Except ReconcileError c.Answer → Trace → Prop}
    (h : t.cluster.perform c = (.ok a, s)) (hserved : post (.ok a) (t.meet c .served))
    (hrefused : ∀ e, post (.error (.store e)) (t.meet c (.refused e))) :
    (callOrFail c).run.Ensures FateRule.effectless.Traces (fun _ _ => True) t post := by
  refine (ensures_callOrFail_traces c t post).2 ⟨trivial, fun f hf => ?_⟩
  cases f with
  | served =>
    rw [show (t.cluster.meet c .served).1 = .ok a from congrArg Prod.fst h]
    exact hserved
  | refused e => exact hrefused e
  | lost e => exact absurd trivial hf

variable {s : Cluster} {c : NamespaceClass} {t : Trace}

/-- The reconcile stops with a call that prepares it. -/
theorem ClassCourse.of_refused {name : String} (call : StoreCall) (prepares : call.Prepares)
    (objects : t.cluster.objects = s.objects) (warnings : t.warnings = [])
    (keeps : s.KeepsBookkeeping t.cluster name) (e : StoreError) :
    ClassCourse s name (.error (.store e)) (t.meet call (.refused e)) :=
  .stopped (t.failsAt_meet call e) prepares objects warnings keeps

/-- The class is guarded, or the call that adds the finalizer has failed. -/
theorem ensureFinalizer_guards (hc : t.cluster.classes.find? c.nameAny = some c)
    (active : c.isDeleting = false) (ht : t.Sound) :
    (ensureFinalizer c).run.Ensures FateRule.effectless.Traces (fun _ _ => True) t fun r t₁ =>
      t₁.Sound ∧ t₁.warnings = t.warnings ∧
        match r with
        | .ok c₁ => t.cluster.Guards t₁.cluster c c₁
        | .error e => t₁.cluster = t.cluster ∧ ∃ d, t₁.FailsAt e d ∧ d.call.Prepares := by
  cases hf : c.hasFinalizer with
  | true =>
    rw [ensureFinalizer, NamespaceClass.addFinalizer_of_hasFinalizer hf]
    exact ⟨ht, rfl, .refl hc⟩
  | false =>
    rw [ensureFinalizer_of_not_hasFinalizer hf]
    have hreplaced := Cluster.perform_replaceClass (c.nameAny_addFinalizer ▸ hc)
      c.resourceVersion_addFinalizer.symm
    have hguards := Cluster.guards_replaceClass hc active hf
    exact ensures_callOrFail_effectless hreplaced ⟨ht.meet _ _, rfl, hguards⟩ fun e =>
      ⟨ht.meet _ _, rfl, rfl, _, t.failsAt_meet _ e, c.hasFinalizer_addFinalizer⟩

/-- The update of the namespaces attempts everything and writes no class. -/
theorem updateEach_attemptsUpdate {c₁ : NamespaceClass} (hspec : c₁.spec = c.spec)
    (hstatus : c₁.status = c.status) (ht : t.Sound) (tally : Tally) :
    (updateEach c₁.spec.resources (Revision.of c₁) tally
      (s.namespacesForClass c.nameAny)).Ensures FateRule.effectless.Traces (fun _ _ => True) t
        fun _ t₁ => t₁.cluster.classes = t.cluster.classes ∧ s.AttemptsUpdate c t₁.calls := by
  have hrecorded : c₁.lastApplied = c.lastApplied := by
    rw [NamespaceClass.lastApplied, hstatus, NamespaceClass.lastApplied]
  have hrevision : Revision.of c₁ = Revision.of c := by
    simp only [Revision.of, hrecorded, hspec]
  rw [hspec, hrevision]
  let namespaces := s.namespacesForClass c.nameAny
  have hattempts := ensures_traces_of_among .effectless ht
    (updateEach_attempts c.spec.resources (Revision.of c) tally namespaces t.calls)
  have hdeletes := ensures_traces_of_among .effectless ht
    (updateEach_deletes c.spec.resources (Revision.of c) tally namespaces t.calls)
  have hclasses := ensures_traces_of_cluster .effectless
    (ensures_classes_eq (updateEach_sparesClasses c.spec.resources (Revision.of c) tally
      namespaces) t.cluster)
  refine ((hattempts.and hdeletes).and hclasses).imp ?_
  rintro tally' t₁ ⟨⟨⟨-, calls, hcalls, hwritten⟩, -, calls', hcalls', hdeleted⟩, hsame⟩
  obtain rfl : calls = calls' := List.append_cancel_left (hcalls.symm.trans hcalls')
  have hsubset : calls ⊆ t₁.calls := hcalls ▸ List.subset_append_right _ _
  refine ⟨hsame, fun ns hns => ⟨(hwritten ns hns).mono hsubset, fun u hu => ?_⟩⟩
  obtain ⟨⟨hopted, hidentified⟩, hu⟩ := NamespaceClass.mem_prunedFrom.1 hu
  rw [← c.prunes_eq] at hidentified
  rw [← c.templates_eq] at hu
  exact (hdeleted ns hns hidentified hopted).mono hsubset u hu

/-- The record is written, or the call that writes it has failed. -/
theorem writeRecord_course {c₁ : NamespaceClass} (hc : s.classes.find? c.nameAny = some c)
    (active : c.isDeleting = false) (hstored : t.cluster.classes.find? c₁.nameAny = some c₁)
    (attempts : s.AttemptsUpdate c t.calls) (keeps : s.KeepsBookkeeping t.cluster c.nameAny)
    (record : List Json) (failed pruned : Nat) :
    (writeRecord c₁ record).run.Ensures FateRule.effectless.Traces (fun _ _ => True) t
      fun r t₁ => ClassCourse s c.nameAny
        (r.map fun _ => .applied (s.namespacesForClass c.nameAny).length failed pruned) t₁ := by
  rw [writeRecord]
  split
  · exact .applied hc attempts
  · have hmore : ∀ f, s.AttemptsUpdate c
        (t.meet (.replaceClassStatus { c₁ with status := some ⟨record⟩ }) f).calls :=
      fun f => attempts.mono (List.subset_append_left _ _)
    have hwritten := Cluster.perform_replaceClassStatus
      (c := { c₁ with status := some ⟨record⟩ }) hstored
    refine (ensures_exceptT_bind _ _ _ _).2
      (ensures_callOrFail_effectless hwritten ?_ fun e => ?_)
    · exact .applied hc (hmore _)
    · exact .unrecorded hc active (t.failsAt_meet _ e) rfl (hmore _) keeps

/-- The courses of an update. -/
theorem applyClass_course (hc : s.classes.find? c.nameAny = some c)
    (active : c.isDeleting = false) (quiet : s.webhooks.find? c.nameAny = none)
    (hcluster : t.cluster = s) (ht : t.Sound) (hwarnings : t.warnings = []) :
    (applyClass c).run.Ensures FateRule.effectless.Traces (fun _ _ => True) t
      (ClassCourse s c.nameAny) := by
  subst hcluster
  refine (ensures_exceptT_bind _ _ _ _).2 ((ensureFinalizer_guards hc active ht).imp ?_)
  rintro (e | c₁) t₁ ⟨ht₁, hw₁, h⟩
  · obtain ⟨hsame, d, hfailed, hprepares⟩ := h
    exact .stopped hfailed hprepares (by rw [hsame]) (hw₁.trans hwarnings)
      (Cluster.keepsBookkeeping_of_eq (by rw [hsame]) _)
  have hguards : t.cluster.Guards t₁.cluster c c₁ := h
  have hkeeps := hguards.keepsBookkeeping hc quiet
  obtain ⟨hspec, hstatus⟩ := hguards.unamended quiet
  -- the namespaces are the ones from before the finalizer was added
  have hlist : t₁.cluster.perform (.namespacesForClass c.nameAny) =
      (.ok (t.cluster.namespacesForClass c.nameAny), t₁.cluster) := by
    rw [← hguards.namespacesForClass]
    rfl
  refine (ensures_exceptT_bind _ _ _ _).2 (ensures_callOrFail_effectless hlist ?_
    fun e => .of_refused (.namespacesForClass c.nameAny) trivial hguards.objects
      (hw₁.trans hwarnings) hkeeps e)
  refine (ensures_exceptT_bind _ _ _ _).2 ((ensures_liftM _ _ _).2
    ((updateEach_attemptsUpdate hspec hstatus (ht₁.meet _ _) _).imp ?_))
  rintro tally t₂ ⟨hclasses, hattempts⟩
  have hclasses : t₂.cluster.classes = t₁.cluster.classes := hclasses
  have hstored : t₂.cluster.classes.find? c₁.nameAny = some c₁ := by
    rw [hclasses, hguards.nameAny, hguards.stored]
  have hkeeps₂ : t.cluster.KeepsBookkeeping t₂.cluster c.nameAny := by
    rw [Cluster.KeepsBookkeeping, hclasses]
    exact hkeeps
  refine (ensures_exceptT_bind _ _ _ _).2
    ((writeRecord_course hc active hstored hattempts hkeeps₂ _ tally.failed tally.pruned).imp ?_)
  rintro (e | _) t₃ hcourse
  · exact hcourse
  · exact hcourse

/-- The courses of a cleanup. -/
theorem finalizeClass_course (hc : s.classes.find? c.nameAny = some c)
    (deleting : c.isDeleting = true) (hcluster : t.cluster = s) (ht : t.Sound)
    (hwarnings : t.warnings = []) :
    (finalizeClass c).run.Ensures FateRule.effectless.Traces (fun _ _ => True) t
      (ClassCourse s c.nameAny) := by
  subst hcluster
  let listed := t.meet (.namespacesForClass c.nameAny) .served
  let namespaces := t.cluster.namespacesForClass c.nameAny
  have hlist : t.cluster.perform (.namespacesForClass c.nameAny) = (.ok namespaces, t.cluster) :=
    rfl
  refine (ensures_exceptT_bind _ _ _ _).2 (ensures_callOrFail_effectless hlist ?_
    fun e => .of_refused (.namespacesForClass c.nameAny) trivial rfl hwarnings
      (Cluster.keepsBookkeeping_of_eq rfl _) e)
  have hdeletes := ensures_traces_of_among (t := listed) .effectless (ht.meet _ _)
    (finalizeEach_deletes c.nameAny (declaredTemplates c) namespaces listed.calls)
  have hclasses := ensures_traces_of_cluster (t := listed) .effectless
    (ensures_classes_eq ((finalizeEach_asks c.nameAny (declaredTemplates c) namespaces).mono
      fun e ⟨_, _, he⟩ => he.sparesClasses) t.cluster)
  refine (ensures_exceptT_bind _ _ _ _).2 ((ensures_liftM _ _ _).2
    ((hdeletes.and hclasses).imp ?_))
  rintro report t₁ ⟨⟨-, calls, hcalls, hdeleted⟩, hsame⟩
  have hattempts : t.cluster.AttemptsCleanup c t₁.calls := by
    intro ns hns hopted
    rw [← declaredTemplates_eq]
    exact (hdeleted ns hns hopted).mono (hcalls ▸ List.subset_append_right _ _)
  have hkeeps := Cluster.keepsBookkeeping_of_eq hsame c.nameAny
  simp only
  split
  case isFalse => exact .uncleaned hc deleting hattempts hkeeps
  case isTrue =>
    have hc₁ : t₁.cluster.classes.find? c.removeFinalizer.2.nameAny = some c := by
      rw [hsame, c.nameAny_removeFinalizer, hc]
    have hreplaced := Cluster.perform_replaceClass hc₁ c.resourceVersion_removeFinalizer.symm
    refine (ensures_exceptT_bind _ _ _ _).2 (ensures_callOrFail_effectless hreplaced ?_ fun e =>
      .held hc deleting (t₁.failsAt_meet _ e) rfl (hattempts.mono (List.subset_append_left _ _))
        hkeeps)
    refine .inactive fun d hd => ?_
    obtain rfl : c = d := Option.some.inj (hc.symm.trans hd)
    exact deleting

/-- Every reconcile of a class goes in one of these ways. -/
theorem reconcileClassNamed_course (hs : s.Reachable) (name : String) :
    (reconcileClassNamed name).run.Ensures FateRule.effectless.Traces (fun _ _ => True)
      { cluster := s } (ClassCourse s name) := by
  let start : Trace := { cluster := s }
  have ht : start.Sound := ⟨hs, fun d hd => absurd hd List.not_mem_nil⟩
  have hkeeps := s.keepsBookkeeping_of_eq rfl name
  let t := start.meet (.getClass name) .served
  have hread : start.cluster.perform (.getClass name) = (.ok (s.classes.find? name), s) := rfl
  refine (ensures_exceptT_bind _ _ _ _).2 (ensures_callOrFail_effectless hread ?_
    fun e => .of_refused (t := start) (.getClass name) trivial rfl rfl hkeeps e)
  cases hc : s.classes.find? name with
  | none =>
    have hlist : t.cluster.perform (.namespacesForClass name) =
        (.ok (s.namespacesForClass name), s) := rfl
    refine (ensures_exceptT_bind _ _ _ _).2 (ensures_callOrFail_effectless hlist ?_
      fun e => .of_refused (t := t) (.namespacesForClass name) trivial rfl rfl hkeeps e)
    refine (ensures_exceptT_bind _ _ _ _).2 ((ensures_liftM _ _ _).2
      ((ensures_traces_of_asks (warnEach_asks name _) _).imp fun _ _ _ => ?_))
    refine .inactive fun c h => ?_
    rw [hc] at h
    cases h
  | some c =>
    obtain rfl : c.nameAny = name := hs.wellFormed.classes hc
    simp only [reconcileClass]
    cases hdeleting : c.isDeleting with
    | false =>
      exact applyClass_course hc hdeleting (hs.wellFormed.find?_webhooks _) rfl (ht.meet _ _) rfl
    | true => cases c.hasFinalizer with
      | true => exact finalizeClass_course hc hdeleting rfl (ht.meet _ _) rfl
      | false =>
        refine .inactive fun d hd => ?_
        obtain rfl : c = d := Option.some.inj (hc.symm.trans hd)
        exact hdeleting

end Courses

/-! ## Failures -/

/-- What a failed reconcile of a class leaves behind. The class keeps its bookkeeping. A call on
an object is not what the reconcile fails with. If that is a call which prepares the reconcile,
no object has changed and nobody was warned; if it is the write of the record, the whole update
has been attempted; and if the cleanup failed, all of it has been attempted. -/
structure ClassFailure (s : Cluster) (name : String) (e : ReconcileError) (t : Trace) : Prop where
  bookkeeping : s.KeepsBookkeeping t.cluster name
  cause : (∃ d, t.FailsAt e d ∧ ¬d.call.OnObject) ∨ ∃ n, e = .cleanup name n
  unprepared : ∀ d, t.FailsAt e d → d.call.Prepares →
    t.cluster.objects = s.objects ∧ t.warnings = []
  unrecorded : ∀ d c', t.FailsAt e d → d.call = .replaceClassStatus c' →
    ∃ c, s.classes.find? name = some c ∧ c.isDeleting = false ∧ s.AttemptsUpdate c t.calls
  uncleaned : ∀ n, e = .cleanup name n →
    ∃ c, s.classes.find? name = some c ∧ c.isDeleting = true ∧ s.AttemptsCleanup c t.calls

theorem ClassCourse.failure {s : Cluster} {name : String} {e : ReconcileError} {t : Trace}
    (h : ClassCourse s name (.error e) t) : ClassFailure s name e t := by
  -- a reconcile that fails with a call fails with one call and with no cleanup
  have hcall : ∀ {d}, t.FailsAt e d → ∀ n, e ≠ .cleanup name n := by
    rintro d hfailed n rfl
    obtain ⟨_, he, -⟩ := hfailed.error
    cases he
  cases h with
  | @stopped _ _ d failed prepares objects warnings keeps =>
    refine ⟨keeps, Or.inl ⟨d, failed, prepares.not_onObject⟩, fun _ _ _ => ⟨objects, warnings⟩,
      fun d' c' failed' hc' => ?_, fun n he => absurd he (hcall failed n)⟩
    rw [failed.unique failed'] at hc'
    rw [hc'] at prepares
    exact prepares.elim
  | @unrecorded _ _ d c c' hc active failed hwrite attempts keeps =>
    refine ⟨keeps, Or.inl ⟨d, failed, by rw [hwrite]; exact id⟩, fun d' failed' prepares => ?_,
      fun _ _ _ _ => ⟨c, hc, active, attempts⟩, fun n he => absurd he (hcall failed n)⟩
    rw [failed.unique failed', hwrite] at prepares
    exact prepares.elim
  | @held _ _ d c hc deleting failed hwrite attempts keeps =>
    refine ⟨keeps, Or.inl ⟨d, failed, by rw [hwrite]; exact id⟩, fun d' failed' prepares => ?_,
      fun d' c' failed' hc' => ?_, fun n he => absurd he (hcall failed n)⟩
    · rw [failed.unique failed', hwrite] at prepares
      have hlacks : c.removeFinalizer.2.hasFinalizer = true := prepares
      rw [c.hasFinalizer_removeFinalizer] at hlacks
      cases hlacks
    · rw [failed.unique failed', hwrite] at hc'
      cases hc'
  | @uncleaned n _ c hc deleting attempts keeps =>
    exact ⟨keeps, Or.inr ⟨n, rfl⟩, fun d failed _ => absurd rfl (hcall failed n),
      fun d _ failed _ => absurd rfl (hcall failed n), fun _ _ => ⟨c, hc, deleting, attempts⟩⟩

/-- Where no call fails but on objects, the update of a class succeeds, and all of it has been
attempted. -/
theorem ClassCourse.applied_of_onObject {s : Cluster} {name : String} {r : ReconcileResult}
    {t : Trace} (h : ClassCourse s name r t) {c : NamespaceClass}
    (hc : s.classes.find? name = some c) (active : c.isDeleting = false)
    (hfailed : ∀ d ∈ t.calls, d.Failed → d.call.OnObject) :
    (∃ failed pruned, r = .ok (.applied (s.namespacesForClass name).length failed pruned)) ∧
      s.AttemptsUpdate c t.calls := by
  have hactive : ∀ {d}, s.classes.find? name = some d → d.isDeleting ≠ true := by
    intro d hd deleting
    obtain rfl := Option.some.inj (hc.symm.trans hd)
    rw [active] at deleting
    cases deleting
  cases h with
  | applied hc' attempts =>
    obtain rfl := Option.some.inj (hc.symm.trans hc')
    exact ⟨⟨_, _, rfl⟩, attempts⟩
  | stopped failed prepares =>
    exact absurd (hfailed _ failed.failed.1 failed.failed.2) prepares.not_onObject
  | unrecorded _ _ failed hwrite =>
    have hobject := hfailed _ failed.failed.1 failed.failed.2
    rw [hwrite] at hobject
    exact hobject.elim
  | inactive deleting => exact absurd (deleting c hc) (hactive hc)
  | uncleaned hc' deleting => exact absurd deleting (hactive hc')
  | held hc' deleting => exact absurd deleting (hactive hc')

/-- Where calls are served or fail without effect, a failed reconcile of a class leaves
its bookkeeping as it was, and an object's call neither makes the reconcile of an active class fail
nor keeps anything else from being attempted. -/
theorem class_failure {s : Cluster} (hs : s.Reachable) {fates : List Fate}
    (hfates : ∀ f ∈ fates, ¬f.IsLost) (name : String) :
    let run := ({ cluster := s, fates } : ScheduledRun).run (reconcile (.ofClass name)).run
    (∀ e, run.1 = .error e → ClassFailure s name e run.2.trace) ∧
      ∀ c, s.classes.find? name = some c → c.isDeleting = false →
        (∀ d ∈ run.2.calls, d.Failed → d.call.OnObject) →
          (∃ failed pruned,
            run.1 = .ok (.applied (s.namespacesForClass name).length failed pruned)) ∧
          s.AttemptsUpdate c run.2.calls := by
  intro run
  have hcourse : ClassCourse s name run.1 run.2.trace := by
    have hensures := reconcileClassNamed_course hs name
    rw [← reconcile_ofClass] at hensures
    exact ScheduledRun.run_traces (fun _ => id) (fun f hf _ => hfates f hf) hensures
  refine ⟨fun e he => ?_, fun c hc active hfailed => hcourse.applied_of_onObject hc active hfailed⟩
  rw [he] at hcourse
  exact hcourse.failure

/-- The write of the record fails in one run, the one of an object in another. -/
theorem class_failure_sample :
    let unrecorded := ({
      cluster := .sample
      fates := List.replicate 6 .served ++ [.refused .timeout] } : ScheduledRun).run
        (reconcile (.ofClass "gold")).run
    let unwritten := ({
      cluster := .sample
      fates := [.served, .served, .refused .timeout] } : ScheduledRun).run
        (reconcile (.ofClass "gold")).run
    Cluster.sample.Reachable ∧
      (∃ e, unrecorded.1 = .error e ∧ ClassFailure .sample "gold" e unrecorded.2.trace) ∧
      ∃ c, Cluster.sample.classes.find? "gold" = some c ∧
        (∃ failed pruned, unwritten.1 = .ok (.applied 1 failed pruned)) ∧
        Cluster.sample.AttemptsUpdate c unwritten.2.calls := by
  intro unrecorded unwritten
  have hreachable := Cluster.reachable_sample
  refine ⟨hreachable, ?_, ?_⟩
  · have hfates : ∀ f ∈ List.replicate 6 Fate.served ++ [.refused .timeout], ¬f.IsLost := by
      intro f hf
      rcases List.mem_append.1 hf with hf | hf
      · rw [List.eq_of_mem_replicate hf]
        exact id
      · rw [List.mem_singleton.1 hf]
        exact id
    have hfailed : unrecorded.1.toOption = none := by decide +kernel
    cases hrun : unrecorded.1 with
    | ok o =>
      rw [hrun] at hfailed
      cases hfailed
    | error e => exact ⟨e, rfl, (class_failure hreachable hfates "gold").1 e hrun⟩
  · obtain ⟨c, hc, active⟩ : ∃ c, Cluster.sample.classes.find? "gold" = some c ∧
        c.isDeleting = false := ⟨_, rfl, rfl⟩
    have hfates : ∀ f ∈ [.served, .served, .refused .timeout], ¬Fate.IsLost f := by
      simp [Fate.IsLost]
    have hcalls : (unwritten.2.calls.all fun d =>
        (d.met.meet d.call d.fate).1.toBool || decide d.call.OnObject) = true := by decide +kernel
    have hlisted : (Cluster.sample.namespacesForClass "gold").length = 1 := by decide +kernel
    refine ⟨c, hc, ?_⟩
    rw [← hlisted]
    refine (class_failure hreachable hfates "gold").2 c hc active fun d hd hfailed => ?_
    obtain ⟨e, he⟩ := hfailed
    have hd := List.all_eq_true.1 hcalls d hd
    rw [he] at hd
    simpa [Except.toBool] using hd

end ClassReconciler
