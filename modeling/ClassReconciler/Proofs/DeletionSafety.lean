import ClassReconciler.Proofs.ObjectWork
import ClassReconciler.Proofs.ReconcileRules
import ClassReconciler.Proofs.Revision

/-!
# What may be deleted

Every deletion that a reconcile issues is one that its class permits in a namespace that names
the class: either the namespace asks for obsolete resources to be deleted, and the deleted one
is recorded as applied and claimed by no entry any more (`Obsolete`), or the class is being
deleted and the namespace asks for everything of it to be deleted (`CleanedUp`). Which of the
two it has to be is fixed by the class. The reconcile of a namespace deletes nothing.

Until the work on objects begins, no call of a reconcile is a deletion, and from then on neither
the class nor the namespaces change (`ensures_deletesOnlyPermitted`).
-/

namespace ClassReconciler

/-- An object that a class no longer requires and a namespace does not want to keep. -/
structure Obsolete (c : NamespaceClass) (ns : Namespace) (kind : ObjectKind) (name : String) :
    Prop where
  opted : ns.metadata.annotationValue? cleanupObsoleteKey = some "true"
  /-- Every entry of the class says what it stands for. -/
  identified : ∀ entry ∈ c.spec.resources, ∃ id, TemplateId.of entry = .ok id
  /-- The object is that of a recorded template whose identity no entry claims. -/
  removed : ∃ raw ∈ c.lastApplied, ∃ t, Template.parse raw = .ok t ∧
    (t.kind = kind ∧ t.name = name) ∧ ∀ entry ∈ c.spec.resources, TemplateId.of entry ≠ .ok t.id

/-- An object of a class that is held only until its namespaces are cleaned up. -/
structure CleanedUp (c : NamespaceClass) (ns : Namespace) (kind : ObjectKind) (name : String) :
    Prop where
  opted : ns.metadata.annotationValue? cleanupKey = some "true"
  held : classFinalizer ∈ c.finalizers
  /-- The object is that of a declared or recorded template. -/
  declared : ∃ raw ∈ c.spec.resources ++ c.lastApplied, ∃ t, Template.parse raw = .ok t ∧
    (t.kind = kind ∧ t.name = name)

/-- The class as it is stored where a deletion is issued, and the namespace that the deletion
is about: one that names the class, which permits the deletion there. The class is the one
that was stored at first, but for its finalizers, its version and what a webhook does to it
when the finalizer is added. -/
structure Permitted (first : Cluster) (className : String) (s : Cluster) (kind : ObjectKind)
    (n name : String) (c₀ c : NamespaceClass) (ns : Namespace) : Prop where
  read : first.classes.find? className = some c₀
  isDeleting : c.isDeleting = c₀.isDeleting
  unamended : first.webhooks.find? className = none → c.spec = c₀.spec ∧ c.status = c₀.status
  stored : s.classes.find? className = some c
  listed : ns ∈ s.namespacesForClass className
  target : ns.nameAny = n
  permits : if c.isDeleting then CleanedUp c ns kind name else Obsolete c ns kind name

/-- A deletion is permitted; nothing is said of other effects. -/
def DeletesOnlyPermitted (first : Cluster) (className : String) (s : Cluster) (e : Effect) : Prop :=
  ∀ kind n name, e = .call (.deleteObject kind n name) →
    ∃ c₀ c ns, Permitted first className s kind n name c₀ c ns

theorem deletesOnlyPermitted_of_ne {first : Cluster} {className : String} {s : Cluster}
    {e : Effect} (h : ∀ kind n name, e ≠ .call (.deleteObject kind n name)) :
    DeletesOnlyPermitted first className s e :=
  fun kind n name he => (h kind n name he).elim

/-- Work on objects that deletes only what is permitted, on every course of it. -/
theorem ensures_deletesOnlyPermitted {rule : FateRule} {α : Type} {a : Action α}
    {namespaces : List Namespace} {deletes : Namespace → ObjectKind → String → Prop}
    (ha : a.Asks fun e => ∃ ns ∈ namespaces, e.WorksIn ns.nameAny (deletes ns))
    {first s : Cluster} {className : String} {c₀ c : NamespaceClass}
    (hpermitted : ∀ ns ∈ namespaces, ∀ kind name, deletes ns kind name →
      Permitted first className s kind ns.nameAny name c₀ c ns) :
    a.Ensures rule.Answers (DeletesOnlyPermitted first className) s fun _ _ => True := by
  refine (ensures_sameOutside ha s ?_).imp fun _ _ _ => trivial
  rintro s' hs e ⟨ns, hns, he⟩ kind n name rfl
  have h := hpermitted ns hns kind name he.2
  exact ⟨c₀, c, ns, { h with
    stored := hs.classes ▸ h.stored
    listed := hs.namespacesForClass className ▸ h.listed
    target := he.1.symm }⟩

/-! ## Courses of a reconcile -/

section Courses

variable {rule : FateRule}

/-- Warning the namespaces of a missing class deletes nothing. -/
theorem reconcileOrphans_deletesOnlyPermitted (first s : Cluster) (className name : String) :
    (reconcileOrphans name).run.Ensures rule.Answers (DeletesOnlyPermitted first className) s
      fun _ _ => True := by
  refine (ensures_exceptT_bind _ _ s _).2 (ensures_read rfl ?_ ?_ fun _ => trivial)
  · exact deletesOnlyPermitted_of_ne nofun
  · refine (ensures_exceptT_bind _ _ s _).2 ((ensures_liftM _ s _).2 ?_)
    exact (ensures_warnEach name _ s fun w => deletesOnlyPermitted_of_ne nofun).imp
      fun _ _ _ => trivial

/-- A class that is not being deleted has obsolete resources deleted. -/
theorem applyClass_deletesOnlyPermitted {s : Cluster} {c : NamespaceClass}
    (hc : s.classes.find? c.nameAny = some c) (active : c.isDeleting = false) :
    (applyClass c).run.Ensures rule.Answers (DeletesOnlyPermitted s c.nameAny) s
      fun _ _ => True := by
  refine ensures_applyClass hc active (deletesOnlyPermitted_of_ne nofun)
    (fun _ _ _ => deletesOnlyPermitted_of_ne nofun) (fun _ _ _ _ => trivial) ?_
  intro s₁ c₁ hguards namespaces revision
  have hpermitted : ∀ ns ∈ namespaces, ∀ kind name,
      (revision.prunes ∧ ns.cleanupObsoleteEnabled ∧
        ∃ t ∈ revision.templates, t.kind = kind ∧ t.name = name) →
      Permitted s c.nameAny s₁ kind ns.nameAny name c c₁ ns := by
    rintro ns hns kind name ⟨hprunes, hopted, t, ht, hkind, hname⟩
    obtain ⟨raw, hraw, hparse, hunclaimed⟩ := Revision.mem_templates.1 ht
    have hactive : c₁.isDeleting = false := hguards.isDeleting.trans active
    have hlisted : ns ∈ s₁.namespacesForClass c.nameAny := by
      rw [hguards.namespacesForClass]
      exact hns
    refine ⟨hc, hguards.isDeleting, hguards.unamended, hguards.stored, hlisted, rfl, ?_⟩
    rw [if_neg (by simp [hactive])]
    refine ⟨by simpa [Namespace.cleanupObsoleteEnabled, Namespace.optsInto] using hopted,
      Revision.prunes_iff.1 hprunes, raw, hraw, t, hparse, ⟨hkind, hname⟩, hunclaimed⟩
  refine (ensures_deletesOnlyPermitted (updateEach_asks _ _ _ _) hpermitted).imp ?_
  refine fun tally s₂ _ => (Dialogue.Ensures.of_asks_true (writeRecord_asks c₁ _) s₂ ?_).imp
    fun _ _ _ => trivial
  exact fun _ e he => deletesOnlyPermitted_of_ne (he ▸ nofun)

/-- A class that is being deleted has everything of it deleted. -/
theorem finalizeClass_deletesOnlyPermitted {s : Cluster} {c : NamespaceClass}
    (hc : s.classes.find? c.nameAny = some c) (deleting : c.isDeleting = true)
    (held : c.hasFinalizer = true) :
    (finalizeClass c).run.Ensures rule.Answers (DeletesOnlyPermitted s c.nameAny) s
      fun _ _ => True := by
  refine ensures_finalizeClass (deletesOnlyPermitted_of_ne (by simp)) (fun _ => trivial) ?_
  have hpermitted : ∀ ns ∈ s.namespacesForClass c.nameAny, ∀ kind name,
      (ns.cleanupEnabled ∧ ∃ t ∈ declaredTemplates c, t.kind = kind ∧ t.name = name) →
      Permitted s c.nameAny s kind ns.nameAny name c c ns := by
    rintro ns hns kind name ⟨hopted, t, ht, hkind, hname⟩
    obtain ⟨raw, hraw, hparse⟩ := parse_of_mem_declaredTemplates ht
    refine ⟨hc, rfl, fun _ => ⟨rfl, rfl⟩, hc, hns, rfl, ?_⟩
    rw [if_pos deleting]
    refine ⟨by simpa [Namespace.cleanupEnabled, Namespace.optsInto] using hopted, ?_,
      raw, hraw, t, hparse, hkind, hname⟩
    simpa [NamespaceClass.hasFinalizer] using held
  refine (ensures_deletesOnlyPermitted (finalizeEach_asks _ _ _) hpermitted).imp ?_
  intro report s₁ _
  split
  · exact (ensures_callOrFail _ s₁ _).2
      ⟨deletesOnlyPermitted_of_ne (by simp), fun _ _ => trivial⟩
  · trivial

/-- The reconcile of a class, which may be missing. -/
theorem reconcileClassNamed_deletesOnlyPermitted {s : Cluster} (hs : s.Named) (name : String) :
    (reconcileClassNamed name).run.Ensures rule.Answers (DeletesOnlyPermitted s name) s
      fun _ _ => True := by
  refine ensures_reconcileClassNamed hs (deletesOnlyPermitted_of_ne nofun)
    (reconcileOrphans_deletesOnlyPermitted s s name name) ?_ ?_ trivial fun _ => trivial
  · rintro c rfl hc active
    exact applyClass_deletesOnlyPermitted hc active
  · rintro c rfl hc deleting held
    exact finalizeClass_deletesOnlyPermitted hc deleting held

/-- The reconcile of a namespace deletes nothing. -/
theorem reconcileNamespace_deletesNothing (ns : Namespace) (s : Cluster) :
    (reconcileNamespace ns).run.Ensures rule.Answers
      (fun _ e => ∀ kind n name, e ≠ .call (.deleteObject kind n name)) s fun _ _ => True := by
  rw [reconcileNamespace]
  split
  · trivial
  refine (ensures_exceptT_bind _ _ s _).2 (ensures_read rfl nofun ?_ fun _ => trivial)
  cases hc : s.classes.find? _ with
  | none =>
    refine (ensures_exceptT_bind _ _ s _).2 ((ensures_liftM _ s _).2 ?_)
    exact (FateRule.ensures_warn _ s _).2 ⟨nofun, trivial⟩
  | some c =>
    simp only
    split
    · trivial
    · refine (ensures_exceptT_bind _ _ s _).2 ((ensures_liftM _ s _).2 ?_)
      refine (Dialogue.Ensures.of_asks_true (applyFrom_asks _ 0 _) s ?_).imp fun _ _ _ => trivial
      rintro _ e he kind n name rfl
      exact he.2

end Courses

/-! ## Runs -/

/-- Every deletion that a reconcile issues, whatever becomes of its calls, is one that the class
of its key permits in a namespace that names the class; and where the key stands for a
namespace, there is none. -/
theorem deletions_permitted {s : Cluster} (hs : s.Named) (key : Key) (fates : List Fate) :
    let run := (ScheduledRun.run { cluster := s, fates } (reconcile key).run).2
    (∀ d ∈ run.calls, ∀ kind n name, d.call = .deleteObject kind n name →
      ∃ c₀ c ns, Permitted s key.name d.met kind n name c₀ c ns) ∧
    (key.kind ≠ some .ofClass → (s.namespaces.find? key.name).isSome →
      ∀ d ∈ run.calls, ∀ kind n name, d.call ≠ .deleteObject kind n name) := by
  intro run
  have hdeletions : (reconcile key).run.Ensures FateRule.any.Answers
      (DeletesOnlyPermitted s key.name) s fun _ _ => True := by
    refine ensures_reconcile (deletesOnlyPermitted_of_ne nofun) (fun ns _ _ => ?_)
      (fun _ => reconcileClassNamed_deletesOnlyPermitted hs key.name) trivial fun _ => trivial
    exact (reconcileNamespace_deletesNothing ns s).mono
      (fun _ _ he => deletesOnlyPermitted_of_ne he) fun _ _ => id
  refine ⟨fun d hd kind n name hcall => ?_, fun hkind hsome d hd kind n name hcall => ?_⟩
  · rcases (ScheduledRun.run_ensures hdeletions).2 d hd with hd | hd
    · simp at hd
    · exact hd kind n name (congrArg Effect.call hcall)
  · obtain ⟨ns, hns⟩ := Option.isSome_iff_exists.1 hsome
    have hnothing : (reconcile key).run.Ensures FateRule.any.Answers
        (fun _ e => ∀ kind n name, e ≠ .call (.deleteObject kind n name)) s fun _ _ => True :=
      reconcile_of_namespace hkind hns nofun (reconcileNamespace_deletesNothing ns s)
        fun _ => trivial
    rcases (ScheduledRun.run_ensures hnothing).2 d hd with hd | hd
    · simp at hd
    · exact hd kind n name (congrArg Effect.call hcall)

/-- In the small cluster, an obsolete object is deleted although the write before that is lost. -/
theorem deletions_permitted_sample :
    let run := (ScheduledRun.run
      { cluster := Cluster.sample, fates := [.served, .served, .served, .lost .timeout] }
      (reconcile (.ofClass "gold")).run).2
    Cluster.sample.Named ∧ ∃ d ∈ run.calls, ∃ kind n, d.call = .deleteObject kind n "old" ∧
      ∃ c₀ c ns, Permitted Cluster.sample "gold" d.met kind n "old" c₀ c ns := by
  intro run
  have hnamed : Cluster.sample.Named := Cluster.reachable_sample.wellFormed.toNamed
  have hsome : run.calls.any (fun d => d.call.kind = .deleteObject ∧ d.call.subject = "old") := by
    decide +kernel
  obtain ⟨⟨met, call, fate⟩, hd, hdel⟩ := List.any_eq_true.1 hsome
  obtain ⟨hkind, hsubject⟩ := of_decide_eq_true hdel
  cases call with
  | deleteObject kind n name =>
    obtain rfl : name = "old" := hsubject
    exact ⟨hnamed, _, hd, kind, n, rfl,
      (deletions_permitted hnamed (.ofClass "gold") _).1 _ hd kind n "old" rfl⟩
  | _ => cases hkind

end ClassReconciler
