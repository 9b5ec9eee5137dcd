import ClassReconciler.Proofs.Finalization

/-!
# What a reconcile can touch

A reconcile is about one class: the one that the namespace of its key names, or the one of the
key's name. Whatever becomes of its calls, it changes objects in namespaces that name this class
and nowhere else, and in no other namespace than the key's if the key stands for one. It changes
no namespace and no other class. Of the class itself it changes the controller's finalizer, the
version and the record, and that only where the key stands for no namespace
(`reconcile_changesOnly`). Results that report no work report none that was done: nothing at all
has changed then (`IsIdle`).

The lemmas before say this of each function of the reconciler. An update guards the class, works
in its namespaces and writes the record, and each of the three touches one part of the cluster
(`applyClass_worksFor`); so does the cleanup after a class (`finalizeClass_worksFor`).
-/

namespace ClassReconciler

/-! ## What may change -/

/-- A class differs from what it was in the controller's finalizer, its version and its status. -/
structure NamespaceClass.SameDeclaration (c c' : NamespaceClass) : Prop where
  metadata : ∃ finalizers version,
    c'.metadata = { c.metadata with finalizers := finalizers, resourceVersion := version }
  otherFinalizers : c'.otherFinalizers = c.otherFinalizers
  spec : c'.spec = c.spec

/-- What a reconcile may make of a class. It disappears if the finalizer that is removed was the
last one. -/
def NamespaceClass.MayBecome (c : NamespaceClass) : Option NamespaceClass → Prop
  | some c' => c.SameDeclaration c'
  | none => c.isDeleting = true ∧ c.hasFinalizer = true ∧ c.otherFinalizers = []

/-- Nothing differs but objects in namespaces of a class, and the class in what a reconcile may
make of it. -/
structure Cluster.WorksFor (s s' : Cluster) (c : NamespaceClass) : Prop where
  namespaces : s'.namespaces = s.namespaces
  others : ∀ d, d ≠ c.nameAny → s'.classes.find? d = s.classes.find? d
  becomes : c.MayBecome (s'.classes.find? c.nameAny)
  objects : ∀ k, s'.objects.find? k ≠ s.objects.find? k →
    ∃ ns ∈ s.namespacesForClass c.nameAny, ns.nameAny = k.namespaceName

/-- Nothing differs but what the reconcile of a key may touch: objects in the namespaces that
name its class, in the key's own one if it stands for a namespace, and else the class. -/
structure Cluster.ChangesOnly (s s' : Cluster) (key : Key) : Prop where
  namespaces : s'.namespaces = s.namespaces
  objects : ∀ k, s'.objects.find? k ≠ s.objects.find? k →
    ∃ className, key.className? s = some className ∧
      ∃ ns ∈ s.namespacesForClass className, ns.nameAny = k.namespaceName ∧
        ∀ ns', key.namespace? s = some ns' → ns' = ns
  classes : ∀ d, s'.classes.find? d ≠ s.classes.find? d →
    key.namespace? s = none ∧ key.className? s = some d ∧
      ∃ c, s.classes.find? d = some c ∧ c.MayBecome (s'.classes.find? d)

/-- The results of a reconcile that finds nothing to do. -/
def IsIdle : ReconcileResult → Prop
  | .ok .unlabeled | .ok .gone | .ok (.classDeleting _) | .ok (.orphaned _) | .ok .deleted
  | .error (.missingClass ..) => True
  | _ => False

theorem NamespaceClass.SameDeclaration.refl (c : NamespaceClass) : c.SameDeclaration c :=
  ⟨⟨_, _, rfl⟩, rfl, rfl⟩

theorem NamespaceClass.SameDeclaration.trans {c c' c'' : NamespaceClass}
    (h : c.SameDeclaration c') (h' : c'.SameDeclaration c'') : c.SameDeclaration c'' := by
  obtain ⟨fs, v, hmetadata⟩ := h.metadata
  obtain ⟨fs', v', hmetadata'⟩ := h'.metadata
  refine ⟨⟨fs', v', ?_⟩, h'.otherFinalizers.trans h.otherFinalizers, h'.spec.trans h.spec⟩
  rw [hmetadata', hmetadata]

theorem Cluster.ChangesOnly.refl (s : Cluster) (key : Key) : s.ChangesOnly s key :=
  ⟨rfl, fun _ h => absurd rfl h, fun _ h => absurd rfl h⟩

/-- What is done for the class of a key is all that its reconcile may do. -/
theorem Cluster.WorksFor.changesOnly {s s' : Cluster} {c : NamespaceClass} {key : Key}
    (h : s.WorksFor s' c) (hkey : key.NamesClass s) (hname : c.nameAny = key.name)
    (hc : s.classes.find? c.nameAny = some c) : s.ChangesOnly s' key where
  namespaces := h.namespaces
  objects k hk := by
    obtain ⟨ns, hns, hn⟩ := h.objects k hk
    refine ⟨c.nameAny, hname ▸ hkey.className?, ns, hns, hn, fun ns' hns' => ?_⟩
    rw [hkey.namespace?] at hns'
    cases hns'
  classes d hd := by
    obtain rfl : d = c.nameAny := Decidable.byContradiction fun hne => hd (h.others d hne)
    exact ⟨hkey.namespace?, hname ▸ hkey.className?, c, hc, h.becomes⟩

/-! ## Namespaces -/

section Courses

variable {rule : FateRule}

/-- The reconcile of a namespace works in it, or has found nothing to do. -/
theorem reconcileNamespace_sameOutside (ns : Namespace) (s : Cluster) :
    (reconcileNamespace ns).run.Ensures rule.Answers (fun _ _ => True) s fun r s' =>
      s' = s ∨ ¬IsIdle r ∧ ns.className?.isSome ∧ s.SameOutside (· = ns.nameAny) s' := by
  rw [reconcileNamespace]
  split
  · exact Or.inl rfl
  case h_2 className hclass =>
    refine (ensures_exceptT_bind _ _ s _).2 (ensures_read rfl trivial ?_ fun _ => Or.inl rfl)
    cases s.classes.find? className with
    | none =>
      refine (ensures_exceptT_bind _ _ s _).2 ((ensures_liftM _ s _).2 ?_)
      exact (FateRule.ensures_warn _ s _).2 ⟨trivial, Or.inl rfl⟩
    | some c =>
      simp only
      split
      · exact Or.inl rfl
      · refine (ensures_exceptT_bind _ _ s _).2 ((ensures_liftM _ s _).2 ?_)
        have hworks : (applyAll c.spec.resources ns.nameAny).Asks fun e =>
            ∃ ns' ∈ [ns], e.WorksIn ns'.nameAny fun _ _ => False :=
          (applyFrom_asks c.spec.resources 0 ns.nameAny).mono
            fun e he => ⟨ns, List.mem_singleton_self ns, he⟩
        refine (ensures_sameOutside hworks s fun _ _ _ _ => trivial).imp fun report s' hsame => ?_
        refine Or.inr ⟨not_false, by rw [hclass]; rfl, hsame.mono ?_⟩
        rintro n ⟨ns', hns', rfl⟩
        rw [List.mem_singleton.1 hns']

/-- The namespaces of a missing class are warned and nothing changes. -/
theorem reconcileOrphans_unchanged (className : String) (s : Cluster) :
    (reconcileOrphans className).run.Ensures rule.Answers (fun _ _ => True) s
      fun _ s' => s' = s := by
  refine (ensures_exceptT_bind _ _ s _).2 (ensures_read rfl trivial ?_ fun _ => rfl)
  refine (ensures_exceptT_bind _ _ s _).2 ((ensures_liftM _ s _).2 ?_)
  exact (ensures_warnEach className _ s fun _ => trivial).imp fun _ s' h => h

/-! ## Classes -/

/-- A class that is guarded has the same declaration. -/
theorem Cluster.Guards.sameDeclaration {s s' : Cluster} {c c' : NamespaceClass}
    (h : s.Guards s' c c') (quiet : s.webhooks.find? c.nameAny = none) : c.SameDeclaration c' where
  metadata := by
    obtain ⟨version, hmetadata | hmetadata⟩ := h.metadata
    · exact ⟨_, version, hmetadata⟩
    · refine ⟨c.addFinalizer.2.metadata.finalizers, version, hmetadata.trans ?_⟩
      rw [NamespaceClass.addFinalizer]
      split <;> rfl
  otherFinalizers := by
    rw [NamespaceClass.otherFinalizers, NamespaceClass.otherFinalizers]
    rcases h.finalizers with hsame | ⟨-, hadded⟩
    · rw [hsame]
    · rw [hadded, List.filter_append]
      simp
  spec := (h.unamended quiet).1

/-- The update of a class works for it, whatever becomes of its calls. -/
theorem applyClass_worksFor {s : Cluster} {c : NamespaceClass}
    (hc : s.classes.find? c.nameAny = some c) (active : c.isDeleting = false)
    (quiet : s.webhooks.find? c.nameAny = none) :
    (applyClass c).run.Ensures rule.Answers (fun _ _ => True) s fun _ s' => s.WorksFor s' c := by
  refine ensures_applyClass hc active trivial (fun _ _ _ => trivial)
    (fun s₁ c₁ hguards e => ?_) ?_
  · refine ⟨hguards.namespaces, hguards.others, ?_, fun k hk => absurd ?_ hk⟩
    · rw [hguards.stored]
      exact hguards.sameDeclaration quiet
    · rw [hguards.objects]
  intro s₁ c₁ hguards namespaces revision
  refine (ensures_sameOutside (updateEach_asks c₁.spec.resources revision
    { retained := revision.deferred } namespaces) s₁ fun _ _ _ _ => trivial).imp ?_
  intro tally s₂ hworked
  have hc₂ : s₂.classes.find? c₁.nameAny = some c₁ := by
    rw [hworked.classes, hguards.nameAny, hguards.stored]
  refine (writeRecord_stores hc₂ _ trivial).imp ?_
  rintro r s₃ ⟨c₃, hstores, hrecorded⟩
  rw [hguards.nameAny] at hstores
  have hsame : c₁.SameDeclaration c₃ := by
    rcases hrecorded with rfl | ⟨version, rfl⟩
    · exact .refl c₃
    · exact ⟨⟨_, version, rfl⟩, rfl, rfl⟩
  refine ⟨?_, fun d hd => ?_, ?_, fun k hk => ?_⟩
  · rw [hstores.namespaces, hworked.namespaces, hguards.namespaces]
  · rw [hstores.others d hd, hworked.classes, hguards.others d hd]
  · rw [hstores.stored]
    exact (hguards.sameDeclaration quiet).trans hsame
  · refine Classical.byContradiction fun hout => hk ?_
    rw [hstores.objects, hworked.objects k hout, hguards.objects]

/-- A call is how a step fails. -/
def FailsByCall {α : Type} (r : Except ReconcileError α) : Prop :=
  ∀ e, r = .error e → ∃ e', e = .store e'

theorem failsByCall_ok {α : Type} (a : α) : FailsByCall (.ok a) := by
  rintro e h
  cases h

theorem callOrFail_failsByCall (c : StoreCall) (s : Cluster) :
    (callOrFail c).run.Ensures rule.Answers (fun _ _ => True) s fun r _ => FailsByCall r := by
  refine (ensures_callOrFail c s _).2 ⟨trivial, fun f _ e he => ?_⟩
  cases ha : (s.meet c f).1 with
  | ok a =>
    rw [ha] at he
    cases he
  | error e' =>
    rw [ha] at he
    exact ⟨e', (Except.error.inj he).symm⟩

/-- The update of a class ends as applied, or with a call that failed. -/
theorem applyClass_not_idle (c : NamespaceClass) (s : Cluster) :
    (applyClass c).run.Ensures rule.Answers (fun _ _ => True) s fun r _ => ¬IsIdle r := by
  have hfailed : ∀ e, (∃ e', e = .store e') → ¬IsIdle (.error e) := by
    rintro _ ⟨e', rfl⟩
    exact not_false
  have hguard : (ensureFinalizer c).run.Ensures rule.Answers (fun _ _ => True) s
      fun r _ => FailsByCall r := by
    rw [ensureFinalizer]
    split
    · exact callOrFail_failsByCall _ s
    · exact failsByCall_ok _
  refine (ensures_exceptT_bind _ _ s _).2 (hguard.imp ?_)
  rintro (e | c₁) s₁ h₁
  · exact hfailed e (h₁ e rfl)
  refine (ensures_exceptT_bind _ _ s₁ _).2 ((callOrFail_failsByCall _ s₁).imp ?_)
  rintro (e | (namespaces : List Namespace)) s₂ h₂
  · exact hfailed e (h₂ e rfl)
  refine (ensures_exceptT_bind _ _ s₂ _).2 ((ensures_liftM _ s₂ _).2 ?_)
  refine (ensures_classes_eq (updateEach_sparesClasses _ _ _ namespaces) s₂).imp ?_
  intro tally s₃ _
  have hrecord : (writeRecord c₁ ((Revision.of c₁).record c₁.spec.resources
      tally.retained)).run.Ensures rule.Answers (fun _ _ => True) s₃ fun r _ => FailsByCall r := by
    rw [writeRecord]
    split
    · exact failsByCall_ok _
    · refine (ensures_exceptT_bind _ _ s₃ _).2 ((callOrFail_failsByCall _ s₃).imp ?_)
      rintro (e | _) s₄ h₄
      · rintro _ ⟨⟩
        exact h₄ e rfl
      · exact failsByCall_ok _
  refine (ensures_exceptT_bind _ _ s₃ _).2 (hrecord.imp ?_)
  rintro (e | _) s₄ h₄
  · exact hfailed e (h₄ e rfl)
  · exact not_false

/-- The cleanup after a class works for it, whatever becomes of its calls, and does not end as
one that found nothing to do. -/
theorem finalizeClass_worksFor {s : Cluster} {c : NamespaceClass}
    (hc : s.classes.find? c.nameAny = some c) (deleting : c.isDeleting = true)
    (held : c.hasFinalizer = true) (quiet : s.webhooks.find? c.nameAny = none) :
    (finalizeClass c).run.Ensures rule.Answers (fun _ _ => True) s fun r s' =>
      ¬IsIdle r ∧ s.WorksFor s' c := by
  have hworksFor : ∀ {s'}, s.SameOutside (fun n => ∃ ns ∈ s.namespacesForClass c.nameAny,
      ns.nameAny = n) s' → s.WorksFor s' c := by
    intro s' hworked
    refine ⟨hworked.namespaces, fun d _ => congrArg (·.find? d) hworked.classes, ?_,
      fun k hk => Classical.byContradiction fun hout => hk (hworked.objects k hout)⟩
    rw [hworked.classes, hc]
    exact .refl c
  refine ensures_finalizeClass trivial (fun e => ⟨not_false, hworksFor (.refl _ s)⟩) ?_
  refine (ensures_sameOutside (finalizeEach_asks c.nameAny (declaredTemplates c) _) s
    fun _ _ _ _ => trivial).imp fun report s₁ hworked => ?_
  split
  case isFalse => exact ⟨not_false, hworksFor hworked⟩
  case isTrue =>
    have hc₁ : s₁.classes.find? c.nameAny = some c := by rw [hworked.classes, hc]
    have hreplaced : s.WorksFor (s₁.replaceClass c.removeFinalizer.2).2 c := by
      refine ⟨?_, fun d hd => ?_, ?_, fun k hk => ?_⟩
      · rw [Cluster.namespaces_replaceClass, hworked.namespaces]
      · rw [s₁.find?_replaceClass_of_ne (c.nameAny_removeFinalizer ▸ hd), hworked.classes]
      · rw [Cluster.find?_replaceClass_removeFinalizer hc₁ (hworked.webhooks ▸ quiet) deleting
          held]
        split
        case isTrue hother => exact ⟨deleting, held, hother⟩
        case isFalse =>
          refine ⟨⟨_, _, rfl⟩, ?_, rfl⟩
          exact List.filter_eq_self.2 fun f hf => (List.mem_filter.1 hf).2
      · refine Classical.byContradiction fun hout => hk ?_
        rw [Cluster.objects_replaceClass, hworked.objects k hout]
    refine (ensures_callOrFail _ s₁ _).2 ⟨trivial, fun f _ => ?_⟩
    have hanswer := Cluster.perform_replaceClass (s := s₁) (c := c.removeFinalizer.2)
      (c.nameAny_removeFinalizer ▸ hc₁) c.resourceVersion_removeFinalizer.symm
    cases f with
    | refused e => exact ⟨not_false, hworksFor hworked⟩
    | lost e =>
      rw [Cluster.meet, hanswer]
      exact ⟨not_false, hreplaced⟩
    | served =>
      rw [Cluster.meet, hanswer]
      exact ⟨not_false, hreplaced⟩

/-! ## Reconciles -/

/-- On every course a reconcile changes only what its key is about, and nothing if its result is
that there was nothing to do. -/
theorem reconcile_contained {s : Cluster} (hs : s.Named) (quiet : s.webhooks = .empty)
    (key : Key) :
    (reconcile key).run.Ensures rule.Answers (fun _ _ => True) s fun r s' =>
      s.ChangesOnly s' key ∧ (IsIdle r → s' = s) := by
  have hsame : ∀ r, s.ChangesOnly s key ∧ (IsIdle r → s = s) := fun _ => ⟨.refl s key, fun _ => rfl⟩
  have hquiet : ∀ name, s.webhooks.find? name = none := by
    intro name
    rw [quiet]
    rfl
  refine ensures_reconcile trivial (fun ns hkind hns => ?_) (fun hkey => ?_) (hsame _)
    fun e => hsame _
  · refine (reconcileNamespace_sameOutside ns s).imp ?_
    rintro r s' (rfl | ⟨hr, hclass, hworked⟩)
    · exact hsame r
    refine ⟨⟨hworked.namespaces, fun k hk => ?_, fun d hd => ?_⟩, fun h => absurd h hr⟩
    · obtain ⟨className, hclass⟩ := Option.isSome_iff_exists.1 hclass
      have hname : ns.nameAny = k.namespaceName :=
        Decidable.byContradiction fun hne => hk (hworked.objects k fun h => hne h.symm)
      have hnamespace := Key.namespace?_of_stored hkind hns
      refine ⟨className, ?_, ns, hs.mem_namespacesForClass.2 ⟨?_, hclass⟩, hname, ?_⟩
      · simp only [Key.className?, hnamespace, hclass]
      · rw [hs.namespaces hns, hns]
      · intro ns' hns'
        exact Option.some.inj (hns'.symm.trans hnamespace)
    · exact absurd (congrArg (·.find? d) hworked.classes) hd
  · refine ensures_reconcileClassNamed hs trivial ?_ ?_ ?_ (hsame _) fun e => hsame _
    · refine (reconcileOrphans_unchanged key.name s).imp ?_
      rintro r _ rfl
      exact hsame r
    · intro c hname hc active
      refine ((applyClass_worksFor hc active (hquiet _)).and (applyClass_not_idle c s)).imp ?_
      rintro r s' ⟨hworked, hr⟩
      exact ⟨hworked.changesOnly hkey hname hc, fun h => absurd h hr⟩
    · intro c hname hc deleting held
      refine (finalizeClass_worksFor hc deleting held (hquiet _)).imp ?_
      rintro r s' ⟨hr, hworked⟩
      exact ⟨hworked.changesOnly hkey hname hc, fun h => absurd h hr⟩

end Courses

/-- Whatever becomes of its calls, a reconcile changes only what its key is about,
and nothing if its result is that there was nothing to do. -/
theorem reconcile_changesOnly {s : Cluster} (hs : s.Named) (quiet : s.webhooks = .empty)
    (fates : List Fate) (key : Key) :
    let run := ({ cluster := s, fates } : ScheduledRun).run (reconcile key).run
    s.ChangesOnly run.2.cluster key ∧ (IsIdle run.1 → run.2.cluster = s) :=
  (ScheduledRun.run_ensures (r := { cluster := s, fates }) (reconcile_contained hs quiet key)).1

/-- A namespace is reconciled while the write of its object fails: its class stays as it is. -/
theorem reconcile_changesOnly_sample :
    let key := Key.ofNamespace "team"
    let fates := [.served, .served, .served, .refused .timeout]
    let run := ({ cluster := .sample, fates } : ScheduledRun).run (reconcile key).run
    Cluster.sample.Named ∧ Cluster.sample.webhooks = .empty ∧
      Cluster.sample.ChangesOnly run.2.cluster key ∧
      run.2.cluster.classes.find? "gold" = Cluster.sample.classes.find? "gold" := by
  intro key fates run
  have hs := Cluster.reachable_sample.wellFormed
  obtain ⟨hchanges, -⟩ := reconcile_changesOnly hs.toNamed hs.quiet fates key
  refine ⟨hs.toNamed, hs.quiet, hchanges, Classical.byContradiction fun hne => ?_⟩
  have hnone := (hchanges.classes "gold" hne).1
  have hsome : (key.namespace? Cluster.sample).isSome = true := by decide +kernel
  rw [hnone] at hsome
  cases hsome

end ClassReconciler
