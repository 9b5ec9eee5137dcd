import ClassReconciler.Proofs.ObjectWork
import ClassReconciler.Proofs.ReconcileRules

/-!
# What keeps the finalizer

The finalizer holds a class that is being deleted until its namespaces are cleaned up. Of all
that a reconcile of any key can do, only the cleanup of that very class removes it, and then
the reconcile ends as finalized (`reconcile_keepsFinalizers`). Everything else leaves the
finalizers of every class as they were, or adds the controller's one behind them.

Calls may fail here, but not after they have taken effect: a lost write of the finalizer's
removal is reported as a failure and has removed it all the same.
-/

namespace ClassReconciler

/-! ## Classes that are spared -/

/-- The effect is no write of a class. -/
def Effect.SparesClasses : Effect → Prop
  | .call (.replaceClass _) | .call (.replaceClassStatus _) => False
  | _ => True

theorem Effect.WorksIn.sparesClasses {n : String} {deletes : ObjectKind → String → Prop}
    {e : Effect} (h : e.WorksIn n deletes) : e.SparesClasses := by
  cases e with
  | warn w => trivial
  | call c => cases c with
    | replaceClass c => exact h
    | replaceClassStatus c => exact h
    | _ => trivial

/-- The update of namespaces writes no class. -/
theorem updateEach_sparesClasses (resources : List Json) (revision : Revision) (tally : Tally)
    (namespaces : List Namespace) :
    (updateEach resources revision tally namespaces).Asks Effect.SparesClasses := by
  refine (updateEach_asks resources revision tally namespaces).mono fun e he => ?_
  obtain ⟨ns, -, hworks⟩ := he
  exact hworks.sparesClasses

theorem Cluster.classes_meet_of_sparesClasses {c : StoreCall}
    (h : Effect.SparesClasses (.call c)) (s : Cluster) (f : Fate) :
    (s.meet c f).2.classes = s.classes := by
  rcases s.meet_cluster c f with hs | hs <;> rw [hs]
  cases c with
  | replaceClass c => exact h.elim
  | replaceClassStatus c => exact h.elim
  | createObject kind o =>
    simp only [Cluster.perform, Cluster.createObject]
    split <;> rfl
  | replaceObject kind o =>
    simp only [Cluster.perform, Cluster.replaceObject]
    split
    · rfl
    · split <;> rfl
  | _ => rfl

section Courses

variable {rule : FateRule} {α : Type}

/-- What writes no class leaves all classes as they are. -/
theorem ensures_classes_eq {a : Action α} (ha : a.Asks Effect.SparesClasses) (s : Cluster) :
    a.Ensures rule.Answers (fun _ _ => True) s fun _ s' => s'.classes = s.classes := by
  refine .of_asks (fun s' : Cluster => s'.classes = s.classes) ha rfl (fun _ _ _ _ => trivial) ?_
  intro s₁ e x s₂ he hs hanswer
  cases e with
  | warn w =>
    obtain rfl : s₂ = s₁ := hanswer
    exact hs
  | call c =>
    obtain ⟨f, -, hm⟩ := hanswer
    rw [show s₂ = (s₁.meet c f).2 by rw [hm], Cluster.classes_meet_of_sparesClasses he, hs]

/-- The reconcile of a namespace writes no class. -/
theorem reconcileNamespace_classes (ns : Namespace) (s : Cluster) :
    (reconcileNamespace ns).run.Ensures rule.Answers (fun _ _ => True) s
      fun _ s' => s'.classes = s.classes := by
  rw [reconcileNamespace]
  split
  · rfl
  refine (ensures_exceptT_bind _ _ s _).2 (ensures_read rfl trivial ?_ fun _ => rfl)
  cases s.classes.find? _ with
  | none =>
    refine (ensures_exceptT_bind _ _ s _).2 ((ensures_liftM _ s _).2 ?_)
    exact (FateRule.ensures_warn _ s _).2 ⟨trivial, rfl⟩
  | some c =>
    simp only
    split
    · rfl
    · refine (ensures_exceptT_bind _ _ s _).2 ((ensures_liftM _ s _).2 ?_)
      refine (ensures_classes_eq ?_ s).imp fun _ _ h => h
      exact (applyFrom_asks _ 0 _).mono fun e he => he.sparesClasses

/-- The reconcile of a class that is missing writes no class. -/
theorem reconcileOrphans_classes (className : String) (s : Cluster) :
    (reconcileOrphans className).run.Ensures rule.Answers (fun _ _ => True) s
      fun _ s' => s'.classes = s.classes := by
  refine (ensures_exceptT_bind _ _ s _).2 (ensures_read rfl trivial ?_ fun _ => rfl)
  refine (ensures_exceptT_bind _ _ s _).2 ((ensures_liftM _ s _).2 ?_)
  exact (ensures_warnEach className _ s fun _ => trivial).imp fun _ s' h => congrArg _ h

/-- The finalizers of a class are as they were, perhaps with the controller's behind them. -/
def NamespaceClass.KeepsFinalizers (c c' : NamespaceClass) : Prop :=
  c'.finalizers = c.finalizers ∨
    c.hasFinalizer = false ∧ c'.finalizers = c.finalizers ++ [classFinalizer]

/-- Every class is still there and keeps its finalizers. -/
def Cluster.KeepsFinalizers (s s' : Cluster) : Prop :=
  ∀ d c, s.classes.find? d = some c →
    ∃ c', s'.classes.find? d = some c' ∧ c.KeepsFinalizers c'

theorem Cluster.keepsFinalizers_of_eq {s s' : Cluster} (h : s'.classes = s.classes) :
    s.KeepsFinalizers s' := by
  intro d c hc
  exact ⟨c, h ▸ hc, Or.inl rfl⟩

/-- Where nothing but one class differs, and that keeps its finalizers, all classes do. -/
theorem Cluster.keepsFinalizers_of_others {s s' : Cluster} {name : String} {c c' : NamespaceClass}
    (hc : s.classes.find? name = some c) (hc' : s'.classes.find? name = some c')
    (hfinalizers : c.KeepsFinalizers c')
    (hothers : ∀ d, d ≠ name → s'.classes.find? d = s.classes.find? d) :
    s.KeepsFinalizers s' := by
  intro d e he
  by_cases hd : d = name
  · obtain rfl : c = e := Option.some.inj (hc.symm.trans (hd ▸ he))
    exact ⟨c', hd ▸ hc', hfinalizers⟩
  · exact ⟨e, (hothers d hd).trans he, Or.inl rfl⟩

/-- The update of a class keeps the finalizers, whatever becomes of its calls. -/
theorem applyClass_keepsFinalizers {s : Cluster} {c : NamespaceClass}
    (hc : s.classes.find? c.nameAny = some c) (active : c.isDeleting = false) :
    (applyClass c).run.Ensures rule.Answers (fun _ _ => True) s
      fun _ s' => s.KeepsFinalizers s' := by
  refine ensures_applyClass hc active trivial (fun _ _ _ => trivial)
    (fun s₁ c₁ hguards e => ?_) ?_
  · exact Cluster.keepsFinalizers_of_others hc hguards.stored hguards.finalizers hguards.others
  intro s₁ c₁ hguards namespaces revision
  have hspares := updateEach_sparesClasses c₁.spec.resources revision
    { retained := revision.deferred } namespaces
  refine (ensures_classes_eq hspares s₁).imp fun tally s₂ hclasses => ?_
  have hc₂ : s₂.classes.find? c₁.nameAny = some c₁ := by
    rw [hclasses, hguards.nameAny, hguards.stored]
  refine (writeRecord_ensures hc₂ _ trivial).imp ?_
  rintro r s₃ ⟨c₃, hstores₃, hfinalizers, -⟩
  rw [hguards.nameAny] at hstores₃
  refine Cluster.keepsFinalizers_of_others hc hstores₃.stored ?_ fun d hd => ?_
  · rw [NamespaceClass.KeepsFinalizers, hfinalizers]
    exact hguards.finalizers
  · rw [hstores₃.others d hd, hclasses, hguards.others d hd]

/-- The cleanup after a class leaves every class alone, or it changes only that class and ends as
finalized. -/
theorem finalizeClass_classes {s : Cluster} {c : NamespaceClass}
    (hc : s.classes.find? c.nameAny = some c) :
    (finalizeClass c).run.Ensures FateRule.effectless.Answers (fun _ _ => True) s fun r s' =>
      s'.classes = s.classes ∨ (∀ d, d ≠ c.nameAny → s'.classes.find? d = s.classes.find? d) ∧
        ∃ cleaned orphaned, r = .ok (.finalized cleaned orphaned) := by
  refine ensures_finalizeClass trivial (fun _ => Or.inl rfl) ?_
  have hspares := (finalizeEach_asks c.nameAny (declaredTemplates c)
    (s.namespacesForClass c.nameAny)).mono fun e ⟨ns, _, he⟩ => he.sparesClasses
  refine (ensures_classes_eq hspares s).imp fun report s₁ hclasses => ?_
  split
  case isFalse => exact Or.inl hclasses
  case isTrue =>
    have hc₁ : s₁.classes.find? c.removeFinalizer.2.nameAny = some c := by
      rw [hclasses, c.nameAny_removeFinalizer, hc]
    have hanswer := Cluster.perform_replaceClass hc₁ c.resourceVersion_removeFinalizer.symm
    refine (ensures_callOrFail _ s₁ _).2 ⟨trivial, fun f hf => ?_⟩
    cases f with
    | refused e => exact Or.inl hclasses
    | lost e => exact (hf trivial).elim
    | served =>
      rw [Cluster.meet, hanswer]
      refine Or.inr ⟨fun d hd => ?_, _, _, rfl⟩
      rw [s₁.find?_replaceClass_of_ne (c.nameAny_removeFinalizer ▸ hd), hclasses]

end Courses

/-! ## Reconciles -/

/-- The class of a name is finalized: it was being deleted and held by the finalizer, and the
reconcile ends as finalized. -/
def Finalizes (r : ReconcileResult) (name d : String) (c : NamespaceClass) : Prop :=
  d = name ∧ c.isDeleting = true ∧ c.hasFinalizer = true ∧
    ∃ cleaned orphaned, r = .ok (.finalized cleaned orphaned)

/-- Every class keeps its finalizers, except that the class of a name may be finalized. -/
def Cluster.KeepsFinalizersBut (s : Cluster) (name : String) (r : ReconcileResult)
    (s' : Cluster) : Prop :=
  ∀ d c, s.classes.find? d = some c →
    (∃ c', s'.classes.find? d = some c' ∧ c.KeepsFinalizers c') ∨ Finalizes r name d c

theorem Cluster.KeepsFinalizers.but {s s' : Cluster} (h : s.KeepsFinalizers s') (name : String)
    (r : ReconcileResult) : s.KeepsFinalizersBut name r s' :=
  fun d c hc => Or.inl (h d c hc)

theorem Cluster.keepsFinalizersBut_of_eq {s s' : Cluster} (h : s'.classes = s.classes)
    (name : String) (r : ReconcileResult) : s.KeepsFinalizersBut name r s' :=
  (Cluster.keepsFinalizers_of_eq h).but name r

/-- What becomes of the classes when the class of a name is reconciled. -/
theorem reconcileClassNamed_keepsFinalizers {s : Cluster} (hs : s.Named) (name : String) :
    (reconcileClassNamed name).run.Ensures FateRule.effectless.Answers (fun _ _ => True) s
      fun r s' => s.KeepsFinalizersBut name r s' := by
  have hsame : ∀ r, s.KeepsFinalizersBut name r s :=
    fun r => Cluster.keepsFinalizersBut_of_eq rfl name r
  refine ensures_reconcileClassNamed hs trivial ?_ ?_ ?_ (hsame _) fun e => hsame _
  · exact (reconcileOrphans_classes name s).imp
      fun r _ h => Cluster.keepsFinalizersBut_of_eq h name r
  · rintro c rfl hc active
    exact (applyClass_keepsFinalizers hc active).imp fun r _ h => h.but _ r
  · rintro c rfl hc deleting held
    refine (finalizeClass_classes hc).imp ?_
    rintro r s' (h | ⟨hothers, hfinalized⟩)
    · exact Cluster.keepsFinalizersBut_of_eq h _ r
    intro d e he
    by_cases hd : d = c.nameAny
    · obtain rfl : c = e := Option.some.inj (hc.symm.trans (hd ▸ he))
      exact Or.inr ⟨hd, deleting, held, hfinalized⟩
    · exact Or.inl ⟨e, (hothers d hd).trans he, Or.inl rfl⟩

/-- Where no call takes effect and fails, a reconcile keeps the finalizers of all classes, except
that it may finalize the class of its key. -/
theorem reconcile_keepsFinalizers {s : Cluster} (hs : s.Named) (key : Key) :
    (reconcile key).run.Ensures FateRule.effectless.Answers (fun _ _ => True) s
      fun r s' => s.KeepsFinalizersBut key.name r s' := by
  have hsame : ∀ r, s.KeepsFinalizersBut key.name r s :=
    fun r => Cluster.keepsFinalizersBut_of_eq rfl key.name r
  refine ensures_reconcile trivial (fun ns _ _ => ?_)
    (fun _ => reconcileClassNamed_keepsFinalizers hs key.name) (hsame _) fun e => hsame _
  exact (reconcileNamespace_classes ns s).imp
    fun r _ h => Cluster.keepsFinalizersBut_of_eq h key.name r

end ClassReconciler
