import ClassReconciler.Proofs.ClassWrites

/-!
# Rules for the reconciler

What a function of the reconciler ensures, from what its parts ensure. A key is looked up
first, and stands for a namespace or for a class (`ensures_reconcile`). A class that is stored
is updated, cleaned up after or left alone (`ensures_reconcileClassNamed`). An update guards the
class, works in its namespaces and writes the record (`ensures_applyClass`); the cleanup after
a class works in its namespaces and then replaces the class (`ensures_finalizeClass`).
-/

namespace ClassReconciler

variable {rule : FateRule} {asks : Cluster → Effect → Prop} {s : Cluster}
  {post : ReconcileResult → Cluster → Prop}

/-! ## Keys -/

theorem reconcile_ofClass (name : String) :
    reconcile (.ofClass name) = reconcileClassNamed name := if_pos rfl

/-- A key that stands for a namespace has it reconciled. -/
theorem reconcile_of_namespace {key : Key} {ns : Namespace} (hkind : key.kind ≠ some .ofClass)
    (hns : s.namespaces.find? key.name = some ns)
    (hasks : asks s (.call (.getNamespace key.name)))
    (hok : (reconcileNamespace ns).run.Ensures rule.Answers asks s post)
    (herror : ∀ e, post (.error (.store e)) s) :
    (reconcile key).run.Ensures rule.Answers asks s post := by
  rw [reconcile, if_neg hkind]
  refine (ensures_exceptT_bind _ _ s _).2 (ensures_read rfl hasks ?_ herror)
  simp only [hns]
  exact hok

/-- The key stands for a class: it says so, or it does not say and no namespace has its name. -/
def Key.NamesClass (key : Key) (s : Cluster) : Prop :=
  key.kind = some .ofClass ∨ key.kind = none ∧ s.namespaces.find? key.name = none

theorem Key.NamesClass.of_missing {key : Key} (hclass : key.kind ≠ some .ofClass)
    (hnamespace : key.kind ≠ some .inNamespace) (hns : s.namespaces.find? key.name = none) :
    key.NamesClass s := by
  refine Or.inr ⟨?_, hns⟩
  cases h : key.kind with
  | none => rfl
  | some kind => cases kind with
    | inNamespace => exact absurd h hnamespace
    | ofClass => exact absurd h hclass

/-- The namespace that a key stands for; none where it stands for a class. -/
def Key.namespace? (key : Key) (s : Cluster) : Option Namespace :=
  if key.kind = some .ofClass then none else s.namespaces.find? key.name

theorem Key.namespace?_of_stored {key : Key} {ns : Namespace} (hkind : key.kind ≠ some .ofClass)
    (hns : s.namespaces.find? key.name = some ns) : key.namespace? s = some ns := by
  rw [namespace?, if_neg hkind, hns]

theorem Key.NamesClass.namespace? {key : Key} (h : key.NamesClass s) :
    key.namespace? s = none := by
  rcases h with hkind | ⟨hkind, hns⟩
  · rw [Key.namespace?, if_pos hkind]
  · rw [Key.namespace?, hkind, if_neg nofun, hns]

/-- The name of the class that the reconcile of a key is about. -/
def Key.className? (key : Key) (s : Cluster) : Option String :=
  match key.namespace? s with
  | some ns => ns.className?
  | none => if key.kind = some .inNamespace then none else some key.name

theorem Key.className?_of_stored {key : Key} {ns : Namespace} (hkind : key.kind ≠ some .ofClass)
    (hns : s.namespaces.find? key.name = some ns) : key.className? s = ns.className? := by
  rw [className?, namespace?_of_stored hkind hns]

theorem Key.NamesClass.className? {key : Key} (h : key.NamesClass s) :
    key.className? s = some key.name := by
  have hkind : key.kind ≠ some .inNamespace := by
    rcases h with hkind | ⟨hkind, -⟩ <;> rw [hkind] <;> nofun
  simp only [Key.className?, h.namespace?, if_neg hkind]

/-- A key has the namespace of its name reconciled or, if there is none or the key stands for a
class, the class of its name, unless the key has to stand for a namespace. -/
theorem ensures_reconcile {key : Key} (hasks : asks s (.call (.getNamespace key.name)))
    (hnamespace : ∀ ns, key.kind ≠ some .ofClass → s.namespaces.find? key.name = some ns →
      (reconcileNamespace ns).run.Ensures rule.Answers asks s post)
    (hclass : key.NamesClass s →
      (reconcileClassNamed key.name).run.Ensures rule.Answers asks s post)
    (hgone : post (.ok .gone) s) (herror : ∀ e, post (.error (.store e)) s) :
    (reconcile key).run.Ensures rule.Answers asks s post := by
  by_cases hkind : key.kind = some .ofClass
  · rw [reconcile, if_pos hkind]
    exact hclass (Or.inl hkind)
  · cases hns : s.namespaces.find? key.name with
    | some ns =>
      exact reconcile_of_namespace hkind hns hasks (hnamespace ns hkind hns) herror
    | none =>
      rw [reconcile, if_neg hkind]
      refine (ensures_exceptT_bind _ _ s _).2 (ensures_read rfl hasks ?_ herror)
      simp only [hns]
      split
      case isTrue => exact hgone
      case isFalse hnamespace => exact hclass (.of_missing hkind hnamespace hns)

/-! ## Classes -/

/-- Warnings change nothing. -/
theorem ensures_warnEach (className : String) (namespaces : List Namespace) (s : Cluster)
    (hasks : ∀ w, asks s (.warn w)) :
    (warnEach className namespaces).Ensures rule.Answers asks s fun _ s' => s' = s := by
  induction namespaces with
  | nil => rfl
  | cons ns rest ih =>
    exact (Dialogue.ensures_bind _ _ s _).2
      ((FateRule.ensures_warn _ s _).2 ⟨hasks _, ih⟩)

/-- The class that is stored under the name is reconciled. -/
theorem reconcileClassNamed_of_stored {name : String} {c : NamespaceClass}
    (hc : s.classes.find? name = some c) (hasks : asks s (.call (.getClass name)))
    (hok : (reconcileClass c).run.Ensures rule.Answers asks s post)
    (herror : ∀ e, post (.error (.store e)) s) :
    (reconcileClassNamed name).run.Ensures rule.Answers asks s post := by
  have hread : s.perform (.getClass name) = (.ok (some c), s) := by
    rw [Cluster.perform, hc]
  exact (ensures_exceptT_bind _ _ s _).2 (ensures_read hread hasks hok herror)

/-- A class is updated, cleaned up after or left alone, and the namespaces of a missing one are
warned. -/
theorem ensures_reconcileClassNamed (hs : s.Named) {name : String}
    (hasks : asks s (.call (.getClass name)))
    (hmissing : (reconcileOrphans name).run.Ensures rule.Answers asks s post)
    (hactive : ∀ c : NamespaceClass, c.nameAny = name → s.classes.find? c.nameAny = some c →
      c.isDeleting = false → (applyClass c).run.Ensures rule.Answers asks s post)
    (hheld : ∀ c : NamespaceClass, c.nameAny = name → s.classes.find? c.nameAny = some c →
      c.isDeleting = true → c.hasFinalizer = true →
      (finalizeClass c).run.Ensures rule.Answers asks s post)
    (hdeleted : post (.ok .deleted) s) (herror : ∀ e, post (.error (.store e)) s) :
    (reconcileClassNamed name).run.Ensures rule.Answers asks s post := by
  cases hc : s.classes.find? name with
  | none =>
    have hread : s.perform (.getClass name) = (.ok none, s) := by
      rw [Cluster.perform, hc]
    exact (ensures_exceptT_bind _ _ s _).2 (ensures_read hread hasks hmissing herror)
  | some c =>
    refine reconcileClassNamed_of_stored hc hasks ?_ herror
    have hname : c.nameAny = name := hs.classes hc
    rw [← hname] at hc
    rw [reconcileClass]
    split
    case isTrue active => exact hactive c hname hc (by simpa using active)
    case isFalse deleting =>
      split
      case isTrue held => exact hheld c hname hc (by simpa using deleting) held
      case isFalse => exact hdeleted

/-- An update guards the class, updates its namespaces and then writes the record. It may stop
wherever a call fails. -/
theorem ensures_applyClass {c : NamespaceClass} (hc : s.classes.find? c.nameAny = some c)
    (active : c.isDeleting = false) (hreplace : asks s (.call (.replaceClass c.addFinalizer.2)))
    (hlist : ∀ s₁ c₁, s.Guards s₁ c c₁ → asks s₁ (.call (.namespacesForClass c.nameAny)))
    (hstopped : ∀ s₁ c₁, s.Guards s₁ c c₁ → ∀ e, post (.error e) s₁)
    (hupdated : ∀ s₁ c₁, s.Guards s₁ c c₁ →
      let namespaces := s.namespacesForClass c.nameAny
      let revision := Revision.of c₁
      (updateEach c₁.spec.resources revision { retained := revision.deferred }
        namespaces).Ensures rule.Answers asks s₁ fun tally s₂ =>
          (writeRecord c₁ (revision.record c₁.spec.resources tally.retained)).run.Ensures
            rule.Answers asks s₂ fun r s₃ =>
              post (r.map fun _ => .applied namespaces.length tally.failed tally.pruned) s₃) :
    (applyClass c).run.Ensures rule.Answers asks s post := by
  refine (ensures_exceptT_bind _ _ s _).2 ((ensureFinalizer_ensures hc active hreplace).imp ?_)
  rintro (e | c₁) s₁ ⟨c', hguards, hanswer⟩
  · exact hstopped s₁ c' hguards e
  obtain rfl := hanswer c₁ rfl
  refine (ensures_exceptT_bind _ _ s₁ _).2 (ensures_read rfl (hlist s₁ c₁ hguards) ?_
    fun e => hstopped s₁ c₁ hguards (.store e))
  rw [hguards.namespacesForClass]
  refine (ensures_exceptT_bind _ _ s₁ _).2 ((ensures_liftM _ s₁ _).2 ?_)
  refine (hupdated s₁ c₁ hguards).imp fun tally s₂ hrecord => ?_
  refine (ensures_exceptT_bind _ _ s₂ _).2 (hrecord.imp fun r s₃ hpost => ?_)
  cases r with
  | ok _ => exact hpost
  | error _ => exact hpost

/-- The cleanup after a class cleans its namespaces up and, where that is complete, replaces the
class by one without the finalizer. -/
theorem ensures_finalizeClass {c : NamespaceClass}
    (hlist : asks s (.call (.namespacesForClass c.nameAny)))
    (herror : ∀ e, post (.error (.store e)) s)
    (hcleaned : (finalizeNamespaces c (s.namespacesForClass c.nameAny)).Ensures rule.Answers asks s
      fun report s₁ =>
        if report.isComplete then
          (callOrFail (.replaceClass c.removeFinalizer.2)).run.Ensures rule.Answers asks s₁
            fun r s₂ => post
              (r.map fun _ => .finalized report.cleaned.length report.orphaned.length) s₂
        else post (.error (.cleanup c.nameAny report.failed.length)) s₁) :
    (finalizeClass c).run.Ensures rule.Answers asks s post := by
  refine (ensures_exceptT_bind _ _ s _).2 (ensures_read rfl hlist ?_ herror)
  refine (ensures_exceptT_bind _ _ s _).2 ((ensures_liftM _ s _).2 ?_)
  refine hcleaned.imp fun report s₁ h => ?_
  cases hcomplete : report.isComplete with
  | false =>
    simp only [hcomplete, Bool.false_eq_true, if_false] at h ⊢
    exact h
  | true =>
    simp only [hcomplete, if_true] at h ⊢
    refine (ensures_exceptT_bind _ _ s₁ _).2 (h.imp fun r s₂ hpost => ?_)
    cases r with
    | ok _ => exact hpost
    | error _ => exact hpost

end ClassReconciler
