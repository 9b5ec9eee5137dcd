import Mathlib.Data.List.Induction
import ClassReconciler.Proofs.Finalization

/-!
# Changes of the finalizers

What it comes to when the controller's finalizer is added and removed, however often and in
whatever order. A change is idle if the class is already as the change would have it. Any other one
settles the class (`changedBy_eq`): what is left are the finalizers of others and, if it is an
addition, one copy of the controller's behind them. A run therefore leaves the class alone if all
its changes are idle, and else as its last change settles it (`changedEach_eq`). Everything else is
read off these two equations: the finalizers of others stay, no other field changes, and there are
never more copies than at the start, or than one.

The flag of a change decides whether the class is written at all. It is set exactly if the list of
finalizers changes (`changedBy_fst_iff`).
-/

namespace ClassReconciler

/-- A change of the controller's finalizer. -/
inductive FinalizerChange where
  | add
  | remove

namespace FinalizerChange

/-- The finalizer is on the class after the change. -/
def holds : FinalizerChange → Bool
  | .add => true
  | .remove => false

/-- The copies of the finalizer after a change that is not idle. -/
def copies : FinalizerChange → List String
  | .add => [classFinalizer]
  | .remove => []

theorem eq_of_holds_eq :
    ∀ {change change' : FinalizerChange}, change.holds = change'.holds → change = change'
  | .add, .add, _ => rfl
  | .remove, .remove, _ => rfl

end FinalizerChange

namespace NamespaceClass

/-- The class after a change. The flag says whether it was changed. -/
def changedBy (c : NamespaceClass) : FinalizerChange → Bool × NamespaceClass
  | .add => c.addFinalizer
  | .remove => c.removeFinalizer

/-- The class after some changes, one after the other. -/
def changedEach (c : NamespaceClass) (changes : List FinalizerChange) : NamespaceClass :=
  changes.foldl (fun c change => (c.changedBy change).2) c

/-- The class as a change leaves it that is not idle. -/
def settledBy (c : NamespaceClass) (change : FinalizerChange) : NamespaceClass :=
  c.withFinalizers (c.otherFinalizers ++ change.copies)

variable (c : NamespaceClass) (change : FinalizerChange)

theorem hasFinalizer_iff : c.hasFinalizer = true ↔ classFinalizer ∈ c.finalizers :=
  List.contains_iff_mem

theorem not_mem_otherFinalizers : classFinalizer ∉ c.otherFinalizers := by
  simp [otherFinalizers]

theorem otherFinalizers_of_not_hasFinalizer {c : NamespaceClass} (h : c.hasFinalizer = false) :
    c.otherFinalizers = c.finalizers := by
  refine List.filter_eq_self.2 fun f hf => ?_
  have hne : f ≠ classFinalizer := by
    rintro rfl
    exact Bool.false_ne_true (h.symm.trans (c.hasFinalizer_iff.2 hf))
  simpa using hne

/-! ## Settled classes -/

theorem finalizers_settledBy :
    (c.settledBy change).finalizers = c.otherFinalizers ++ change.copies := rfl

theorem otherFinalizers_settledBy : (c.settledBy change).otherFinalizers = c.otherFinalizers := by
  rw [otherFinalizers, finalizers_settledBy, List.filter_append]
  cases change <;> simp [otherFinalizers, FinalizerChange.copies]

theorem count_settledBy :
    (c.settledBy change).finalizers.count classFinalizer = change.copies.length := by
  rw [finalizers_settledBy, List.count_append, List.count_eq_zero.2 c.not_mem_otherFinalizers]
  cases change <;> simp [FinalizerChange.copies]

theorem hasFinalizer_settledBy : (c.settledBy change).hasFinalizer = change.holds := by
  rw [Bool.eq_iff_iff, hasFinalizer_iff, ← List.count_pos_iff, count_settledBy]
  cases change <;> simp [FinalizerChange.copies, FinalizerChange.holds]

/-- The last change to settle a class decides. -/
theorem settledBy_settledBy (change' : FinalizerChange) :
    (c.settledBy change).settledBy change' = c.settledBy change' := by
  rw [settledBy, otherFinalizers_settledBy]
  rfl

/-! ## One change -/

/-- A change leaves the class alone if it is idle, and else settles it. -/
theorem changedBy_eq : c.changedBy change =
    if c.hasFinalizer = change.holds then (false, c) else (true, c.settledBy change) := by
  cases change with
  | add =>
    cases h : c.hasFinalizer with
    | true => exact addFinalizer_of_hasFinalizer h
    | false =>
      refine (addFinalizer_of_not_hasFinalizer h).trans ?_
      rw [← otherFinalizers_of_not_hasFinalizer h]
      rfl
  | remove =>
    cases h : c.hasFinalizer with
    | true =>
      refine (removeFinalizer_of_hasFinalizer h).trans ?_
      rw [if_neg (by decide), settledBy, FinalizerChange.copies, List.append_nil]
      rfl
    | false => exact removeFinalizer_of_not_hasFinalizer h

theorem hasFinalizer_changedBy : (c.changedBy change).2.hasFinalizer = change.holds := by
  cases change with
  | add => exact c.hasFinalizer_addFinalizer
  | remove => exact c.hasFinalizer_removeFinalizer

/-- A change that is made again is idle. -/
theorem changedBy_changedBy :
    (c.changedBy change).2.changedBy change = (false, (c.changedBy change).2) := by
  rw [changedBy_eq (c.changedBy change).2, if_pos (c.hasFinalizer_changedBy change)]

/-- The flag is set exactly if the list of finalizers changes. -/
theorem changedBy_fst_iff :
    (c.changedBy change).1 = true ↔ (c.changedBy change).2.finalizers ≠ c.finalizers := by
  have hholds := c.hasFinalizer_changedBy change
  rw [changedBy_eq] at hholds ⊢
  split
  case isTrue => simp
  case isFalse h =>
    rw [if_neg h] at hholds
    refine iff_of_true rfl fun hsame => h ?_
    rw [← hholds, hasFinalizer, hasFinalizer, hsame]

/-- The flag is set exactly if the class changes. -/
theorem changedBy_fst_iff_ne : (c.changedBy change).1 = true ↔ (c.changedBy change).2 ≠ c := by
  refine ⟨fun h hsame => (c.changedBy_fst_iff change).1 h (by rw [hsame]), fun h => ?_⟩
  rw [changedBy_eq] at h ⊢
  split
  case isTrue hidle => exact absurd (by rw [if_pos hidle]) h
  case isFalse => rfl

/-- A removal after an addition that was not idle gives back the list, an unset one as empty. -/
theorem removeFinalizer_addFinalizer (h : c.addFinalizer.1 = true) :
    c.addFinalizer.2.removeFinalizer = (true, c.withFinalizers c.finalizers) := by
  have hlacks : c.hasFinalizer = false := by
    rw [← Bool.not_eq_true]
    intro hheld
    rw [addFinalizer_of_hasFinalizer hheld] at h
    cases h
  have hadded : c.addFinalizer = (true, c.settledBy .add) :=
    (c.changedBy_eq .add).trans (if_neg (by simp [hlacks, FinalizerChange.holds]))
  have hremoved : (c.settledBy .add).removeFinalizer = (true, c.settledBy .remove) := by
    refine ((c.settledBy .add).changedBy_eq .remove).trans ?_
    rw [hasFinalizer_settledBy, if_neg (by decide), settledBy_settledBy]
  rw [hadded, hremoved, settledBy, otherFinalizers_of_not_hasFinalizer hlacks,
    FinalizerChange.copies, List.append_nil]

/-! ## Runs of changes -/

theorem changedEach_append_singleton (past : List FinalizerChange) :
    c.changedEach (past ++ [change]) = ((c.changedEach past).changedBy change).2 := by
  rw [changedEach, List.foldl_append]
  rfl

/-- The next change settles a class that is settled anew, also where it is idle. -/
theorem changedBy_settledBy (change' : FinalizerChange) :
    ((c.settledBy change).changedBy change').2 = c.settledBy change' := by
  rw [changedBy_eq, hasFinalizer_settledBy]
  split
  case isTrue h => rw [FinalizerChange.eq_of_holds_eq h]
  case isFalse => exact c.settledBy_settledBy change change'

/-- A run leaves the class alone if all changes are idle, and else as the last one settles it. -/
theorem changedEach_eq (changes : List FinalizerChange) : c.changedEach changes =
    if ∀ change ∈ changes, c.hasFinalizer = change.holds then c
    else changes.getLast?.elim c c.settledBy := by
  induction changes using List.reverseRecOn with
  | nil => rfl
  | append_singleton past last ih =>
    rw [changedEach_append_singleton, ih, List.getLast?_concat, Option.elim_some]
    by_cases hpast : ∀ change ∈ past, c.hasFinalizer = change.holds
    · -- the last change is the first that may not be idle
      rw [if_pos hpast, changedBy_eq]
      by_cases hlast : c.hasFinalizer = last.holds
      · rw [if_pos hlast, if_pos fun change h => ?_]
        rcases List.mem_append.1 h with h | h
        · exact hpast change h
        · rw [List.mem_singleton.1 h, hlast]
      · rw [if_neg hlast, if_neg fun h => hlast (h last (by simp))]
    · -- the class is settled already, and each change settles it anew
      have hne : past ≠ [] := by
        rintro rfl
        exact hpast (by simp)
      rw [if_neg hpast, if_neg fun h => hpast fun change hc => h change (by simp [hc]),
        List.getLast?_eq_some_getLast hne, Option.elim_some, changedBy_settledBy]

theorem changedEach_cases (changes : List FinalizerChange) :
    c.changedEach changes = c ∨ ∃ change, c.changedEach changes = c.settledBy change := by
  rw [changedEach_eq]
  split
  · exact Or.inl rfl
  · cases changes.getLast? with
    | none => exact Or.inl rfl
    | some change => exact Or.inr ⟨change, rfl⟩

theorem otherFinalizers_changedEach (changes : List FinalizerChange) :
    (c.changedEach changes).otherFinalizers = c.otherFinalizers := by
  obtain h | ⟨change, h⟩ := c.changedEach_cases changes
  · rw [h]
  · rw [h, otherFinalizers_settledBy]

/-- No other field of the class changes. -/
theorem exists_changedEach_eq (changes : List FinalizerChange) :
    ∃ fs, c.changedEach changes = { c with metadata := { c.metadata with finalizers := fs } } := by
  obtain h | ⟨change, h⟩ := c.changedEach_cases changes
  · exact ⟨c.metadata.finalizers, h⟩
  · exact ⟨some (c.otherFinalizers ++ change.copies), h⟩

theorem count_changedEach_le (changes : List FinalizerChange) :
    (c.changedEach changes).finalizers.count classFinalizer ≤
      max 1 (c.finalizers.count classFinalizer) := by
  obtain h | ⟨change, h⟩ := c.changedEach_cases changes
  · rw [h]
    exact Nat.le_max_right _ _
  · rw [h, count_settledBy]
    refine Nat.le_trans ?_ (Nat.le_max_left _ _)
    cases change <;> decide

end NamespaceClass

/-- Take any class and any sequence of additions and removals of the controller's finalizer. They
leave the finalizers of others in their order and number, all other fields of the class, and no
more copies than there were, or than one. At any point of the sequence, an addition leaves the
finalizer on the class and a removal leaves no copy of it; the flag of either says whether the
list, and with it the class, has changed; to make it again changes nothing; and a removal after an
addition whose flag is set gives back the list from before it, unset read as empty. -/
theorem changes_spare_other_finalizers (c : NamespaceClass) (changes : List FinalizerChange) :
    let after := c.changedEach changes
    after.otherFinalizers = c.otherFinalizers ∧
    (∃ fs, after = { c with metadata := { c.metadata with finalizers := fs } }) ∧
    after.finalizers.count classFinalizer ≤ max 1 (c.finalizers.count classFinalizer) ∧
    after.addFinalizer.2.hasFinalizer = true ∧
    after.removeFinalizer.2.hasFinalizer = false ∧
    classFinalizer ∉ after.removeFinalizer.2.finalizers ∧
    (∀ change, ((after.changedBy change).1 = true ↔
        (after.changedBy change).2.finalizers ≠ after.finalizers) ∧
      ((after.changedBy change).1 = true ↔ (after.changedBy change).2 ≠ after) ∧
      (after.changedBy change).2.changedBy change = (false, (after.changedBy change).2)) ∧
    (after.addFinalizer.1 = true →
      after.addFinalizer.2.removeFinalizer = (true, after.withFinalizers after.finalizers)) := by
  intro after
  have hremoved := after.hasFinalizer_removeFinalizer
  refine ⟨c.otherFinalizers_changedEach changes, c.exists_changedEach_eq changes,
    c.count_changedEach_le changes, after.hasFinalizer_addFinalizer, hremoved, fun hmem => ?_,
    fun change => ⟨after.changedBy_fst_iff change, after.changedBy_fst_iff_ne change,
      after.changedBy_changedBy change⟩, after.removeFinalizer_addFinalizer⟩
  exact Bool.false_ne_true (hremoved.symm.trans ((NamespaceClass.hasFinalizer_iff _).2 hmem))

/-- Two copies between the finalizers of others are removed, and then a third one is added behind
them and removed. -/
theorem changes_spare_other_finalizers_sample :
    let c : NamespaceClass := ({} : NamespaceClass).withFinalizers
      ["example.com/a", classFinalizer, "example.com/b", classFinalizer, "example.com/a"]
    let after := c.changedEach [.add, .remove, .remove]
    after.addFinalizer.1 = true ∧
      after.otherFinalizers = ["example.com/a", "example.com/b", "example.com/a"] ∧
      after.addFinalizer.2.finalizers =
        ["example.com/a", "example.com/b", "example.com/a", classFinalizer] ∧
      after.addFinalizer.2.removeFinalizer = (true, after.withFinalizers
        ["example.com/a", "example.com/b", "example.com/a"]) := by
  intro c after
  have hadded : after.addFinalizer.1 = true := by decide +kernel
  obtain ⟨hothers, -, -, -, -, -, -, hrestores⟩ :=
    changes_spare_other_finalizers c [.add, .remove, .remove]
  exact ⟨hadded, hothers.trans (by decide +kernel), by decide +kernel,
    (hrestores hadded).trans (by rfl)⟩

end ClassReconciler
