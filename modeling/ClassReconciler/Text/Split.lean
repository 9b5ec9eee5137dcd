/-!
# Splitting text

`splitFirst c s` cuts a text at the first place where a character stands, `splitAll c s` at
all of them. The parts hold no such character (`not_mem_of_mem_splitAll`), and with it between
them they are the text again (`intercalate_splitAll`).
-/

namespace ClassReconciler

/-- What stands before and after the first `mark`, or none where there is no mark. -/
def splitFirst (mark : Char) : List Char → Option (List Char × List Char)
  | [] => none
  | c :: rest =>
    if c = mark then some ([], rest)
    else (splitFirst mark rest).map fun (before, after) => (c :: before, after)

theorem splitFirst_eq_some {mark : Char} {cs before after : List Char} :
    splitFirst mark cs = some (before, after) ↔ cs = before ++ mark :: after ∧ mark ∉ before := by
  induction cs generalizing before with
  | nil => simp [splitFirst]
  | cons c rest ih =>
    by_cases hc : c = mark
    · subst hc
      cases before with
      | nil => simp [splitFirst]
      | cons b before => simp +contextual [splitFirst, eq_comm]
    · cases before with
      | nil => simp [splitFirst, hc]
      | cons b before => simp [splitFirst, hc, ih]; grind

theorem splitFirst_eq_none {mark : Char} {cs : List Char} :
    splitFirst mark cs = none ↔ mark ∉ cs := by
  induction cs with
  | nil => simp [splitFirst]
  | cons c rest ih =>
    by_cases hc : c = mark
    · simp [splitFirst, hc]
    · simp [splitFirst, hc, ih, Ne.symm hc]

/-- The parts of a text between the marks in it. -/
def splitAll (mark : Char) : List Char → List (List Char)
  | [] => [[]]
  | c :: rest =>
    if c = mark then [] :: splitAll mark rest
    else
      match splitAll mark rest with
      | [] => [[c]]
      | part :: parts => (c :: part) :: parts

theorem splitAll_ne_nil (mark : Char) (cs : List Char) : splitAll mark cs ≠ [] := by
  cases cs with
  | nil => simp [splitAll]
  | cons c rest =>
    unfold splitAll
    split
    · simp
    · split <;> simp

/-- The parts with the mark between them are the text. -/
theorem intercalate_splitAll (mark : Char) (cs : List Char) :
    [mark].intercalate (splitAll mark cs) = cs := by
  induction cs with
  | nil => rfl
  | cons c rest ih =>
    cases hp : splitAll mark rest with
    | nil => exact absurd hp (splitAll_ne_nil mark rest)
    | cons part parts =>
      rw [hp] at ih
      by_cases hc : c = mark
      · simp only [splitAll, hc, if_true, hp]
        rw [← ih]
        simp [List.intercalate]
      · simp only [splitAll, hc, if_false, hp]
        rw [← ih]
        cases parts <;> simp [List.intercalate]

/-- No part holds the mark. -/
theorem not_mem_of_mem_splitAll {mark : Char} {cs part : List Char} (h : part ∈ splitAll mark cs) :
    mark ∉ part := by
  induction cs generalizing part with
  | nil => simp_all [splitAll]
  | cons c rest ih =>
    by_cases hc : c = mark
    · rcases List.mem_cons.1 (by simpa [splitAll, hc] using h) with rfl | h
      · simp
      · exact ih h
    · cases hp : splitAll mark rest with
      | nil => simp_all [splitAll, eq_comm]
      | cons first others =>
        rw [hp] at ih
        rcases List.mem_cons.1 (by simpa [splitAll, hc, hp] using h) with rfl | h
        · simp [Ne.symm hc, ih]
        · exact ih (List.mem_cons_of_mem _ h)

end ClassReconciler
