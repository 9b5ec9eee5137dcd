import ClassReconciler.Text.Digit

/-!
# Timeouts

A timeout is written as parts, each of them a numeral and a unit; signs may stand in front,
plus signs before minus signs. Nothing and zero need no unit.
-/

namespace ClassReconciler

namespace TimeoutText

/-- The micro sign and the Greek letter that looks like it are both taken for the prefix of a
microsecond. -/
def units : List String := ["ns", "us", "\u00b5s", "\u03bcs", "ms", "s", "m", "h"]

def isLetter (c : Char) : Bool := c.isAlpha || c ∈ ['\u00b5', '\u03bc']

/-- The number of a part. A minus sign may stand before a zero. -/
def isAmount : List Char → Bool
  | '-' :: cs => isFixedPoint cs && cs.all (· ∈ ['0', '.'])
  | cs => isFixedPoint (skipPlus cs)

/-- A number, its unit, and what stands behind them. -/
def part? (cs : List Char) : Option (List Char) :=
  let number := cs.takeWhile (!isLetter ·)
  let rest := cs.drop number.length
  let unit := rest.takeWhile isLetter
  if isAmount number ∧ String.ofList unit ∈ units then some (rest.drop unit.length) else none

theorem length_lt_of_part? {cs rest : List Char} (h : part? cs = some rest) :
    rest.length < cs.length := by
  simp only [part?] at h
  split at h
  · rename_i fits
    obtain rfl := Option.some.inj h
    cases hr : cs.drop (cs.takeWhile (!isLetter ·)).length with
    | nil => simp [hr, units] at fits
    | cons c tail =>
      have lengths := congrArg List.length hr
      cases hl : isLetter c with
      | false => simp [hr, hl, units] at fits
      | true =>
        simp only [List.length_drop, List.length_cons] at lengths ⊢
        simp only [List.takeWhile_cons, hl, if_true, List.length_cons]
        omega
  · contradiction

/-- Parts up to the end, or up to a zero that stands there alone. -/
def isParts (cs : List Char) : Bool :=
  if cs = [] ∨ cs = ['0'] then true
  else
    match h : part? cs with
    | none => false
    | some rest =>
      have := length_lt_of_part? h
      isParts rest
termination_by cs.length

/-- The text is a timeout. -/
def isWritten (s : String) : Bool :=
  isParts ((s.toList.dropWhile (· = '+')).dropWhile (· = '-'))

end TimeoutText

end ClassReconciler
