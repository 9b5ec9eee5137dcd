import ClassReconciler.Text.Blank
import ClassReconciler.Text.Digit
import ClassReconciler.Time.Instant

/-!
# Reading instants

The form is that of RFC 3339, read generously: blanks may stand before every number and
separator, a space or a small `t` may stand for the `T`, the hyphen of the offset may be a
minus sign, and `UTC` may stand for `Z`. `Instant.read` gives the moment or the first thing
that is wrong, from left to right; the ranges of the single numbers are part of it, while the
day of the month is checked when all has been read.
-/

namespace ClassReconciler

/-- What is wrong with the text of an instant. -/
inductive TimeError where
  | tooShort
  | invalid
  | outOfRange
  | trailing
  | impossible
deriving DecidableEq

def TimeError.message : TimeError → String
  | .tooShort => "premature end of input"
  | .invalid => "input contains invalid characters"
  | .outOfRange => "input is out of range"
  | .trailing => "trailing input"
  | .impossible => "no possible date and time matching input"

namespace Instant

/-- Reads something from the front of a text and leaves the rest of it. -/
abbrev Reading := StateT (List Char) (Except TimeError)

/-- At least one decimal digit, at most `width` of them where there is a width. -/
def readNumber (width : Option Nat) : Reading Nat := do
  let cs ← get
  match cs with
  | [] => throw .tooShort
  | c :: _ =>
    if !c.isDigit then throw .invalid
    let digits := cs.takeWhile Char.isDigit
    let digits := digits.take (width.getD digits.length)
    let n := digitsValue digits
    if Int64.maxValue.toInt < n then throw .outOfRange
    set (cs.drop digits.length)
    pure n

def skipBlank : Reading Unit := modify skipBlanks

/-- A number of at most two digits in a range, after blanks. -/
def readPart (least most : Nat) : Reading Nat := do
  skipBlank
  let n ← readNumber (some 2)
  if least ≤ n ∧ n ≤ most then pure n else throw .outOfRange

/-- A year: four digits, or a sign and any number of them. -/
def readYear : Reading Int := do
  skipBlank
  let year : Int ←
    match ← get with
    | '-' :: cs => do
      set cs
      let n ← readNumber none
      pure (-(n : Int))
    | '+' :: cs => do
      set cs
      let n ← readNumber none
      pure (n : Int)
    | _ => do
      let n ← readNumber (some 4)
      pure (n : Int)
  if Int32.minValue.toInt ≤ year ∧ year ≤ Int32.maxValue.toInt then pure year else throw .outOfRange

/-- One character out of a list. -/
def readOneOf (marks : List Char) : Reading Unit := do
  match ← get with
  | [] => throw .tooShort
  | c :: rest => if c ∈ marks then set rest else throw .invalid

/-- One given character, after blanks. -/
def readMark (mark : Char) : Reading Unit := do
  skipBlank
  readOneOf [mark]

/-- The nanoseconds of a fraction, which may be missing; digits beyond the ninth are passed
over. -/
def readFraction : Reading Nat := do
  match ← get with
  | '.' :: cs => do
    set cs
    let n ← readNumber (some 9)
    let width := min 9 (cs.takeWhile Char.isDigit).length
    modify (·.dropWhile Char.isDigit)
    pure (n * Nat.pow 10 (9 - width))
  | _ => pure 0

/-- Exactly two decimal digits. A single character is too short a text only where it is one
byte long. -/
def readTwoDigits (most : Nat) : Reading Nat := do
  match ← get with
  | [] => throw .tooShort
  | [c] => throw (if 1 < c.utf8Size then .invalid else .tooShort)
  | c :: d :: rest =>
    if !c.isDigit ∨ !d.isDigit then throw .invalid
    let n := 10 * (c.toNat - '0'.toNat) + (d.toNat - '0'.toNat)
    if most < n then throw .outOfRange
    set rest
    pure n

/-- The minutes that local time is ahead of UTC. -/
def readOffset : Reading Int := do
  match ← get with
  | 'Z' :: rest | 'z' :: rest => do
    set rest
    pure 0
  | [] => throw .tooShort
  | sign :: rest =>
    if sign ∉ ['+', '-', '\u2212'] then throw .invalid
    set rest
    let hours ← readTwoDigits 99
    modify (·.dropWhile fun c => c = ':' || isBlank c)
    let minutes ← readTwoDigits 59
    let ahead : Int := hours * 60 + minutes
    pure (if sign = '+' then ahead else -ahead)

/-- The offset, or the letters `UTC`, in either case. -/
def readZone : Reading Int := do
  match ← get with
  | u :: t :: c :: rest =>
    if [u, t, c].map Char.toUpper = ['U', 'T', 'C'] then
      set rest
      pure 0
    else readOffset
  | _ => readOffset

/-- The date, the time of day with its nanoseconds, and the offset. -/
def readAll : Reading Instant := do
  let year ← readYear
  readMark '-'
  let month ← readPart 1 12
  readMark '-'
  let day ← readPart 1 31
  readOneOf ['t', 'T', ' ']
  let hour ← readPart 0 23
  readMark ':'
  let minute ← readPart 0 59
  readMark ':'
  let second ← readPart 0 60
  let nanos ← readFraction
  skipBlank
  let offset ← readZone
  skipBlank
  if !(← get).isEmpty then throw .trailing
  let some date := Date.ofParts? year month day | throw .outOfRange
  if 1440 ≤ offset.natAbs then throw .outOfRange
  let (second, nanos) := if second = 60 then (59, 1000000000 + nanos) else (second, nanos)
  let some t := ofLocal? date hour minute second nanos offset | throw .impossible
  pure t

/-- The moment that a text writes. -/
def read (text : String) : Except TimeError Instant := readAll.run' text.toList

end Instant

end ClassReconciler
