import ClassReconciler.Decimal.Binary64
import ClassReconciler.Text.Digit

/-!
# Numerals

The floating point number that a numeral with a fraction, an exponent or many digits stands
for. Of its digits only those count that fit into 64 bits. Their number is rounded, then
multiplied or divided by a rounded power of ten, and the result is rounded again, so that it
need not be the number nearest to the numeral.

A whole number of 64 bits is taken as it is (`ofWhole_of_lt`).
-/

namespace ClassReconciler

/-- A numeral `significand · 10 ^ exponent`. -/
structure Numeral where
  significand : Nat
  exponent : Int
  significand_lt : significand < UInt64.size

namespace Numeral

def zero : Numeral := ⟨0, 0, by decide⟩

/-! ## Digits -/

/-- The significand with one more digit. -/
def extended (x : Numeral) (digit : Char) : Nat := 10 * x.significand + (digit.toNat - '0'.toNat)

/-- Digits before the point. From the first one on that does not fit they are taken for
zeros. -/
def appendWhole (x : Numeral) : List Char → Numeral
  | [] => x
  | c :: cs =>
    if h : x.extended c < UInt64.size then appendWhole ⟨x.extended c, x.exponent, h⟩ cs
    else { x with exponent := x.exponent + (cs.length + 1) }

/-- Digits behind the point, up to the first one that does not fit. -/
def appendFraction (x : Numeral) : List Char → Numeral
  | [] => x
  | c :: cs =>
    if h : x.extended c < UInt64.size then appendFraction ⟨x.extended c, x.exponent - 1, h⟩ cs
    else x

def ofWhole (digits : List Char) : Numeral := zero.appendWhole digits

/-- The numeral with an exponent behind it. -/
def scale (x : Numeral) (exponent : Int) : Numeral := { x with exponent := x.exponent + exponent }

theorem le_ofDigitChars (digits : List Char) (n : Nat) : n ≤ Nat.ofDigitChars 10 digits n := by
  induction digits generalizing n with
  | nil => simp
  | cons c cs ih =>
    rw [Nat.ofDigitChars_cons]
    have := ih (10 * n + (c.toNat - '0'.toNat))
    omega

theorem appendWhole_of_lt {digits : List Char} {x : Numeral}
    (h : Nat.ofDigitChars 10 digits x.significand < UInt64.size) :
    (x.appendWhole digits).significand = Nat.ofDigitChars 10 digits x.significand ∧
      (x.appendWhole digits).exponent = x.exponent := by
  induction digits generalizing x with
  | nil => simp [appendWhole]
  | cons c cs ih =>
    rw [Nat.ofDigitChars_cons] at h ⊢
    have fits : x.extended c < UInt64.size := Nat.lt_of_le_of_lt (le_ofDigitChars cs _) h
    rw [appendWhole, dif_pos fits]
    exact ih h

theorem ofWhole_of_lt {digits : List Char} (h : digitsValue digits < UInt64.size) :
    (ofWhole digits).significand = digitsValue digits ∧ (ofWhole digits).exponent = 0 :=
  appendWhole_of_lt h

/-! ## Values -/

/-- The exponent of the greatest power of ten below the largest number. -/
def maxExponent : Nat := 308

/-- The nearest number to a power of ten that is not beyond the largest number. -/
def powerOfTen (k : Nat) : Binary64 := Binary64.ofNat (Nat.pow 10 k)

/-- The number divided by a power of ten, in steps with powers that are not beyond the largest
number. What two steps do not reach is zero. -/
def divideByPower? (f : Binary64) (k : Nat) : Option Binary64 :=
  if k ≤ maxExponent then f.div? (powerOfTen k)
  else if k ≤ 2 * maxExponent then do
    let f ← f.div? (powerOfTen maxExponent)
    f.div? (powerOfTen (k - maxExponent))
  else some (.zero f.negative)

/-- The value, or none where it is beyond the largest number. -/
def value? (negative : Bool) (x : Numeral) : Option Binary64 :=
  let f := { Binary64.ofNat x.significand with negative }
  if f.isZero then some f
  else if x.exponent < 0 then divideByPower? f x.exponent.natAbs
  else if x.exponent ≤ maxExponent then f.mul? (powerOfTen x.exponent.toNat)
  else none

end Numeral

end ClassReconciler
