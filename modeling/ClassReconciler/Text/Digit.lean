/-!
# Digits and numerals

The values of digits, and the forms in which a number may be written. The decimal digits of a
number have it as their value (`digitsValue_toDigits`).
-/

namespace ClassReconciler

/-- The value of decimal digits. -/
def digitsValue (digits : List Char) : Nat := Nat.ofDigitChars 10 digits 0

theorem digitsValue_toDigits (n : Nat) : digitsValue (Nat.toDigits 10 n) = n :=
  Nat.ofDigitChars_toDigits (by decide) (by decide)

def hexDigit? (c : Char) : Option Nat :=
  if c.isDigit then some (c.toNat - '0'.toNat)
  else if 'a' ≤ c ∧ c ≤ 'f' then some (c.toNat - 'a'.toNat + 10)
  else if 'A' ≤ c ∧ c ≤ 'F' then some (c.toNat - 'A'.toNat + 10)
  else none

/-- The text behind a plus sign, where there is one. -/
def skipPlus : List Char → List Char
  | '+' :: cs => cs
  | cs => cs

/-- At least one digit and nothing else. -/
def isDigits (cs : List Char) : Bool := !cs.isEmpty && cs.all Char.isDigit

/-- Digits, at least one, with at most one point before, between or behind them. -/
def isFixedPoint (cs : List Char) : Bool :=
  isDigits (cs.filter (· ≠ '.')) && cs.count '.' ≤ 1

end ClassReconciler
