/-!
# Binary floating point numbers of 64 bits

A finite number is `± significand · 2 ^ exponent` in its one canonical form: the significand
has 53 bits, or fewer at the least exponent. All arithmetic is exact on natural numbers and
rounded once, to the nearest number and to the even significand on a tie.
-/

namespace ClassReconciler

/-- The quotient rounded to the nearest natural number, to the even one on a tie. -/
def roundHalfEven (n d : Nat) : Nat :=
  let q := n / d
  let r := n % d
  if 2 * r < d then q
  else if d < 2 * r then q + 1
  else if q % 2 = 0 then q else q + 1

/-- A significand and exponent of a finite number in canonical form. -/
def Canonical (significand : Nat) (exponent : Int) : Prop :=
  significand < 1 <<< 53 ∧ -1074 ≤ exponent ∧ exponent ≤ 971 ∧
    (1 <<< 52 ≤ significand ∨ exponent = -1074)

instance (m : Nat) (e : Int) : Decidable (Canonical m e) :=
  inferInstanceAs (Decidable (_ ∧ _ ∧ _ ∧ _))

/-- A finite number `± significand · 2 ^ exponent`. -/
structure Binary64 where
  negative : Bool
  significand : Nat
  exponent : Int
  canonical : Canonical significand exponent
deriving DecidableEq

namespace Binary64

def zero (negative : Bool) : Binary64 := ⟨negative, 0, -1074, by decide⟩

instance : Inhabited Binary64 := ⟨zero false⟩

def isZero (x : Binary64) : Bool := x.significand == 0

/-- Numbers are equal by value: the two zeros are one number. -/
instance : BEq Binary64 := ⟨fun x y => (x.isZero && y.isZero) || decide (x = y)⟩

@[simp] theorem beq_refl (x : Binary64) : (x == x) = true := by
  simp [BEq.beq]

/-- A number by its parts, where they are in canonical form. -/
def ofParts? (negative : Bool) (significand : Nat) (exponent : Int) : Option Binary64 :=
  if h : Canonical significand exponent then some ⟨negative, significand, exponent, h⟩ else none

/-- The nearest number to `± n / d`, or none where that is beyond the largest number. -/
def nearest? (negative : Bool) (n d : Nat) : Option Binary64 :=
  if n = 0 ∨ d = 0 then some (zero negative)
  else
    let estimate : Int := max ((n.log2 : Int) - d.log2 - 53) (-1074)
    let quotient (e : Int) := roundHalfEven (n <<< (-e).toNat) (d <<< e.toNat)
    let wide := d <<< (estimate + 53).toNat ≤ n <<< (-(estimate + 53)).toNat
    let e := if wide then estimate + 1 else estimate
    let m := quotient e
    if m = 1 <<< 53 then ofParts? negative (1 <<< 52) (e + 1) else ofParts? negative m e

/-- The value as a fraction of natural numbers, its sign apart. -/
def magnitude (x : Binary64) : Nat × Nat :=
  (x.significand <<< x.exponent.toNat, 1 <<< (-x.exponent).toNat)

/-- The value in units of the least positive number, `2 ^ -1074`. -/
def units (x : Binary64) : Int :=
  let n : Nat := x.significand <<< (x.exponent + 1074).toNat
  if x.negative then -n else n

/-- The order of the values. -/
def le (x y : Binary64) : Bool := x.units ≤ y.units

/-- The sum, rounded; beyond the largest number it stays at the first summand. -/
def add (x y : Binary64) : Binary64 :=
  let n := x.units + y.units
  if n = 0 then zero (x.negative && y.negative)
  else (nearest? (n < 0) n.natAbs (1 <<< 1074)).getD x

/-- The product, or none where it is beyond the largest number. -/
def mul? (x y : Binary64) : Option Binary64 :=
  let (n, d) := x.magnitude
  let (m, c) := y.magnitude
  nearest? (x.negative != y.negative) (n * m) (d * c)

/-- The quotient by a number other than zero, or none where it is beyond the largest number. -/
def div? (x y : Binary64) : Option Binary64 :=
  let (n, d) := x.magnitude
  let (m, c) := y.magnitude
  nearest? (x.negative != y.negative) (n * c) (d * m)

/-- The nearest number to a natural number that is not beyond the largest number. -/
def ofNat (n : Nat) : Binary64 := (nearest? false n 1).getD (zero false)

end Binary64

end ClassReconciler
