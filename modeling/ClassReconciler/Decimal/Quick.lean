import ClassReconciler.Decimal.Shortest

/-!
# Quick decimals

A decimal that reads back as a given number, found with significands of 64 bits. The number
and the two ends of the interval of reals that round to it are scaled by one power of ten,
and the digits of the upper end are written until what is left of it is less than the
interval is wide. Then the last digit is lowered towards the number, but only while the
scaled distance to it is still exact, which is down to the eighth digit behind the scaled
point. So the decimal has few digits and lies in the interval, but it need be neither the
shortest nor the nearest one.
-/

namespace ClassReconciler

/-- A number `significand · 2 ^ exponent` whose significand has up to 64 bits. -/
structure Scaled where
  significand : Nat
  exponent : Int

namespace Scaled

/-- The number with the highest of 64 bits set. -/
def normal (x : Scaled) : Scaled :=
  let shift := 63 - x.significand.log2
  ⟨x.significand <<< shift, x.exponent - shift⟩

/-- The product, whose significand is rounded to 64 bits, a half upwards. -/
def mul (x y : Scaled) : Scaled :=
  ⟨(x.significand * y.significand + 1 <<< 63) >>> 64, x.exponent + y.exponent + 64⟩

/-- The quotient of two natural numbers with a significand of 64 bits, rounded to the nearest
one. -/
def ofFraction (n d : Nat) : Scaled :=
  let estimate : Int := (n.log2 : Int) - d.log2 - 63
  let quotient (e : Int) := roundHalfEven (n <<< (-e).toNat) (d <<< e.toNat)
  let narrow := n <<< (-(estimate + 63)).toNat < d <<< (estimate + 63).toNat
  let e := if narrow then estimate - 1 else estimate
  let m := quotient e
  if m = 1 <<< 64 then ⟨1 <<< 63, e + 1⟩ else ⟨m, e⟩

def powerOfTen (k : Int) : Scaled := ofFraction (Nat.pow 10 k.toNat) (Nat.pow 10 (-k).toNat)

/-- The power of ten that brings a number of 64 bits with the given exponent to one with an
exponent from -60 to -32. Only every eighth power is used. -/
def scalingPower (exponent : Int) : Int :=
  let estimate := -((61 + exponent) * 30102999566398114 / 100000000000000000) + 347
  (estimate / 8 + 1) * 8 - 348

end Scaled

/-! ## Digits -/

/-- Digits as a number, and the power of ten of the last one. -/
abbrev WrittenDigits : Type := Decimal

/-- Lowers the last digit towards the number while that brings it nearer. `rest` is how far
the digits are below the upper end, `width` how far they may be, `unit` what one less in the
last digit takes away, and `distance` how far the number is below the upper end. -/
def lowerLast (width unit distance : Nat) : Nat → Nat → Nat → Nat
  | 0, digits, _ => digits
  | steps + 1, digits, rest =>
    if rest < distance ∧ unit ≤ width - rest ∧
        (rest + unit < distance ∨ rest + unit - distance < distance - rest) then
      lowerLast width unit distance steps (digits - 1) (rest + unit)
    else digits

/-- The digits behind the scaled point. `fraction` is what is left of the upper end behind
`count` of them, of which `unit` makes one. -/
def fractionDigits (unit distance : Nat) : Nat → Nat → Nat → Nat → Nat → WrittenDigits
  | 0, count, digits, _, _ => ⟨digits, -count⟩
  | steps + 1, count, digits, fraction, width =>
    let fraction := fraction * 10
    let width := width * 10
    let digits := digits * 10 + fraction / unit
    let fraction := fraction % unit
    let count := count + 1
    if fraction < width then
      let distance := if count < 9 then distance * Nat.pow 10 count else 0
      ⟨lowerLast width unit distance 10 digits fraction, -count⟩
    else fractionDigits unit distance steps count digits fraction width

/-- The digits before the scaled point, of which `left` are still to be written, and then the
others. -/
def wholeDigits (unit distance width fraction : Nat) : Nat → Nat → Nat → WrittenDigits
  | 0, digits, _ => fractionDigits unit distance 40 0 digits fraction width
  | left + 1, digits, whole =>
    let digits := digits * 10 + whole / Nat.pow 10 left
    let whole := whole % Nat.pow 10 left
    let rest := whole * unit + fraction
    if rest ≤ width then ⟨lowerLast width (Nat.pow 10 left * unit) distance 10 digits rest, left⟩
    else wholeDigits unit distance width fraction left digits whole

namespace Binary64

/-- A short decimal that reads back as the number, its sign apart. -/
def quick (x : Binary64) : Decimal :=
  if x.significand = 0 then ⟨0, 0⟩
  else
    let high := Scaled.normal ⟨2 * x.significand + 1, x.exponent - 1⟩
    let low : Scaled :=
      if x.significand = 1 <<< 52 then ⟨4 * x.significand - 1, x.exponent - 2⟩
      else ⟨2 * x.significand - 1, x.exponent - 1⟩
    let low : Scaled :=
      ⟨low.significand <<< (low.exponent - high.exponent).toNat, high.exponent⟩
    let power := Scaled.scalingPower high.exponent
    let scale := Scaled.powerOfTen power
    let value := (Scaled.normal ⟨x.significand, x.exponent⟩).mul scale
    let high := high.mul scale
    let top := high.significand - 1
    let width := top - ((low.mul scale).significand + 1)
    let unit := 1 <<< (-high.exponent).toNat
    let whole := top / unit
    let written := wholeDigits unit (top - value.significand) width (top % unit)
      (Nat.toDigits 10 whole).length 0 whole
    ⟨written.digits, written.exponent - power⟩

/-- The number as its quick decimal. -/
def quickText (style : NumberStyle) (x : Binary64) : String :=
  x.textOf (x.quick.text style)

end Binary64

end ClassReconciler
