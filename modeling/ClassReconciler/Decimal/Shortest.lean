import ClassReconciler.Decimal.Binary64

/-!
# Shortest decimals

The shortest decimal that reads back as a given number, and of those the nearest one. The
reals that round to `m · 2 ^ e` form an interval around it, with its ends where `m` is even;
a decimal of `n` digits lies in it only if one of the two neighbours of the number on the
grid of `n` digits does.
-/

namespace ClassReconciler

/-- A decimal `digits · 10 ^ exponent`. -/
structure Decimal where
  digits : Nat
  exponent : Int
deriving DecidableEq, Repr

namespace Decimal

/-- Compares `digits · 10 ^ exponent` with the fraction `n / d`. -/
def compareFraction (x : Decimal) (n d : Nat) : Ordering :=
  compare (x.digits * Nat.pow 10 x.exponent.toNat * d) (n * Nat.pow 10 (-x.exponent).toNat)

/-- Removes the zeros at the end of the digits. -/
def trim : Nat → Decimal → Decimal
  | 0, x => x
  | fuel + 1, x =>
    if x.digits ≠ 0 ∧ x.digits % 10 = 0 then trim fuel ⟨x.digits / 10, x.exponent + 1⟩ else x

end Decimal

namespace Binary64

/-- A positive number's interval of reals that round to it: both ends over one denominator,
and whether the ends belong to it. -/
structure RoundingInterval where
  low : Nat
  value : Nat
  high : Nat
  denominator : Nat
  closed : Bool

def roundingInterval (x : Binary64) : RoundingInterval :=
  let shift := x.exponent.toNat
  let below := if x.significand = 1 <<< 52 ∧ x.exponent ≠ -1074 then 1 else 2
  { low := (4 * x.significand - below) <<< shift
    value := (4 * x.significand) <<< shift
    high := (4 * x.significand + 2) <<< shift
    denominator := 4 <<< (-x.exponent).toNat
    closed := x.significand % 2 = 0 }

namespace RoundingInterval

def contains (i : RoundingInterval) (x : Decimal) : Bool :=
  match x.compareFraction i.low i.denominator, x.compareFraction i.high i.denominator with
  | .gt, .lt => true
  | .eq, _ | _, .eq => i.closed
  | _, _ => false

/-- The multiple of `10 ^ exponent` just below the number. -/
def floorAt (i : RoundingInterval) (exponent : Int) : Decimal :=
  ⟨i.value * Nat.pow 10 (-exponent).toNat / (i.denominator * Nat.pow 10 exponent.toNat), exponent⟩

/-- The nearer of the two neighbours on a grid, the even one on a tie. -/
def nearestAt (i : RoundingInterval) (exponent : Int) : Decimal :=
  ⟨roundHalfEven (i.value * Nat.pow 10 (-exponent).toNat)
    (i.denominator * Nat.pow 10 exponent.toNat), exponent⟩

/-- A decimal on one grid that lies in the interval: the nearer neighbour if it does, else
the other one. -/
def onGrid? (i : RoundingInterval) (exponent : Int) : Option Decimal :=
  let near := i.nearestAt exponent
  let low := i.floorAt exponent
  let high : Decimal := ⟨low.digits + 1, exponent⟩
  [near, low, high].find? i.contains

/-- The power of ten of the number's first digit. -/
def leadingExponent (i : RoundingInterval) : Int :=
  let n := i.value
  let d := i.denominator
  if d ≤ n then (Nat.toDigits 10 (n / d)).length - 1
  else
    let inverse : Nat := d / n
    let len := (Nat.toDigits 10 inverse).length
    if inverse * n = d ∧ inverse = Nat.pow 10 (len - 1) then 1 - (len : Int) else -(len : Int)

end RoundingInterval

/-- The shortest decimal that reads back as the number, its sign apart. Seventeen digits
always suffice. -/
def shortest (x : Binary64) : Decimal :=
  if x.significand = 0 then ⟨0, 0⟩
  else
    let i := x.roundingInterval
    let lead := i.leadingExponent
    let found := (List.range 17).findSome? fun (n : Nat) => i.onGrid? (lead - (n : Int))
    (found.getD (i.nearestAt (lead - 16))).trim 17

end Binary64

/-! ## Written forms -/

/-- The digits of a decimal, with its value as `0.d₁d₂… · 10 ^ point`. -/
def Decimal.spread (x : Decimal) : List Char × Int :=
  let digits := Nat.toDigits 10 x.digits
  (digits, digits.length + x.exponent)

/-- Digits with a point after the first `point` of them, padded with zeros, and with at
least one digit on each side. -/
def positional (digits : List Char) (point : Int) : List Char :=
  let zeros (n : Int) := List.replicate n.toNat '0'
  let whole := digits.take point.toNat ++ zeros (point - digits.length)
  let rest := zeros (-point) ++ digits.drop point.toNat
  (if whole.isEmpty then ['0'] else whole) ++ ['.'] ++ if rest.isEmpty then ['0'] else rest

/-- How decimals are written: in positional notation where the point comes behind more than
`least` and at most `most` digits, and else with a power of ten, which has a plus sign where
`plus` says so. -/
structure NumberStyle where
  least : Int
  most : Int
  plus : Bool

/-- One digit, the rest after a point if there is one, and the power of ten. -/
def scientific (plus : Bool) (digits : List Char) (point : Int) : List Char :=
  let power := (toString (point - 1)).toList
  let power := 'e' :: if plus && 0 < point then '+' :: power else power
  match digits with
  | [d] => d :: power
  | d :: rest => d :: '.' :: rest ++ power
  | [] => ['0']

/-- The decimal as a text. -/
def Decimal.text (style : NumberStyle) (x : Decimal) : List Char :=
  let (digits, point) := x.spread
  if style.least < point ∧ point ≤ style.most then positional digits point
  else scientific style.plus digits point

namespace Binary64

/-- A decimal for the number, with the number's sign. -/
def textOf (x : Binary64) (decimal : List Char) : String :=
  String.ofList (if x.negative then '-' :: decimal else decimal)

/-- The number as its shortest decimal. -/
def text (style : NumberStyle) (x : Binary64) : String :=
  x.textOf (x.shortest.text style)

end Binary64

end ClassReconciler
