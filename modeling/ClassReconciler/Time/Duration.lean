/-!
# Durations

A length of time in seconds of 64 bits and nanoseconds. `Duration.inNanos` is its length as
one number, which is what the order and the operations are about.
-/

namespace ClassReconciler

/-- The nanoseconds of a second. -/
def nanosPerSecond : Nat := 1000000000

/-- A length of time. -/
structure Duration where
  secs : Nat
  nanos : Nat
  secs_lt : secs < UInt64.size
  nanos_lt : nanos < nanosPerSecond
deriving DecidableEq

namespace Duration

/-- The length in nanoseconds. -/
def inNanos (d : Duration) : Nat := d.secs * nanosPerSecond + d.nanos

/-- The longest duration. -/
def longest : Duration := ⟨UInt64.size - 1, nanosPerSecond - 1, by decide, by decide⟩

def zero : Duration := ⟨0, 0, Nat.succ_pos _, Nat.succ_pos _⟩

instance : Inhabited Duration := ⟨zero⟩

def ofParts? (secs nanos : Nat) : Option Duration :=
  if h : secs < UInt64.size ∧ nanos < nanosPerSecond then some ⟨secs, nanos, h.1, h.2⟩ else none

/-- A number of milliseconds, which fits where it has 64 bits. -/
def ofMillis (ms : Nat) : Duration :=
  (ofParts? (ms / 1000) (ms % 1000 * 1000000)).getD longest

/-- The product with a factor, or none where its seconds do not fit: the nanoseconds are
multiplied first and what is more than a second is carried over. -/
def times? (d : Duration) (factor : Nat) : Option Duration :=
  let nanos := d.nanos * factor
  let secs := d.secs * factor
  if secs < UInt64.size ∧ secs + nanos / nanosPerSecond < UInt64.size then
    ofParts? (secs + nanos / nanosPerSecond) (nanos % nanosPerSecond)
  else none

/-- The product with a factor, or the longest duration. -/
def saturatingTimes (d : Duration) (factor : Nat) : Duration := (d.times? factor).getD longest

def le (a b : Duration) : Bool := a.secs < b.secs || (a.secs == b.secs && a.nanos ≤ b.nanos)

/-- The shorter of two durations. -/
def shorter (a b : Duration) : Duration := if a.le b then a else b

/-! ## The written form -/

/-- A whole part and a fraction of a given number of digits, without zeros at its end, and
the unit. -/
def decimalText (whole fraction width : Nat) (unit : String) : String :=
  let digits := Nat.toDigits 10 fraction
  let padded := List.replicate (width - digits.length) '0' ++ digits
  let kept := (padded.reverse.dropWhile (· == '0')).reverse
  toString whole ++ (if kept.isEmpty then "" else "." ++ String.ofList kept) ++ unit

/-- The duration in the largest unit of which it has a whole one, exactly. -/
def text (d : Duration) : String :=
  if d.secs ≠ 0 then decimalText d.secs d.nanos 9 "s"
  else if 1000000 ≤ d.nanos then decimalText (d.nanos / 1000000) (d.nanos % 1000000) 6 "ms"
  else if 1000 ≤ d.nanos then decimalText (d.nanos / 1000) (d.nanos % 1000) 3 "µs"
  else decimalText d.nanos 0 0 "ns"

end Duration

end ClassReconciler
