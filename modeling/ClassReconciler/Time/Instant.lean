/-!
# Instants

A date of the proleptic Gregorian calendar and a time of day, both in UTC. A second may be a
leap second, whose nanoseconds count on from `10 ^ 9`. Two instants are equal if they are the
same moment, the fraction of the second included; `Instant.text` writes whole seconds.
-/

namespace ClassReconciler

/-! ## Dates -/

def isLeapYear (year : Int) : Bool :=
  year % 4 = 0 && (year % 100 ≠ 0 || year % 400 = 0)

def daysInMonth (year : Int) : Nat → Nat
  | 2 => if isLeapYear year then 29 else 28
  | 4 | 6 | 9 | 11 => 30
  | _ => 31

/-- A day of the calendar, in one of the years that instants are kept in. -/
structure Date where
  year : Int
  month : Nat
  day : Nat
  month_range : 1 ≤ month ∧ month ≤ 12
  day_range : 1 ≤ day ∧ day ≤ daysInMonth year month
  year_range : -262143 ≤ year ∧ year ≤ 262142
deriving DecidableEq

namespace Date

def ofParts? (year : Int) (month day : Nat) : Option Date :=
  if h : (1 ≤ month ∧ month ≤ 12) ∧ (1 ≤ day ∧ day ≤ daysInMonth year month) ∧
      (-262143 ≤ year ∧ year ≤ 262142) then
    some ⟨year, month, day, h.1, h.2.1, h.2.2⟩
  else none

/-- The day before, in the month or year before where the day is the first one. -/
def yesterday? (d : Date) : Option Date :=
  if d.day ≠ 1 then ofParts? d.year d.month (d.day - 1)
  else if d.month ≠ 1 then ofParts? d.year (d.month - 1) (daysInMonth d.year (d.month - 1))
  else ofParts? (d.year - 1) 12 31

/-- The day after, in the month or year after where the day is the last one. -/
def tomorrow? (d : Date) : Option Date :=
  if d.day < daysInMonth d.year d.month then ofParts? d.year d.month (d.day + 1)
  else if d.month ≠ 12 then ofParts? d.year (d.month + 1) 1
  else ofParts? (d.year + 1) 1 1

end Date

/-! ## Instants -/

/-- A moment in UTC. -/
structure Instant where
  date : Date
  hour : Nat
  minute : Nat
  second : Nat
  nanos : Nat
  hour_range : hour < 24
  minute_range : minute < 60
  second_range : second < 60
  nanos_range : nanos < 2000000000 ∧ (1000000000 ≤ nanos → second = 59)
deriving DecidableEq

namespace Instant

/-- The moment at which a local clock that runs `offset` minutes ahead shows the given time.
The offset is less than a day, so that the date moves by at most one day. -/
def ofLocal? (date : Date) (hour minute second nanos : Nat) (offset : Int) : Option Instant := do
  let utc : Int := hour * 60 + minute - offset
  let date ← if utc < 0 then date.yesterday? else if 1440 ≤ utc then date.tomorrow? else some date
  let ofDay := (utc % 1440).toNat
  if h : second < 60 ∧ nanos < 2000000000 ∧ (1000000000 ≤ nanos → second = 59) then
    pure ⟨date, ofDay / 60, ofDay % 60, second, nanos, by omega, by omega, h.1, h.2⟩
  else none

/-! ## The written form -/

/-- A number with zeros in front up to a width. -/
def padded (width n : Nat) : List Char :=
  let digits := Nat.toDigits 10 n
  List.replicate (width - digits.length) '0' ++ digits

/-- Four digits, or a sign and at least four digits outside of the years 0 to 9999. -/
def yearText (year : Int) : List Char :=
  if 0 ≤ year ∧ year ≤ 9999 then padded 4 year.toNat
  else (if year < 0 then '-' else '+') :: padded 4 year.natAbs

/-- The written form in UTC, the fraction of the second cut; a leap second is written 60. -/
def text (t : Instant) : String :=
  String.ofList <|
    yearText t.date.year ++ '-' :: padded 2 t.date.month ++ '-' :: padded 2 t.date.day ++
    'T' :: padded 2 t.hour ++ ':' :: padded 2 t.minute ++
    ':' :: padded 2 (t.second + t.nanos / 1000000000) ++ ['Z']

end Instant

end ClassReconciler
