import Mathlib.Algebra.Order.Ring.Nat
import ClassReconciler.Controller.Retry

/-!
# How delays grow

The delay after some failures in a row is the shortest delay times a factor, or the longest delay
where that is less (`Backoff.inNanos_delay`). Lengths are numbers of nanoseconds, which determine a
duration (`Duration.eq_of_inNanos_eq`). Their product is exact: it is given up for the longest
duration of all only where it is longer than that (`Duration.inNanos_saturatingTimes`).

The same delay is computed on words of 32 and 64 bits, where an operation that is not checked stops
if its result does not fit. None of them ever stops (`Backoff.delayOnWords?_eq`): the distance of
the shift is checked against the width, the nanoseconds times any factor fit 64 bits, and the
seconds and what is carried over to them are checked.
-/

namespace ClassReconciler

/-! ## Lengths -/

namespace Duration

variable {d e : Duration}

theorem inNanos_longest : longest.inNanos + 1 = UInt64.size * nanosPerSecond := by decide

/-- The length determines the parts. -/
theorem eq_of_inNanos_eq (h : d.inNanos = e.inNanos) : d = e := by
  obtain ⟨secs, nanos, hsecs, hnanos⟩ := d
  obtain ⟨secs', nanos', hsecs', hnanos'⟩ := e
  simp only [inNanos, nanosPerSecond] at h hnanos hnanos'
  obtain rfl : secs = secs' := by omega
  obtain rfl : nanos = nanos' := by omega
  rfl

theorem inNanos_le_longest (d : Duration) : d.inNanos ≤ longest.inNanos := by
  have hsecs := d.secs_lt
  have hnanos := d.nanos_lt
  have hlongest := inNanos_longest
  simp only [inNanos, nanosPerSecond] at *
  omega

theorem le_iff : d.le e = true ↔ d.inNanos ≤ e.inNanos := by
  have hd := d.nanos_lt
  have he := e.nanos_lt
  simp only [le, inNanos, nanosPerSecond, Bool.or_eq_true, Bool.and_eq_true, decide_eq_true_eq,
    beq_iff_eq] at *
  omega

theorem inNanos_shorter (d e : Duration) : (d.shorter e).inNanos = min d.inNanos e.inNanos := by
  rw [shorter]
  split
  case isTrue h => exact (Nat.min_eq_left (le_iff.1 h)).symm
  case isFalse h => exact (Nat.min_eq_right (Nat.le_of_not_le fun h' => h (le_iff.2 h'))).symm

theorem ofParts?_eq_some {secs nanos : Nat} (hsecs : secs < UInt64.size)
    (hnanos : nanos < nanosPerSecond) :
    ofParts? secs nanos = some ⟨secs, nanos, hsecs, hnanos⟩ := by
  rw [ofParts?, dif_pos ⟨hsecs, hnanos⟩]

/-- A product in parts: what the nanoseconds carry over is added to the seconds. -/
theorem inNanos_mul (d : Duration) (factor : Nat) : d.inNanos * factor =
    (d.secs * factor + d.nanos * factor / nanosPerSecond) * nanosPerSecond +
      d.nanos * factor % nanosPerSecond := by
  have hcarry := Nat.div_add_mod' (d.nanos * factor) nanosPerSecond
  rw [inNanos, Nat.add_mul, Nat.mul_right_comm, Nat.add_mul, Nat.add_assoc, hcarry]

/-- A product is exact, or there is none and it is longer than every duration. -/
theorem times?_cases (d : Duration) (factor : Nat) :
    (∃ e, d.times? factor = some e ∧ e.inNanos = d.inNanos * factor) ∨
      d.times? factor = none ∧ longest.inNanos < d.inNanos * factor := by
  have hmul := inNanos_mul d factor
  have hnanos := Nat.mod_lt (d.nanos * factor) (show 0 < nanosPerSecond by decide)
  by_cases h : d.secs * factor + d.nanos * factor / nanosPerSecond < UInt64.size
  · have hsecs : d.secs * factor < UInt64.size := Nat.lt_of_le_of_lt (Nat.le_add_right _ _) h
    refine .inl ⟨⟨_, _, h, hnanos⟩, ?_, hmul.symm⟩
    simp only [times?, hsecs, h, and_self, if_true, ofParts?_eq_some h hnanos]
  · refine .inr ⟨by simp only [times?, h, and_false, if_false], ?_⟩
    have hlongest := inNanos_longest
    have hsize := Nat.mul_le_mul_right nanosPerSecond (Nat.le_of_not_lt h)
    omega

theorem inNanos_saturatingTimes (d : Duration) (factor : Nat) :
    (d.saturatingTimes factor).inNanos = min longest.inNanos (d.inNanos * factor) := by
  rcases times?_cases d factor with ⟨e, he, hexact⟩ | ⟨hnone, hlong⟩
  · rw [saturatingTimes, he, Option.getD_some, ← hexact, Nat.min_eq_right e.inNanos_le_longest]
  · rw [saturatingTimes, hnone, Option.getD_none, Nat.min_eq_left (Nat.le_of_lt hlong)]

end Duration

/-! ## Words -/

/-- The product of two words, where it fits one. -/
def mulWords? (a b : UInt64) : Option UInt64 :=
  if a.toNat * b.toNat < UInt64.size then some (a * b) else none

/-- The sum of two words, where it fits one. -/
def addWords? (a b : UInt64) : Option UInt64 :=
  if a.toNat + b.toNat < UInt64.size then some (a + b) else none

theorem mulWords?_cases (a b : UInt64) :
    (∃ c, mulWords? a b = some c ∧ c.toNat = a.toNat * b.toNat) ∨
      mulWords? a b = none ∧ UInt64.size ≤ a.toNat * b.toNat := by
  by_cases h : a.toNat * b.toNat < UInt64.size
  · exact .inl ⟨a * b, if_pos h, by rw [UInt64.toNat_mul, Nat.mod_eq_of_lt h]⟩
  · exact .inr ⟨if_neg h, Nat.le_of_not_lt h⟩

theorem addWords?_cases (a b : UInt64) :
    (∃ c, addWords? a b = some c ∧ c.toNat = a.toNat + b.toNat) ∨
      addWords? a b = none ∧ UInt64.size ≤ a.toNat + b.toNat := by
  by_cases h : a.toNat + b.toNat < UInt64.size
  · exact .inl ⟨a + b, if_pos h, by rw [UInt64.toNat_add, Nat.mod_eq_of_lt h]⟩
  · exact .inr ⟨if_neg h, Nat.le_of_not_lt h⟩

/-- A product to which a word is added is exact, or there is none and the sum is too large. -/
theorem mulWords?_bind_cases (a b carry : UInt64) :
    (∃ c, (mulWords? a b).bind (addWords? · carry) = some c ∧
      c.toNat = a.toNat * b.toNat + carry.toNat) ∨
      (mulWords? a b).bind (addWords? · carry) = none ∧
        UInt64.size ≤ a.toNat * b.toNat + carry.toNat := by
  obtain ⟨product, hproduct, hvalue⟩ | ⟨hnone, hlarge⟩ := mulWords?_cases a b
  · rw [hproduct, ← hvalue]
    exact addWords?_cases product carry
  · exact .inr ⟨by rw [hnone]; rfl, Nat.le_trans hlarge (Nat.le_add_right _ _)⟩

namespace Duration

def secsWord (d : Duration) : UInt64 := .ofNat d.secs

def nanosWord (d : Duration) : UInt32 := .ofNat d.nanos

/-- The product with a factor on words. There is no result where an operation that is not checked
overflows, and the result is none where the seconds or their sum with the carry do not fit. -/
def timesOnWords? (d : Duration) (factor : UInt32) : Option (Option Duration) := do
  let nanos ← mulWords? d.nanosWord.toUInt64 factor.toUInt64
  let carry := nanos / 1000000000
  let rest := (nanos % 1000000000).toUInt32
  match (mulWords? d.secsWord factor.toUInt64).bind (addWords? · carry) with
  | some secs => some <$> ofParts? secs.toNat rest.toNat
  | none => some none

theorem toNat_secsWord (d : Duration) : d.secsWord.toNat = d.secs :=
  UInt64.toNat_ofNat_of_lt' d.secs_lt

theorem toNat_nanosWord (d : Duration) : d.nanosWord.toNat = d.nanos :=
  UInt32.toNat_ofNat_of_lt' (Nat.lt_trans d.nanos_lt (by decide))

/-- The nanoseconds of a duration times a factor of 32 bits fit a word. -/
theorem nanos_mul_lt (d : Duration) (factor : UInt32) :
    d.nanos * factor.toNat < UInt64.size := by
  have h : d.nanos * factor.toNat ≤ nanosPerSecond * UInt32.size :=
    Nat.mul_le_mul (Nat.le_of_lt d.nanos_lt) (Nat.le_of_lt factor.toNat_lt_size)
  exact Nat.lt_of_le_of_lt h (by decide)

/-- No operation on words overflows where it is not checked, and the product is the exact one. -/
theorem timesOnWords?_eq (d : Duration) (factor : UInt32) :
    d.timesOnWords? factor = some (d.times? factor.toNat) := by
  have hfits := nanos_mul_lt d factor
  obtain ⟨nanos, hnanos, hvalue⟩ | ⟨-, hlong⟩ :=
    mulWords?_cases d.nanosWord.toUInt64 factor.toUInt64
  case inr =>
    rw [UInt32.toNat_toUInt64, UInt32.toNat_toUInt64, toNat_nanosWord] at hlong
    exact absurd hfits (Nat.not_lt_of_le hlong)
  rw [UInt32.toNat_toUInt64, UInt32.toNat_toUInt64, toNat_nanosWord] at hvalue
  have hcarry : (nanos / 1000000000).toNat = d.nanos * factor.toNat / nanosPerSecond := by
    rw [UInt64.toNat_div, hvalue]
    rfl
  have hrest : (nanos % 1000000000).toUInt32.toNat = d.nanos * factor.toNat % nanosPerSecond := by
    rw [UInt64.toNat_toUInt32, UInt64.toNat_mod, hvalue]
    exact Nat.mod_eq_of_lt (Nat.lt_trans (Nat.mod_lt _ (by decide)) (by decide))
  simp only [timesOnWords?, hnanos, Option.bind_eq_bind, Option.bind_some]
  -- the seconds are multiplied and the carry is added
  obtain ⟨secs, hsecs, htotal⟩ | ⟨hsecs, hlong⟩ :=
    mulWords?_bind_cases d.secsWord factor.toUInt64 (nanos / 1000000000)
  · rw [UInt32.toNat_toUInt64, toNat_secsWord, hcarry] at htotal
    have hlt := htotal ▸ secs.toNat_lt_size
    have hproduct := Nat.lt_of_le_of_lt (Nat.le_add_right _ _) hlt
    have hparts := ofParts?_eq_some hlt (Nat.mod_lt (d.nanos * factor.toNat) (by decide))
    simp only [hsecs, htotal, hrest, times?, hlt, hproduct, and_self, if_true, hparts,
      Option.map_eq_map, Option.map_some]
  · rw [UInt32.toNat_toUInt64, toNat_secsWord, hcarry] at hlong
    simp only [hsecs, times?, Nat.not_lt_of_le hlong, and_false, if_false]

end Duration

/-! ## Delays -/

namespace Backoff

/-- The factor as a word: a bit that is shifted by one less than the failures, where that distance
is less than the width of the word. -/
def factorWord (failures : UInt32) : UInt32 :=
  let distance := if failures = 0 then 0 else failures - 1
  if distance < 32 then 1 <<< distance else 0xffffffff

/-- The delay on words. There is none where an operation that is not checked overflows. -/
def delayOnWords? (b : Backoff) (failures : UInt32) : Option Duration := do
  let product ← b.shortest.timesOnWords? (factorWord failures)
  pure ((product.getD .longest).shorter b.longest)

/-- What the shortest delay is multiplied by: once for the first failure, twice as often for each
one after it up to the thirty-second, and then as often as a word can say. -/
def growth (failures : Nat) : Nat :=
  if failures ≤ 1 then 1 else if failures ≤ 32 then 2 ^ (failures - 1) else 2 ^ 32 - 1

theorem toNat_factorWord (failures : UInt32) :
    (factorWord failures).toNat = factor failures.toNat := by
  have hdistance :
      (if failures = 0 then 0 else failures - 1 : UInt32).toNat = failures.toNat - 1 := by
    split
    case isTrue h =>
      subst h
      rfl
    case isFalse h =>
      have hpos : 1 ≤ failures.toNat := Nat.pos_of_ne_zero fun h' => h (UInt32.toNat_inj.1 h')
      exact UInt32.toNat_sub_of_le _ _ (UInt32.le_iff_toNat_le.2 hpos)
  rw [factorWord, factor]
  generalize (if failures = 0 then 0 else failures - 1 : UInt32) = distance at hdistance ⊢
  rw [← hdistance]
  by_cases h : distance < 32
  · have hwidth : distance.toNat < 32 := UInt32.lt_iff_toNat_lt.1 h
    have hfits : 2 ^ distance.toNat < 2 ^ 32 := Nat.pow_lt_pow_right (by decide) hwidth
    rw [if_pos h, if_pos hwidth, UInt32.toNat_shiftLeft, Nat.mod_eq_of_lt hwidth, Nat.shiftLeft_eq,
      show (1 : UInt32).toNat = 1 from rfl, Nat.one_mul, Nat.mod_eq_of_lt hfits]
    rfl
  · have hwidth : ¬ distance.toNat < 32 := fun h' => h (UInt32.lt_iff_toNat_lt.2 h')
    rw [if_neg h, if_neg hwidth]
    rfl

/-- The delay that is computed on words is the exact one, and no operation overflows on the way. -/
theorem delayOnWords?_eq (b : Backoff) (failures : UInt32) :
    b.delayOnWords? failures = some (b.delay failures.toNat) := by
  rw [delayOnWords?, Duration.timesOnWords?_eq, toNat_factorWord]
  rfl

theorem growth_of_le {n : Nat} (h : n ≤ 32) : growth n = 2 ^ (n - 1) := by
  rcases Nat.lt_or_ge 1 n with hn | hn
  · rw [growth, if_neg (by omega), if_pos h]
  · rw [growth, if_pos hn, Nat.sub_eq_zero_of_le hn, Nat.pow_zero]

theorem growth_of_lt {n : Nat} (h : 32 < n) : growth n = 2 ^ 32 - 1 := by
  rw [growth, if_neg (by omega), if_neg (by omega)]

theorem factor_eq_growth (n : Nat) : factor n = growth n := by
  rw [factor]
  rcases Nat.lt_or_ge 32 n with h | h
  · rw [if_neg (by omega), growth_of_lt h]
    rfl
  · rw [if_pos (by omega), growth_of_le h]
    rfl

theorem growth_mono {m n : Nat} (h : m ≤ n) : growth m ≤ growth n := by
  rcases Nat.lt_or_ge 32 m with hm | hm
  · rw [growth_of_lt hm, growth_of_lt (by omega)]
  rw [growth_of_le hm]
  rcases Nat.lt_or_ge 32 n with hn | hn
  · -- the step to the last factor is not a doubling
    have hpow : 2 ^ (m - 1) ≤ 2 ^ 31 := Nat.pow_le_pow_right (by decide) (by omega)
    rw [growth_of_lt hn]
    omega
  · rw [growth_of_le hn]
    exact Nat.pow_le_pow_right (by decide) (by omega)

theorem growth_succ {n : Nat} (hfirst : 1 ≤ n) (hlast : n ≤ 31) :
    growth (n + 1) = 2 * growth n := by
  rw [growth_of_le (by omega), growth_of_le (by omega), ← Nat.pow_succ']
  congr 1
  omega

theorem one_le_growth (n : Nat) : 1 ≤ growth n := growth_mono (Nat.zero_le n)

/-- A delay is the shortest one times the growth, or the longest one where that is less. -/
theorem inNanos_delay (b : Backoff) (n : Nat) :
    (b.delay n).inNanos = min b.longest.inNanos (b.shortest.inNanos * growth n) := by
  have hlongest := b.longest.inNanos_le_longest
  rw [delay, Duration.inNanos_shorter, Duration.inNanos_saturatingTimes, factor_eq_growth]
  omega

end Backoff

/-- The delay after any number of failures in a row is, in exact nanoseconds, the shortest delay
times the growth, or the longest delay where that is less; computing it on words gives the same and
overflows nowhere. So it is between the shorter of the two bounds and the longest delay, never
falls from one failure to the next, and doubles up to the longest delay as long as the factor is
not the greatest. -/
theorem delay_grows (b : Backoff) (f : UInt32) :
    let delay (n : Nat) : Nat := (b.delay n).inNanos
    b.delayOnWords? f = some (b.delay f.toNat) ∧
    delay f.toNat = min b.longest.inNanos (b.shortest.inNanos * Backoff.growth f.toNat) ∧
    delay f.toNat ≤ b.longest.inNanos ∧
    min b.shortest.inNanos b.longest.inNanos ≤ delay f.toNat ∧
    (∀ g : UInt32, f ≤ g → delay f.toNat ≤ delay g.toNat) ∧
    (1 ≤ f → f ≤ 31 → delay (f + 1).toNat = min b.longest.inNanos (2 * delay f.toNat)) := by
  intro delay
  have hdelay : ∀ n, delay n = min b.longest.inNanos (b.shortest.inNanos * Backoff.growth n) :=
    b.inNanos_delay
  refine ⟨b.delayOnWords?_eq f, hdelay _, ?_, ?_, fun g hg => ?_, fun hfirst hlast => ?_⟩
  · exact hdelay _ ▸ Nat.min_le_left _ _
  · have hone := Nat.le_mul_of_pos_right b.shortest.inNanos (Backoff.one_le_growth f.toNat)
    rw [hdelay]
    omega
  · have hgrowth := Backoff.growth_mono (UInt32.le_iff_toNat_le.1 hg)
    have hproduct := Nat.mul_le_mul_left b.shortest.inNanos hgrowth
    rw [hdelay, hdelay]
    omega
  · have hfirst : 1 ≤ f.toNat := UInt32.le_iff_toNat_le.1 hfirst
    have hlast : f.toNat ≤ 31 := UInt32.le_iff_toNat_le.1 hlast
    have hsucc : (f + 1).toNat = f.toNat + 1 := by
      rw [UInt32.toNat_add, show (1 : UInt32).toNat = 1 from rfl, Nat.mod_eq_of_lt (by omega)]
    rw [hsucc, hdelay, hdelay, Backoff.growth_succ hfirst hlast, Nat.mul_left_comm]
    omega

/-- From half a second up to a minute, the seventh delay is the last that is doubled in full. -/
theorem delay_grows_sample :
    let b : Backoff := ⟨.ofMillis 500, .ofMillis 60000⟩
    (7 : UInt32) ≤ 33 ∧ (1 : UInt32) ≤ 7 ∧ (7 : UInt32) ≤ 31 ∧
      (b.delay 7).inNanos = 32000000000 ∧ (b.delay 7).inNanos ≤ (b.delay 33).inNanos ∧
      (b.delay 8).inNanos = min b.longest.inNanos (2 * (b.delay 7).inNanos) := by
  intro b
  have hgrows : (7 : UInt32) ≤ 33 := by decide
  have hfirst : (1 : UInt32) ≤ 7 := by decide
  have hlast : (7 : UInt32) ≤ 31 := by decide
  obtain ⟨-, -, -, -, hmono, hdouble⟩ := delay_grows b 7
  exact ⟨hgrows, hfirst, hlast, by decide +kernel, hmono 33 hgrows, hdouble hfirst hlast⟩

end ClassReconciler
