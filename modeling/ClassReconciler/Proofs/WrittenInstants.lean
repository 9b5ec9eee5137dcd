import ClassReconciler.Proofs.TemplateGrammar
import ClassReconciler.Time.Reader

/-!
# Instants that are written

The written form of an instant is read again as the same moment without the fraction of its second
(`Instant.read_text`), in every year; a leap second stays one. Each reader takes from the front of a
text what the written form puts there and leaves the rest alone (`Instant.readNumber_run`,
`Instant.readPart_padded`, `Instant.readYear_yearText`). What is read again is written in the same
way (`Instant.text_cut`).
-/

namespace ClassReconciler

namespace Instant

/-! ## Numbers with zeros in front -/

theorem isDigit_of_mem_padded {width n : Nat} {c : Char} (h : c ∈ padded width n) :
    c.isDigit = true := by
  rcases List.mem_append.1 h with h | h
  · rw [(List.mem_replicate.1 h).2]
    rfl
  · exact Nat.isDigit_of_mem_toDigits (by decide) (by decide) h

/-- The zeros in front do not change the value. -/
theorem digitsValue_padded (width n : Nat) : digitsValue (padded width n) = n := by
  rw [digitsValue, padded, Nat.ofDigitChars_append, Nat.ofDigitChars_replicate_zero, Nat.mul_zero]
  exact digitsValue_toDigits n

theorem length_padded {width n : Nat} (h : (Nat.toDigits 10 n).length ≤ width) :
    (padded width n).length = width := by
  rw [padded, List.length_append, List.length_replicate]
  omega

theorem padded_ne_nil (width n : Nat) : padded width n ≠ [] :=
  List.append_ne_nil_of_right_ne_nil _ Nat.toDigits_ne_nil

/-! ## Readers of single parts -/

theorem isBlank_of_isDigit {c : Char} (h : c.isDigit = true) : isBlank c = false := by
  simp only [Char.isDigit, Bool.and_eq_true, decide_eq_true_eq, UInt32.le_iff_toNat_le] at h
  have hlow : 48 ≤ c.toNat := h.1
  have hhigh : c.toNat ≤ 57 := h.2
  simp only [isBlank, Bool.or_eq_false_iff, Bool.and_eq_false_iff, decide_eq_false_iff_not,
    beq_eq_false_iff_ne]
  omega

/-- Digits are read up to the width, or up to what is no digit. -/
theorem readNumber_run {width : Option Nat} {digits : List Char} (hne : digits ≠ [])
    (hdigits : ∀ c ∈ digits, c.isDigit = true)
    (hvalue : (digitsValue digits : Int) ≤ Int64.maxValue.toInt) (rest : List Char)
    (hwidth : width = some digits.length ∨ width = none ∧ rest.takeWhile Char.isDigit = []) :
    (readNumber width).run (digits ++ rest) = .ok (digitsValue digits, rest) := by
  have htake : (digits ++ rest).takeWhile Char.isDigit = digits ++ rest.takeWhile Char.isDigit :=
    List.takeWhile_append_of_pos hdigits
  have hread : ((digits ++ rest).takeWhile Char.isDigit).take
      (width.getD ((digits ++ rest).takeWhile Char.isDigit).length) = digits := by
    rw [htake]
    rcases hwidth with rfl | ⟨rfl, hrest⟩
    · exact List.take_left
    · rw [hrest, List.append_nil]
      exact List.take_length
  cases digits with
  | nil => exact absurd rfl hne
  | cons c cs =>
    have hc : c.isDigit = true := hdigits c List.mem_cons_self
    have hlt : ¬ Int64.maxValue.toInt < (digitsValue (c :: cs) : Int) := by omega
    rw [List.cons_append] at hread ⊢
    simp only [readNumber, StateT.run_bind, StateT.run_get, pure_bind, hc, Bool.not_true,
      Bool.false_eq_true, if_false, hread, hlt, StateT.run_set, StateT.run_pure]
    rw [← List.cons_append, List.drop_left]
    rfl

theorem digitsValue_padded_le {width n : Nat} (h : n < 1000000000) :
    (digitsValue (padded width n) : Int) ≤ Int64.maxValue.toInt := by
  rw [digitsValue_padded]
  have : Int64.maxValue.toInt = 9223372036854775807 := by decide
  omega

/-- As many digits as there are at most are read, whatever stands behind them. -/
theorem readNumber_padded {width n : Nat} (h : (Nat.toDigits 10 n).length ≤ width)
    (hsmall : n < 1000000000) (rest : List Char) :
    (readNumber (some width)).run (padded width n ++ rest) = .ok (n, rest) := by
  have hread := readNumber_run (padded_ne_nil width n) (fun _ => isDigit_of_mem_padded)
    (digitsValue_padded_le hsmall) rest (.inl (congrArg some (length_padded h).symm))
  rwa [digitsValue_padded] at hread

theorem skipBlanks_cons (c : Char) (h : isBlank c = false) (rest : List Char) :
    skipBlanks (c :: rest) = c :: rest := by
  simp [skipBlanks, h]

/-- A number begins with a digit. -/
theorem isDigit_of_padded {width n : Nat} {rest cs : List Char} {c : Char}
    (h : padded width n ++ rest = c :: cs) : c.isDigit = true := by
  cases hdigits : padded width n with
  | nil => exact absurd hdigits (padded_ne_nil width n)
  | cons d ds =>
    rw [hdigits, List.cons_append, List.cons.injEq] at h
    exact h.1 ▸ isDigit_of_mem_padded (hdigits ▸ List.mem_cons_self)

/-- No blank stands before a number. -/
theorem skipBlanks_padded (width n : Nat) (rest : List Char) :
    skipBlanks (padded width n ++ rest) = padded width n ++ rest := by
  cases hdigits : padded width n ++ rest with
  | nil => rfl
  | cons c cs => exact skipBlanks_cons c (isBlank_of_isDigit (isDigit_of_padded hdigits)) cs

theorem run_skipBlank (cs : List Char) : skipBlank.run cs = .ok ((), skipBlanks cs) := rfl

theorem readPart_padded {least most n : Nat} (h : least ≤ n ∧ n ≤ most) (hmost : most < 100)
    (rest : List Char) : (readPart least most).run (padded 2 n ++ rest) = .ok (n, rest) := by
  have hdigits : (Nat.toDigits 10 n).length ≤ 2 :=
    (Nat.length_toDigits_le_iff (by decide) (by decide)).2 (by omega)
  have hread := readNumber_padded hdigits (by omega) rest
  simp only [readPart, StateT.run_bind, run_skipBlank, skipBlanks_padded, except_ok_bind, hread, h,
    and_self, if_true]
  rfl

theorem readOneOf_cons (marks : List Char) (c : Char) (h : c ∈ marks) (rest : List Char) :
    (readOneOf marks).run (c :: rest) = .ok ((), rest) := by
  simp only [readOneOf, StateT.run_bind, StateT.run_get, pure_bind, h, if_true]
  rfl

theorem readMark_cons (mark : Char) (h : isBlank mark = false) (rest : List Char) :
    (readMark mark).run (mark :: rest) = .ok ((), rest) := by
  simp only [readMark, StateT.run_bind, run_skipBlank, skipBlanks_cons mark h, except_ok_bind]
  exact readOneOf_cons [mark] mark List.mem_cons_self rest

/-- A year is read up to the hyphen behind it. -/
theorem readYear_yearText {year : Int} (h : -262143 ≤ year ∧ year ≤ 262142) (rest : List Char) :
    readYear.run (yearText year ++ '-' :: rest) = .ok (year, '-' :: rest) := by
  have hrange : Int32.minValue.toInt ≤ year ∧ year ≤ Int32.maxValue.toInt := by
    have hmin : Int32.minValue.toInt = -2147483648 := by decide
    have hmax : Int32.maxValue.toInt = 2147483647 := by decide
    omega
  by_cases hfour : 0 ≤ year ∧ year ≤ 9999
  · have hdigits : (Nat.toDigits 10 year.toNat).length ≤ 4 :=
      (Nat.length_toDigits_le_iff (by decide) (by decide)).2 (by omega)
    have hread := readNumber_padded hdigits (by omega) ('-' :: rest)
    have hyear : (year.toNat : Int) = year := Int.toNat_of_nonneg hfour.1
    rw [yearText, if_pos hfour]
    simp only [readYear, StateT.run_bind, run_skipBlank, skipBlanks_padded, except_ok_bind,
      StateT.run_get, pure_bind]
    -- the first digit is no sign
    split
    case h_1 cs hcs => exact absurd (isDigit_of_padded hcs) (by decide)
    case h_2 cs hcs => exact absurd (isDigit_of_padded hcs) (by decide)
    case h_3 =>
      simp only [StateT.run_bind, hread, except_ok_bind, hyear, hrange, and_self, if_true]
      rfl
  · have hread := readNumber_run (padded_ne_nil 4 year.natAbs) (fun _ => isDigit_of_mem_padded)
      (digitsValue_padded_le (by omega)) ('-' :: rest) (.inr ⟨rfl, rfl⟩)
    rw [digitsValue_padded] at hread
    rw [yearText, if_neg hfour]
    by_cases hneg : year < 0
    · have hyear : -(year.natAbs : Int) = year := by omega
      simp only [hneg, if_true, readYear, StateT.run_bind, run_skipBlank, List.cons_append,
        skipBlanks_cons '-' (by decide), except_ok_bind, StateT.run_get, pure_bind,
        StateT.run_set, hread, hyear, hrange, and_self]
      rfl
    · have hyear : (year.natAbs : Int) = year := by omega
      simp only [hneg, if_false, readYear, StateT.run_bind, run_skipBlank, List.cons_append,
        skipBlanks_cons '+' (by decide), except_ok_bind, StateT.run_get, pure_bind,
        StateT.run_set, hread, hyear, hrange, and_self, if_true]
      rfl

/-! ## The whole text -/

/-- The instant without the fraction of its second; a leap second stays one. -/
def cut (t : Instant) : Instant where
  date := t.date
  hour := t.hour
  minute := t.minute
  second := t.second
  nanos := t.nanos / 1000000000 * 1000000000
  hour_range := t.hour_range
  minute_range := t.minute_range
  second_range := t.second_range
  nanos_range := by
    have := t.nanos_range
    omega

theorem text_cut (t : Instant) : t.cut.text = t.text := by
  have hnanos : t.cut.nanos / 1000000000 = t.nanos / 1000000000 :=
    Nat.mul_div_cancel _ (by decide)
  rw [text, text, hnanos]
  rfl

theorem ofParts?_date (d : Date) : Date.ofParts? d.year d.month d.day = some d :=
  dif_pos ⟨d.month_range, d.day_range, d.year_range⟩

/-- A clock that shows UTC shows the moment. -/
theorem ofLocal?_utc (t : Instant) :
    ofLocal? t.date t.hour t.minute t.second t.nanos 0 = some t := by
  have hhour := t.hour_range
  have hminute := t.minute_range
  have hbefore : ¬ ((t.hour * 60 + t.minute - 0 : Int) < 0) := by omega
  have hafter : ¬ (1440 ≤ (t.hour * 60 + t.minute - 0 : Int)) := by omega
  have hofDay : ((t.hour * 60 + t.minute - 0 : Int) % 1440).toNat = t.hour * 60 + t.minute := by
    omega
  have hdivHour : (t.hour * 60 + t.minute) / 60 = t.hour := by omega
  have hmodMinute : (t.hour * 60 + t.minute) % 60 = t.minute := by omega
  rw [ofLocal?]
  simp only [hbefore, hafter, if_false, hofDay, hdivHour, hmodMinute,
    dif_pos (And.intro t.second_range t.nanos_range)]
  rfl

theorem daysInMonth_le (year : Int) (month : Nat) : daysInMonth year month ≤ 31 := by
  unfold daysInMonth
  split <;> (try split) <;> omega

theorem writtenSecond_le (t : Instant) : t.second + t.nanos / 1000000000 ≤ 60 := by
  have hsecond := t.second_range
  have hnanos := t.nanos_range
  omega

/-- What is written as second 60 is read as a leap second. -/
theorem readSecond_cut (t : Instant) : (if t.second + t.nanos / 1000000000 = 60 then
    (59, 1000000000 + 0) else (t.second + t.nanos / 1000000000, 0)) =
      (t.cut.second, t.cut.nanos) := by
  have hsecond := t.second_range
  have hnanos := t.nanos_range
  change _ = (t.second, t.nanos / 1000000000 * 1000000000)
  split <;> rw [Prod.mk.injEq] <;> omega

/-- The written form of an instant is read as the instant without the fraction of its second. -/
theorem read_text (t : Instant) : read t.text = .ok t.cut := by
  have hmonth := readPart_padded t.date.month_range (by decide)
  have hday := readPart_padded (And.intro t.date.day_range.1
    (Nat.le_trans t.date.day_range.2 (daysInMonth_le t.date.year t.date.month))) (by decide)
  have hhour := readPart_padded
    (And.intro (Nat.zero_le t.hour) (Nat.le_of_lt_succ t.hour_range)) (by decide)
  have hminute := readPart_padded
    (And.intro (Nat.zero_le t.minute) (Nat.le_of_lt_succ t.minute_range)) (by decide)
  have hsecond := readPart_padded
    (And.intro (Nat.zero_le (t.second + t.nanos / 1000000000)) t.writtenSecond_le) (by decide)
  have hfraction : readFraction.run ['Z'] = .ok (0, ['Z']) := rfl
  have hzone : readZone.run ['Z'] = .ok (0, []) := rfl
  have hblank : skipBlank.run ['Z'] = .ok ((), ['Z']) := rfl
  have hend : skipBlank.run [] = .ok ((), []) := rfl
  have hutc : ofLocal? t.date t.hour t.minute t.cut.second t.cut.nanos 0 = some t.cut :=
    ofLocal?_utc t.cut
  rw [read, StateT.run'_eq, text, String.toList_ofList]
  simp only [List.append_assoc, List.cons_append]
  rw [readAll, StateT.run_bind, readYear_yearText t.date.year_range, except_ok_bind]
  simp only [StateT.run_bind, except_ok_bind, readMark_cons '-' (by decide), hmonth, hday,
    readOneOf_cons ['t', 'T', ' '] 'T' (by decide), hhour,
    readMark_cons ':' (by decide), hminute, hsecond, hfraction, hblank, hzone, hend,
    StateT.run_get, pure_bind, ofParts?_date, readSecond_cut, hutc]
  rfl

end Instant

end ClassReconciler
