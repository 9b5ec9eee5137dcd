import Mathlib.Algebra.GroupWithZero.Nat
import Mathlib.Data.List.Induction
import Mathlib.Data.List.Nodup
import ClassReconciler.Controller.Metrics
import ClassReconciler.Text.Digit
import ClassReconciler.Text.Split

/-!
# Counting observations

What metrics hold after any observations (`Metrics.tells_ofEach`): for each label the number of the
observations that have it (`CountsOf`), and for each bucket the number of those that fall into it
(`Histogram.Tells`). Each observation adds one to one outcome, to one error if it failed, and to one
bucket, so that the totals agree and no order matters.

The bounds ascend, so the first bucket whose bound is not below a duration is among the first
buckets up to some bound exactly if the duration is at most that bound
(`Histogram.bucketOf_le_iff`); this makes a cumulative count the number of the durations up to a
bound. In the exposition the lines of different samples start differently
(`Metrics.mem_lines_of_starts`), and a line states its label and its number
(`Metrics.eq_of_sampleText`).
-/

namespace ClassReconciler

/-- A finished reconcile, and how long it took. -/
structure Observation where
  result : ReconcileResult
  elapsed : Duration

namespace Observation

/-- The outcome that is counted. All failures have one. -/
def outcome (o : Observation) : String :=
  match o.result with
  | .ok a => a.label
  | .error _ => "error"

/-- The error that is counted, if the reconcile failed. -/
def error? (o : Observation) : Option String :=
  match o.result with
  | .ok _ => none
  | .error e => some e.label

def failed (o : Observation) : Bool := o.error?.isSome

/-- The reconcile took no longer than a bound in seconds. -/
def isWithin (bound : Binary64) (o : Observation) : Bool := o.elapsed.inSeconds.le bound

/-- No reconcile that went well counts as an error. -/
theorem outcome_eq_error_iff {o : Observation} : o.outcome = "error" ↔ o.failed = true := by
  obtain ⟨result, elapsed⟩ := o
  cases result with
  | error e => exact ⟨fun _ => rfl, fun _ => rfl⟩
  | ok a =>
    have hlabel : a.label ≠ "error" := by cases a <;> simp [Outcome.label]
    exact ⟨fun h => absurd h hlabel, nofun⟩

end Observation

/-! ## Counters -/

theorem sum_map_snd_insertEntry (k : String) (n : Nat) {entries : List (String × Nat)}
    (h : Ascending entries) : ((insertEntry k n entries).map Prod.snd).sum +
      (findEntry k entries).getD 0 = (entries.map Prod.snd).sum + n := by
  induction entries with
  | nil => simp [insertEntry, findEntry]
  | cons e rest ih =>
    obtain ⟨k', n'⟩ := e
    obtain ⟨hhead, htail⟩ := List.pairwise_cons.1 h
    rw [insertEntry]
    cases hc : compare k k' with
    | lt =>
      have hnone : findEntry k ((k', n') :: rest) = none := findEntry_eq_none_of_lt fun e he => by
        rcases List.mem_cons.1 he with rfl | he
        · exact hc
        · exact Std.TransCmp.lt_trans hc (hhead e he)
      rw [hnone]
      simp only [List.map_cons, List.sum_cons, Option.getD_none]
      omega
    | eq =>
      obtain rfl := Std.LawfulEqCmp.compare_eq_iff_eq.1 hc
      simp only [findEntry, if_true, List.map_cons, List.sum_cons, Option.getD_some]
      omega
    | gt =>
      have hne : k ≠ k' := fun heq => by simp [heq] at hc
      have := ih htail
      simp only [findEntry, hne, if_false, List.map_cons, List.sum_cons]
      omega

/-- Counters that hold for each label how often it occurs, and nothing for other labels. -/
structure CountsOf (counters : SortedMap String Nat) (labels : List String) : Prop where
  find? : ∀ label, counters.find? label =
    if label ∈ labels then some (labels.count label) else none
  sum : counters.values.sum = labels.length

namespace CountsOf

variable {counters counters' : SortedMap String Nat} {labels labels' : List String}

theorem empty : CountsOf .empty [] where
  find? _ := by simp
  sum := rfl

theorem getD_find? (h : CountsOf counters labels) (label : String) :
    (counters.find? label).getD 0 = labels.count label := by
  rw [h.find?]
  split
  case isTrue => rfl
  case isFalse hnot => exact (List.count_eq_zero.2 hnot).symm

theorem find?_eq_some_iff (h : CountsOf counters labels) {label : String} {n : Nat} :
    counters.find? label = some n ↔ n = labels.count label ∧ 0 < n := by
  rw [h.find?]
  by_cases hmem : label ∈ labels
  · have := List.count_pos_iff.2 hmem
    rw [if_pos hmem, Option.some.injEq]
    exact ⟨fun heq => ⟨heq.symm, heq ▸ this⟩, fun heq => heq.1.symm⟩
  · have := List.count_eq_zero.2 hmem
    simp only [hmem, if_false, reduceCtorEq, false_iff, not_and]
    omega

theorem increment (h : CountsOf counters labels) (label : String) :
    CountsOf (Metrics.increment counters label) (labels ++ [label]) where
  find? label' := by
    rw [Metrics.increment, SortedMap.find?_insert, h.getD_find?]
    by_cases heq : label' = label
    · simp [heq]
    · simp [heq, Ne.symm heq, h.find?]
  sum := by
    have hsum : (Metrics.increment counters label).values.sum + (counters.find? label).getD 0 =
        counters.values.sum + ((counters.find? label).getD 0 + 1) :=
      sum_map_snd_insertEntry label _ counters.ascending
    have := h.sum
    simp only [List.length_append, List.length_singleton]
    omega

/-- The order of the labels does not matter. -/
theorem eq_of_perm (h : CountsOf counters labels) (h' : CountsOf counters' labels')
    (hperm : labels.Perm labels') : counters = counters' :=
  SortedMap.ext_find? fun label => by simp only [h.find?, h'.find?, hperm.count_eq, hperm.mem_iff]

end CountsOf

/-! ## Buckets -/

theorem pairwise_bucketBounds : bucketBounds.Pairwise fun b b' => b.units < b'.units := by
  decide +kernel

theorem countP_lt_succ {α : Type} (f : α → Nat) (xs : List α) (n : Nat) :
    xs.countP (f · < n) + xs.countP (f · = n) = xs.countP (f · < n + 1) := by
  induction xs with
  | nil => rfl
  | cons x rest ih =>
    simp only [List.countP_cons, decide_eq_true_eq]
    rcases Nat.lt_trichotomy (f x) n with h | h | h
    · rw [if_pos h, if_neg (Nat.ne_of_lt h), if_pos (Nat.lt_succ_of_lt h)]
      omega
    · rw [if_neg (by omega), if_pos h, if_pos (by omega)]
      omega
    · rw [if_neg (by omega), if_neg (by omega), if_neg (by omega)]
      omega

/-- The buckets before some bucket hold the values that fall into one of them. -/
theorem foldl_map_countP {α : Type} (f : α → Nat) (xs : List α) (n : Nat) :
    ((List.range n).map fun i => xs.countP (f · = i)).foldl (· + ·) 0 =
      xs.countP (f · < n) := by
  induction n with
  | zero => simp
  | succ n ih =>
    rw [List.range_succ, List.map_append, List.foldl_append, ih, List.map_singleton,
      List.foldl_cons, List.foldl_nil, countP_lt_succ]

namespace Histogram

variable {h h' : Histogram} {xs xs' : List Binary64}

/-- A value falls into one of the first buckets up to a bound if it is at most that bound. -/
theorem bucketOf_le_iff {i : Nat} {b : Binary64} (hb : bucketBounds[i]? = some b) (x : Binary64) :
    bucketOf x ≤ i ↔ x.le b = true := by
  obtain ⟨hi, rfl⟩ := List.getElem?_eq_some_iff.1 hb
  constructor
  · intro hle
    have hlt : bucketOf x < bucketBounds.length := Nat.lt_of_le_of_lt hle hi
    have hfirst : x.le bucketBounds[bucketOf x] = true := List.findIdx_getElem (w := hlt)
    rcases Nat.lt_or_eq_of_le hle with hbelow | heq
    · -- a later bound is greater
      have hbound := List.pairwise_iff_getElem.1 pairwise_bucketBounds _ _ hlt hi hbelow
      simp only [Binary64.le, decide_eq_true_eq] at hfirst ⊢
      omega
    · simpa only [heq] using hfirst
  · intro hx
    refine Nat.le_of_not_lt fun hlt => ?_
    have hnot : x.le bucketBounds[i] = false := List.not_of_lt_findIdx hlt
    rw [hx] at hnot
    cases hnot

/-- Every value falls into one of the buckets. -/
theorem bucketOf_le_length (x : Binary64) : bucketOf x ≤ bucketBounds.length :=
  List.findIdx_le_length

/-- The histogram of some values. -/
structure Tells (h : Histogram) (xs : List Binary64) : Prop where
  buckets : h.buckets =
    (List.range (bucketBounds.length + 1)).map fun i => xs.countP (bucketOf · = i)
  count : h.count = xs.length

theorem tells_empty : empty.Tells [] where
  buckets := rfl
  count := rfl

theorem Tells.observe (hh : h.Tells xs) (x : Binary64) : (h.observe x).Tells (xs ++ [x]) where
  buckets := by
    refine List.ext_getElem? fun i => ?_
    rw [Histogram.observe, hh.buckets, List.getElem?_modify, List.getElem?_map, List.getElem?_map]
    by_cases hi : i < bucketBounds.length + 1
    · rw [List.getElem?_range hi]
      by_cases hx : bucketOf x = i <;> simp [List.countP_append, hx]
    · rw [List.getElem?_eq_none (by simpa using Nat.le_of_not_lt hi)]
      rfl
  count := by
    rw [Histogram.observe, hh.count, List.length_append, List.length_singleton]

theorem Tells.upTo (hh : h.Tells xs) {i : Nat} (hi : i ≤ bucketBounds.length) :
    h.upTo i = xs.countP (bucketOf · ≤ i) := by
  rw [Histogram.upTo, hh.buckets, ← List.map_take, List.take_range,
    Nat.min_eq_left (Nat.succ_le_succ hi), foldl_map_countP]
  simp only [Nat.lt_succ_iff]

/-- All buckets together hold all values. -/
theorem Tells.total (hh : h.Tells xs) : h.total = xs.length := by
  rw [Histogram.total, hh.upTo (Nat.le_refl _), List.countP_eq_length]
  exact fun x _ => decide_eq_true (bucketOf_le_length x)

theorem mem_cumulative {b : Binary64} {n : Nat} :
    (b, n) ∈ h.cumulative ↔ ∃ i, bucketBounds[i]? = some b ∧ h.upTo i = n := by
  simp only [cumulative, List.mem_map, Prod.exists, Prod.mk.injEq, List.mem_zipIdx_iff_getElem?]
  constructor
  · rintro ⟨b', i, hb, rfl, hn⟩
    exact ⟨i, hb, hn⟩
  · rintro ⟨i, hb, hn⟩
    exact ⟨b, i, hb, rfl, hn⟩

/-- The number with a bound is that of the values up to it. -/
theorem Tells.mem_cumulative (hh : h.Tells xs) {b : Binary64} {n : Nat} :
    (b, n) ∈ h.cumulative ↔ b ∈ bucketBounds ∧ n = xs.countP (·.le b) := by
  have hcount : ∀ i, bucketBounds[i]? = some b → h.upTo i = xs.countP (·.le b) := by
    intro i hb
    obtain ⟨hi, -⟩ := List.getElem?_eq_some_iff.1 hb
    rw [hh.upTo (Nat.le_of_lt hi)]
    refine List.countP_congr fun x _ => ?_
    rw [decide_eq_true_eq, bucketOf_le_iff hb]
  rw [Histogram.mem_cumulative]
  constructor
  · rintro ⟨i, hb, rfl⟩
    exact ⟨List.mem_of_getElem? hb, hcount i hb⟩
  · rintro ⟨hmem, rfl⟩
    obtain ⟨i, hb⟩ := List.getElem?_of_mem hmem
    exact ⟨i, hb, hcount i hb⟩

theorem Tells.buckets_of_perm (hh : h.Tells xs) (hh' : h'.Tells xs') (hperm : xs.Perm xs') :
    h.buckets = h'.buckets := by
  rw [hh.buckets, hh'.buckets]
  exact List.map_congr_left fun i _ => hperm.countP_eq _

end Histogram

/-! ## Metrics -/

namespace Metrics

/-- The metrics after some observations, one after the other. -/
def ofEach (os : List Observation) : Metrics :=
  os.foldl (fun m o => m.observe o.result o.elapsed) {}

theorem ofEach_append_singleton (os : List Observation) (o : Observation) :
    ofEach (os ++ [o]) = (ofEach os).observe o.result o.elapsed := by
  rw [ofEach, List.foldl_append, ← ofEach, List.foldl_cons, List.foldl_nil]

/-- The metrics hold what was observed. -/
structure Tells (m : Metrics) (os : List Observation) : Prop where
  outcomes : CountsOf m.outcomes (os.map (·.outcome))
  errors : CountsOf m.errors (os.filterMap (·.error?))
  durations : m.durations.Tells (os.map (·.elapsed.inSeconds))

variable {m : Metrics} {os : List Observation}

theorem Tells.observe (hm : m.Tells os) (o : Observation) :
    (m.observe o.result o.elapsed).Tells (os ++ [o]) := by
  have hdurations := hm.durations.observe o.elapsed.inSeconds
  rw [← List.map_singleton (f := fun o : Observation => o.elapsed.inSeconds),
    ← List.map_append] at hdurations
  obtain ⟨result, elapsed⟩ := o
  cases result with
  | ok a =>
    refine ⟨?_, ?_, hdurations⟩
    · rw [List.map_append]
      exact hm.outcomes.increment a.label
    · rw [List.filterMap_append]
      exact (List.append_nil _).symm ▸ hm.errors
  | error e =>
    refine ⟨?_, ?_, hdurations⟩
    · rw [List.map_append]
      exact hm.outcomes.increment "error"
    · rw [List.filterMap_append]
      exact hm.errors.increment e.label

theorem tells_ofEach (os : List Observation) : (ofEach os).Tells os := by
  -- Observations are added at the end, so the induction takes the last one off.
  induction os using List.reverseRecOn with
  | nil => exact ⟨CountsOf.empty, CountsOf.empty, Histogram.tells_empty⟩
  | append_singleton os o ih =>
    rw [ofEach_append_singleton]
    exact ih.observe o

/-! ## The exposition -/

theorem toString_injective {n n' : Nat} (h : toString n = toString n') : n = n' := by
  have hdigits : Nat.toDigits 10 n = Nat.toDigits 10 n' := by
    simpa [Nat.repr] using congrArg String.toList h
  rw [← digitsValue_toDigits n, hdigits, digitsValue_toDigits]

/-- What stands before and after the last mark of a text. -/
theorem append_mark_inj {mark : Char} {before after before' after' : List Char}
    (hafter : mark ∉ after) (hafter' : mark ∉ after')
    (h : before ++ mark :: after = before' ++ mark :: after') :
    before = before' ∧ after = after' := by
  have hsplit : ∀ a b : List Char, mark ∉ b →
      splitFirst mark (a ++ mark :: b).reverse = some (b.reverse, a.reverse) := fun a b hb =>
    splitFirst_eq_some.2 ⟨by simp, by simpa using hb⟩
  have heq := hsplit before after hafter
  rw [h, hsplit before' after' hafter'] at heq
  obtain ⟨hb, ha⟩ := Prod.mk.inj (Option.some.inj heq)
  exact ⟨(List.reverse_inj.1 ha).symm, (List.reverse_inj.1 hb).symm⟩

/-- A line states its label and its number. -/
theorem eq_of_sampleText {name label value value' : String} {n n' : Nat}
    (h : sampleText name label value n = sampleText name label value' n') :
    value = value' ∧ n = n' := by
  -- the last quotation mark ends the label
  have hchars : value.toList ++ '"' :: ('\x7d' :: ' ' :: (toString n).toList) =
      value'.toList ++ '"' :: ('\x7d' :: ' ' :: (toString n').toList) := by
    simpa [sampleText] using congrArg String.toList h
  have hnot : ∀ k : Nat, '"' ∉ '\x7d' :: ' ' :: (toString k).toList := by
    intro k hmem
    have hdigit : '"' ∈ Nat.toDigits 10 k := by simpa [Nat.repr] using hmem
    exact absurd (Nat.isDigit_of_mem_toDigits (by decide) (by decide) hdigit) (by decide)
  obtain ⟨hvalue, hnumber⟩ := append_mark_inj (hnot n) (hnot n') hchars
  simp only [List.cons.injEq, true_and] at hnumber
  exact ⟨String.toList_injective hvalue, toString_injective (String.toList_injective hnumber)⟩

/-- The lines with numbers, by what they start with. -/
def families (m : Metrics) : List (String × List String) := [
  (outcomeName, counterLines outcomeName "outcome" m.outcomes),
  (errorName, counterLines errorName "error" m.errors),
  (durationName ++ "_bucket", bucketLines m.durations),
  (durationName ++ "_count", [countText m.durations.count]),
  (durationName ++ "_sum", [sumText m.durations])]

theorem mem_lines {line : String} :
    line ∈ m.lines ↔ line ∈ descriptions ∨ ∃ f ∈ m.families, line ∈ f.2 := by
  simp only [lines, List.mem_mergeSort, List.mem_append, families, List.mem_cons, List.not_mem_nil,
    or_false, exists_eq_or_imp, exists_eq_left]
  tauto

theorem starts_sampleText (name label value : String) (n : Nat) :
    name.toList <+: (sampleText name label value n).toList := by
  simp [sampleText]

theorem starts_of_mem_counterLines {name label line : String} {counters : SortedMap String Nat}
    (h : line ∈ counterLines name label counters) : name.toList <+: line.toList := by
  obtain ⟨e, -, rfl⟩ := List.mem_map.1 h
  exact starts_sampleText name label e.1 e.2

theorem starts_of_mem_families {f : String × List String} (hf : f ∈ m.families) {line : String}
    (hline : line ∈ f.2) : f.1.toList <+: line.toList := by
  simp only [families, List.mem_cons, List.not_mem_nil, or_false] at hf
  obtain rfl | rfl | rfl | rfl | rfl := hf
  · exact starts_of_mem_counterLines hline
  · exact starts_of_mem_counterLines hline
  · rcases List.mem_append.1 hline with hline | hline
    · obtain ⟨e, -, rfl⟩ := List.mem_map.1 hline
      exact starts_sampleText _ _ _ _
    · rw [List.mem_singleton.1 hline]
      exact starts_sampleText _ _ _ _
  · rw [List.mem_singleton.1 hline]
    simp [countText]
  · rw [List.mem_singleton.1 hline]
    simp [sumText]

/-- What the lines with numbers start with. -/
def sampleNames : List String := [outcomeName, errorName, durationName ++ "_bucket",
  durationName ++ "_count", durationName ++ "_sum"]

theorem map_fst_families (m : Metrics) : m.families.map Prod.fst = sampleNames := rfl

theorem not_starts_description : ∀ name ∈ sampleNames, ∀ line ∈ descriptions,
    ¬ name.toList <+: line.toList := by decide +kernel

theorem eq_of_starts : ∀ name ∈ sampleNames, ∀ name' ∈ sampleNames,
    name.toList <+: name'.toList → name = name' := by decide

/-- No line starts as those of another family, or as a description. -/
theorem mem_lines_of_starts {name line : String} {family : List String}
    (hfamily : (name, family) ∈ m.families) (hstarts : name.toList <+: line.toList) :
    line ∈ m.lines ↔ line ∈ family := by
  have hname : name ∈ sampleNames := List.mem_map_of_mem (f := Prod.fst) hfamily
  rw [mem_lines]
  constructor
  · rintro (hline | ⟨f, hf, hline⟩)
    · exact absurd hstarts (not_starts_description name hname line hline)
    · have hname' : f.1 ∈ sampleNames := List.mem_map_of_mem (f := Prod.fst) hf
      have heq : f.1 = name := by
        rcases List.prefix_or_prefix_of_prefix hstarts (starts_of_mem_families hf hline) with h | h
        · exact (eq_of_starts name hname f.1 hname' h).symm
        · exact eq_of_starts f.1 hname' name hname h
      have hnodup : (m.families.map Prod.fst).Nodup := by
        rw [map_fst_families]
        decide
      rwa [List.inj_on_of_nodup_map hnodup hf hfamily heq] at hline
  · exact fun hline => .inr ⟨_, hfamily, hline⟩

theorem mem_counterLines {name label value : String} {n : Nat} {counters : SortedMap String Nat} :
    sampleText name label value n ∈ counterLines name label counters ↔
      counters.find? value = some n := by
  rw [← SortedMap.mem_entries_iff, counterLines, List.mem_map]
  constructor
  · rintro ⟨⟨value', n'⟩, hmem, heq⟩
    obtain ⟨rfl, rfl⟩ := eq_of_sampleText heq
    exact hmem
  · exact fun hmem => ⟨_, hmem, rfl⟩

theorem outcome_mem_lines {label : String} {n : Nat} :
    sampleText outcomeName "outcome" label n ∈ m.lines ↔ m.outcomes.find? label = some n := by
  rw [mem_lines_of_starts (.head _) (starts_sampleText _ _ _ _), mem_counterLines]

theorem error_mem_lines {label : String} {n : Nat} :
    sampleText errorName "error" label n ∈ m.lines ↔ m.errors.find? label = some n := by
  rw [mem_lines_of_starts (.tail _ (.head _)) (starts_sampleText _ _ _ _), mem_counterLines]

theorem count_mem_lines {n : Nat} : countText n ∈ m.lines ↔ n = m.durations.count := by
  have hstarts : (durationName ++ "_count").toList <+: (countText n).toList := by simp [countText]
  rw [mem_lines_of_starts (.tail _ (.tail _ (.tail _ (.head _)))) hstarts, List.mem_singleton]
  constructor
  · intro heq
    have hchars : (durationName ++ "_count ").toList ++ (toString n).toList =
        (durationName ++ "_count ").toList ++ (toString m.durations.count).toList := by
      rw [← String.toList_append, ← String.toList_append]
      exact congrArg String.toList heq
    exact toString_injective (String.toList_injective (List.append_cancel_left hchars))
  · rintro rfl
    rfl

/-- How the bounds are written. -/
def boundTexts : List String := ["0.005", "0.01", "0.02", "0.04", "0.08", "0.16", "0.32", "0.64",
  "1.28", "2.56", "5.12", "10.24", "20.48"]

theorem map_quickText_bucketBounds :
    bucketBounds.map (·.quickText numberStyle) = boundTexts := by decide +kernel

theorem quickText_eq {k : Nat} {b : Binary64} {text : String} (hb : bucketBounds[k]? = some b)
    (htext : boundTexts[k]? = some text) : b.quickText numberStyle = text := by
  rw [← map_quickText_bucketBounds, List.getElem?_map, hb] at htext
  exact Option.some.inj htext

theorem quickText_injOn {b b' : Binary64} (hb : b ∈ bucketBounds) (hb' : b' ∈ bucketBounds)
    (h : b.quickText numberStyle = b'.quickText numberStyle) : b = b' := by
  have hnodup : (bucketBounds.map (·.quickText numberStyle)).Nodup := by
    rw [map_quickText_bucketBounds]
    decide
  exact List.inj_on_of_nodup_map hnodup hb hb' h

theorem quickText_ne_inf {b : Binary64} (hb : b ∈ bucketBounds) :
    b.quickText numberStyle ≠ "+Inf" := by
  have hnot : "+Inf" ∉ bucketBounds.map (·.quickText numberStyle) := by
    rw [map_quickText_bucketBounds]
    decide
  exact fun heq => hnot (heq ▸ List.mem_map_of_mem hb)

theorem bucket_mem_lines {bound : String} {n : Nat} :
    bucketText bound n ∈ m.lines ↔ bucketText bound n ∈ bucketLines m.durations :=
  mem_lines_of_starts (.tail _ (.tail _ (.head _))) (starts_sampleText _ _ _ _)

theorem bound_mem_lines {b : Binary64} (hb : b ∈ bucketBounds) {n : Nat} :
    bucketText (b.quickText numberStyle) n ∈ m.lines ↔ (b, n) ∈ m.durations.cumulative := by
  rw [bucket_mem_lines, bucketLines, List.mem_append, List.mem_map, List.mem_singleton]
  constructor
  · rintro (⟨⟨b', n'⟩, hmem, heq⟩ | heq)
    · obtain ⟨hbound, rfl⟩ := eq_of_sampleText heq
      obtain ⟨i, hb', -⟩ := Histogram.mem_cumulative.1 hmem
      rwa [← quickText_injOn (List.mem_of_getElem? hb') hb hbound]
    · exact absurd (eq_of_sampleText heq).1 (quickText_ne_inf hb)
  · exact fun hmem => .inl ⟨_, hmem, rfl⟩

theorem inf_mem_lines {n : Nat} : bucketText "+Inf" n ∈ m.lines ↔ n = m.durations.total := by
  rw [bucket_mem_lines, bucketLines, List.mem_append, List.mem_map, List.mem_singleton]
  constructor
  · rintro (⟨⟨b', n'⟩, hmem, heq⟩ | heq)
    · obtain ⟨i, hb', -⟩ := Histogram.mem_cumulative.1 hmem
      exact absurd (eq_of_sampleText heq).1 (quickText_ne_inf (List.mem_of_getElem? hb'))
    · exact (eq_of_sampleText heq).2
  · rintro rfl
    exact .inr rfl

end Metrics

/-! ## Conservation -/

/-- What has been counted after any observations. The outcomes add up to the number of observations,
which is also the count of the durations and their number in all buckets; the errors add up to the
number of failures, which is also that of the outcome `error`. A label has a line exactly if
something was observed with it, with the number of the observations that have it. The line of a
bound states how many reconciles took no longer, so that a greater bound has no smaller number. The
counters and the buckets do not depend on the order of the observations. -/
theorem observations_conserved (os : List Observation) :
    let m := Metrics.ofEach os
    (m.outcomes.values.sum = os.length ∧ m.durations.count = os.length ∧
      m.durations.total = os.length) ∧
    ((m.outcomes.find? "error").getD 0 = os.countP (·.failed) ∧
      m.errors.values.sum = os.countP (·.failed)) ∧
    (∀ label n, Metrics.sampleText Metrics.outcomeName "outcome" label n ∈ m.lines ↔
      n = os.countP (·.outcome = label) ∧ 0 < n) ∧
    (∀ label n, Metrics.sampleText Metrics.errorName "error" label n ∈ m.lines ↔
      n = os.countP (·.error? = some label) ∧ 0 < n) ∧
    ((∀ n, Metrics.bucketText "+Inf" n ∈ m.lines ↔ n = os.length) ∧
      ∀ n, Metrics.countText n ∈ m.lines ↔ n = os.length) ∧
    (∀ (k : Nat) b text n, bucketBounds[k]? = some b → Metrics.boundTexts[k]? = some text →
      (Metrics.bucketText text n ∈ m.lines ↔ n = os.countP (·.isWithin b))) ∧
    (∀ b n b' n', (b, n) ∈ m.durations.cumulative → (b', n') ∈ m.durations.cumulative →
      b.le b' = true → n ≤ n') ∧
    ∀ os', os.Perm os' →
      m.outcomes = (Metrics.ofEach os').outcomes ∧ m.errors = (Metrics.ofEach os').errors ∧
      m.durations.buckets = (Metrics.ofEach os').durations.buckets ∧
      m.durations.count = (Metrics.ofEach os').durations.count := by
  intro m
  have hm : m.Tells os := Metrics.tells_ofEach os
  have hfailed : (os.filterMap (·.error?)).length = os.countP (·.failed) :=
    List.length_filterMap_eq_countP
  have hcount : m.durations.count = os.length := by rw [hm.durations.count, List.length_map]
  have htotal : m.durations.total = os.length := by rw [hm.durations.total, List.length_map]
  have hwithin : ∀ b, (os.map (·.elapsed.inSeconds)).countP (·.le b) = os.countP (·.isWithin b) :=
    fun b => List.countP_map
  refine ⟨⟨?_, hcount, htotal⟩, ⟨?_, ?_⟩, fun label n => ?_, fun label n => ?_,
    ⟨fun n => ?_, fun n => ?_⟩, fun k b text n hb htext => ?_, fun b n b' n' hb hb' hle => ?_,
    fun os' hperm => ?_⟩
  · rw [hm.outcomes.sum, List.length_map]
  · rw [hm.outcomes.getD_find?, List.count, List.countP_map]
    refine List.countP_congr fun o _ => ?_
    rw [Function.comp_apply, beq_iff_eq, Observation.outcome_eq_error_iff]
  · rw [hm.errors.sum, hfailed]
  · rw [Metrics.outcome_mem_lines, hm.outcomes.find?_eq_some_iff, List.count, List.countP_map]
    rfl
  · rw [Metrics.error_mem_lines, hm.errors.find?_eq_some_iff, List.count_filterMap]
    simp only [beq_eq_decide]
  · rw [Metrics.inf_mem_lines, htotal]
  · rw [Metrics.count_mem_lines, hcount]
  · have hmem := List.mem_of_getElem? hb
    rw [← Metrics.quickText_eq hb htext, Metrics.bound_mem_lines hmem, hm.durations.mem_cumulative,
      hwithin]
    exact and_iff_right hmem
  · rw [hm.durations.mem_cumulative] at hb hb'
    rw [hb.2, hb'.2]
    refine List.countP_mono_left fun x _ hx => ?_
    simp only [Binary64.le, decide_eq_true_eq] at hx hle ⊢
    omega
  · have hm' := Metrics.tells_ofEach os'
    refine ⟨hm.outcomes.eq_of_perm hm'.outcomes (hperm.map _),
      hm.errors.eq_of_perm hm'.errors (hperm.filterMap _),
      hm.durations.buckets_of_perm hm'.durations (hperm.map _), ?_⟩
    rw [hm.durations.count, hm'.durations.count, List.length_map, List.length_map,
      hperm.length_eq]

/-- Two reconciles of 5 and 10 milliseconds that found a deleted class, and one that was cancelled
after a minute. -/
theorem observations_conserved_sample :
    let os : List Observation := [⟨.ok .deleted, .ofMillis 5⟩, ⟨.ok .deleted, .ofMillis 10⟩,
      ⟨.error .cancelled, .ofMillis 60000⟩]
    let m := Metrics.ofEach os
    "namespace_class_reconcile_total\x7boutcome=\"deleted\"\x7d 2" ∈ m.lines ∧
    "namespace_class_reconcile_total\x7boutcome=\"error\"\x7d 1" ∈ m.lines ∧
    "namespace_class_reconcile_errors_total\x7berror=\"cancelled\"\x7d 1" ∈ m.lines ∧
    "namespace_class_reconcile_duration_seconds_bucket\x7ble=\"0.005\"\x7d 1" ∈ m.lines ∧
    "namespace_class_reconcile_duration_seconds_bucket\x7ble=\"20.48\"\x7d 2" ∈ m.lines ∧
    "namespace_class_reconcile_duration_seconds_bucket\x7ble=\"+Inf\"\x7d 3" ∈ m.lines ∧
    m.outcomes = (Metrics.ofEach os.reverse).outcomes := by
  intro os m
  obtain ⟨-, -, houtcome, herror, ⟨hinf, -⟩, hbound, -, hperm⟩ := observations_conserved os
  refine ⟨(houtcome "deleted" 2).2 (by decide), (houtcome "error" 1).2 (by decide),
    (herror "cancelled" 1).2 (by decide), ?_, ?_, (hinf 3).2 (by decide),
    (hperm os.reverse (List.reverse_perm os).symm).1⟩
  · exact (hbound 0 bucketBounds[0] "0.005" 1 rfl rfl).2 (by decide +kernel)
  · exact (hbound 12 bucketBounds[12] "20.48" 2 rfl rfl).2 (by decide +kernel)

end ClassReconciler
