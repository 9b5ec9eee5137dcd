import ClassReconciler.Decimal.Quick
import ClassReconciler.Reconcile.Outcome
import ClassReconciler.SortedMap
import ClassReconciler.Time.Duration

/-!
# Metrics

Reconciles are counted by outcome, failed ones by error too, and their durations go into a
histogram whose bounds double. `Metrics.lines` is the text exposition of all of it.
-/

namespace ClassReconciler

/-- A duration in seconds, each of its parts rounded and then their sum. -/
def Duration.inSeconds (d : Duration) : Binary64 :=
  (Binary64.ofNat d.secs).add ((Binary64.nearest? false d.nanos nanosPerSecond).getD (.zero false))

/-! ## Histograms -/

/-- The bounds of the buckets in seconds: 0.005 doubled twelve times. -/
def bucketBounds : List Binary64 :=
  (List.range 13).map fun k => (Binary64.nearest? false (5 <<< k) 1000).getD (.zero false)

/-- Observations by bucket, the last of which has no bound, and their sum. -/
structure Histogram where
  buckets : List Nat
  count : Nat
  sum : Binary64

namespace Histogram

def empty : Histogram where
  buckets := List.replicate (bucketBounds.length + 1) 0
  count := 0
  sum := .zero false

/-- The position of the first bound that is not below a value. -/
def bucketOf (x : Binary64) : Nat := bucketBounds.findIdx (x.le ·)

def observe (h : Histogram) (x : Binary64) : Histogram where
  buckets := h.buckets.modify (bucketOf x) (· + 1)
  count := h.count + 1
  sum := h.sum.add x

/-- The observations in the buckets up to a position. -/
def upTo (h : Histogram) (i : Nat) : Nat := (h.buckets.take (i + 1)).foldl (· + ·) 0

/-- Every bound with the number of observations up to it. -/
def cumulative (h : Histogram) : List (Binary64 × Nat) :=
  bucketBounds.zipIdx.map fun (bound, i) => (bound, h.upTo i)

/-- The observations in all buckets, the one without a bound included. -/
def total (h : Histogram) : Nat := h.upTo bucketBounds.length

end Histogram

/-! ## Metrics -/

/-- What has been counted so far. -/
structure Metrics where
  outcomes : SortedMap String Nat := .empty
  errors : SortedMap String Nat := .empty
  durations : Histogram := .empty

namespace Metrics

def increment (counters : SortedMap String Nat) (label : String) : SortedMap String Nat :=
  counters.insert label ((counters.find? label).getD 0 + 1)

/-- Records a finished reconcile and how long it took. -/
def observe (m : Metrics) (result : ReconcileResult) (elapsed : Duration) : Metrics :=
  let durations := m.durations.observe elapsed.inSeconds
  match result with
  | .ok outcome => { m with durations, outcomes := increment m.outcomes outcome.label }
  | .error e =>
    { durations
      outcomes := increment m.outcomes "error"
      errors := increment m.errors e.label }

/-! ## Exposition -/

/-- Numbers are quick decimals, written positionally from `0.000001` up to 21 digits before
the point. -/
def numberStyle : NumberStyle := ⟨-6, 21, false⟩

def sampleText (name label value : String) (count : Nat) : String :=
  name ++ "\x7b" ++ label ++ "=\"" ++ value ++ "\"\x7d " ++ toString count

def counterLines (name label : String) (counters : SortedMap String Nat) : List String :=
  counters.entries.map fun (value, n) => sampleText name label value n

def outcomeName : String := "namespace_class_reconcile_total"

def errorName : String := "namespace_class_reconcile_errors_total"

def durationName : String := "namespace_class_reconcile_duration_seconds"

/-- A line of a bucket, which is labelled with its bound. -/
def bucketText (bound : String) (count : Nat) : String :=
  sampleText (durationName ++ "_bucket") "le" bound count

def countText (count : Nat) : String := durationName ++ "_count " ++ toString count

/-- The lines that say what the numbers are. -/
def descriptions : List String := [
  "# EOF",
  "# HELP namespace_class_reconcile Total number of reconciles by outcome.",
  "# HELP " ++ durationName ++ " Histogram of reconcile latency.",
  "# HELP namespace_class_reconcile_errors Total number of failed reconciles by error.",
  "# TYPE namespace_class_reconcile counter",
  "# TYPE " ++ durationName ++ " histogram",
  "# TYPE namespace_class_reconcile_errors counter",
  "# UNIT " ++ durationName ++ " seconds"]

def bucketLines (h : Histogram) : List String :=
  (h.cumulative.map fun (bound, n) => bucketText (bound.quickText numberStyle) n) ++
    [bucketText "+Inf" h.total]

def sumText (h : Histogram) : String := durationName ++ "_sum " ++ h.sum.quickText numberStyle

/-- The lines of the text exposition, in ascending order. -/
def lines (m : Metrics) : List String :=
  let all := descriptions ++ bucketLines m.durations ++
    [countText m.durations.count, sumText m.durations] ++
    counterLines outcomeName "outcome" m.outcomes ++ counterLines errorName "error" m.errors
  all.mergeSort (fun a b => a ≤ b)

end Metrics

end ClassReconciler
