import ClassReconciler.Reconcile.Key
import ClassReconciler.Time.Duration

/-!
# Retries

A key that fails is tried again after a delay that doubles with every failure in a row, from
a shortest to a longest one. Failures are counted per key, and a success forgets them.
-/

namespace ClassReconciler

/-- The shortest and the longest delay. -/
structure Backoff where
  shortest : Duration
  longest : Duration

namespace Backoff

/-- The factor of a failure: twice the one before, up to the largest word of 32 bits. -/
def factor (failures : Nat) : Nat :=
  if failures - 1 < 32 then Nat.pow 2 (failures - 1) else UInt32.size - 1

/-- The delay after a number of failures in a row. -/
def delay (b : Backoff) (failures : Nat) : Duration :=
  (b.shortest.saturatingTimes (factor failures)).shorter b.longest

end Backoff

/-- The failures in a row of every key that has some. -/
structure Retries where
  backoff : Backoff
  failures : SortedMap Key Nat := .empty

namespace Retries

/-- Failures are counted in a word of 32 bits. -/
def mostFailures : Nat := UInt32.size - 1

def count (r : Retries) (key : Key) : Nat := (r.failures.find? key).getD 0

/-- Counts a failure of a key; gives the count and the delay before the next attempt. -/
def fail (r : Retries) (key : Key) : (Nat × Duration) × Retries :=
  let n := min (r.count key + 1) mostFailures
  ((n, r.backoff.delay n), { r with failures := r.failures.insert key n })

/-- Forgets the failures of a key. -/
def reset (r : Retries) (key : Key) : Retries := { r with failures := r.failures.erase key }

end Retries

end ClassReconciler
