import ClassReconciler.Controller.Metrics
import ClassReconciler.Controller.Retry

/-!
# The controller

What happens around a reconcile: while the controller is being shut down nothing is
attempted, a finished reconcile is counted, a success forgets the failures of its key, and a
failure is tried again after a delay.
-/

namespace ClassReconciler

/-- When an object is reconciled again. -/
inductive NextAttempt where
  | awaitChange
  | requeue (delay : Duration)
deriving DecidableEq

/-- The signal that ends reconciles: its value, and whether its owner has gone away. -/
structure ShutdownSignal where
  raised : Bool := false
  dropped : Bool := false

namespace ShutdownSignal

/-- Reconciles are cancelled, also when there is no owner left to raise the signal. -/
def cancels (s : ShutdownSignal) : Bool := s.raised || s.dropped

/-- Sets the value, which only an owner that is still there can do. -/
def set (s : ShutdownSignal) (raised : Bool) : ShutdownSignal :=
  if s.dropped then s else { s with raised }

def drop (s : ShutdownSignal) : ShutdownSignal := { s with dropped := true }

end ShutdownSignal

/-- What the controller keeps from one reconcile to the next. -/
structure Controller where
  retries : Retries
  metrics : Metrics := {}
  shutdown : ShutdownSignal := {}

namespace Controller

/-- What follows a failure. -/
def afterError (c : Controller) (key : Key) (e : ReconcileError) : NextAttempt × Controller :=
  if e.isRetryable then
    let ((_, delay), retries) := c.retries.fail key
    (.requeue delay, { c with retries })
  else (.awaitChange, { c with retries := c.retries.reset key })

/-- What follows a finished reconcile of a key. -/
def finish (c : Controller) (key : Key) (result : ReconcileResult) (elapsed : Duration) :
    NextAttempt × Controller :=
  let c := { c with metrics := c.metrics.observe result elapsed }
  match result with
  | .ok _ => (.awaitChange, { c with retries := c.retries.reset key })
  | .error e => c.afterError key e

end Controller

end ClassReconciler
