import ClassReconciler.Controller.Controller

/-!
# The controller's log

The event that is logged when the work on an object has ended. Failures of the reconciler
are logged elsewhere.
-/

namespace ClassReconciler

inductive LogLevel where
  | debug
  | info
  | warn
deriving DecidableEq

def LogLevel.text : LogLevel → String
  | .debug => "DEBUG"
  | .info => "INFO"
  | .warn => "WARN"

/-- A logged event: its level, its message and its named values. -/
structure LogEvent where
  level : LogLevel
  message : String
  values : List (String × String)

/-- How the work on an object ended. -/
inductive WorkResult where
  | finished (next : NextAttempt)
  | objectNotFound
  | reconcilerFailed
  | queueFailed

def NextAttempt.text : NextAttempt → String
  | .awaitChange => "Action \x7b requeue_after: None \x7d"
  | .requeue delay => "Action \x7b requeue_after: Some(" ++ delay.text ++ ") \x7d"

/-- The event of the end of the work on an object of a kind and name. -/
def WorkResult.event? (kind : KeyKind) (name : String) : WorkResult → Option LogEvent
  | .finished next => some {
      level := .debug
      message := "Reconcile finished"
      values := [("kind", kind.text), ("name", name), ("action", next.text)] }
  | .objectNotFound => some {
      level := .info
      message := "Object deleted before reconcile"
      values := [("kind", kind.text), ("name", name)] }
  | .reconcilerFailed => none
  | .queueFailed => some {
      level := .warn
      message := "Controller error"
      values := [("kind", kind.text), ("error", "event queue error")] }

end ClassReconciler
