import ClassReconciler.Api.Exchange
import ClassReconciler.Controller.Controller
import ClassReconciler.Json.Reader
import ClassReconciler.Json.Printer

/-!
# The relay

The controllers reach the cluster through a process beside them that holds the connection.
The two exchange lines of JSON: the relay names the objects that changed, the controllers
write a request and read the reply from the next line, and at the end of a reconcile they
write when the object is to be looked at again.
-/

namespace ClassReconciler

/-- The key of a changed object, from its kind and name. -/
def Key.ofLine? (line : String) : Option Key := do
  let v ← Json.ofText? line
  let name ← (← v.get? "name").asString?
  match ← (← v.get? "kind").asString? with
  | "Namespace" => some (.ofNamespace name)
  | "NamespaceClass" => some (.ofClass name)
  | _ => none

/-- A request with the milliseconds that it may take. -/
def Request.line (r : Request) (limit : Option Nat) : String :=
  (Encode.record [
    ("method", some (.str r.method.text)),
    ("uri", some (.str r.uri)),
    ("contentType", r.contentType?.map .str),
    ("body", r.body),
    ("limitMs", limit.map fun ms => .int ms)]).text

/-- A reply: a status and a body, or that the time ran out. All else is a lost connection. -/
def Reply.ofLine (line : String) : Reply :=
  match Json.ofText? line with
  | none => .disconnected
  | some v =>
    match v.get? "status", v.get? "timedOut" with
    | some (.int status), _ => .answered status.toNat ((v.get? "body").map Json.document)
    | _, some (.bool true) => .timedOut
    | _, _ => .disconnected

/-- The end of a reconcile: how it went, and after how long it is tried again. -/
def ReconcileResult.line (key : Key) (result : ReconcileResult) (next : NextAttempt) : String :=
  let outcome : String × String :=
    match result with
    | .ok o => ("outcome", o.label)
    | .error e => ("error", e.message)
  let delay : Option Json :=
    match next with
    | .awaitChange => none
    | .requeue d => some (.str d.text)
  (Encode.record [
    ("key", some (.str key.text)), (outcome.1, some (.str outcome.2)), ("retryAfter", delay)]).text

end ClassReconciler
