import ClassReconciler.Api.Events
import ClassReconciler.Json.Transfer

/-!
# Scripted servers

A server that gives replies from a list, one for each request, while a clock of its own goes
on. A request that would be answered after its time limit runs out at the limit; one that
finds the list empty loses its connection. The log of the requests shows their bodies as they
arrived, and of those about events a summary (`Request.logged`).
-/

namespace ClassReconciler

/-- The request as it arrives. -/
def Request.arrived (r : Request) : Request := { r with body := r.body.bind Json.reread? }

/-- The request as a log shows it. -/
def Request.logged (r : Request) : Request :=
  let r := r.arrived
  if r.isAboutEvents then { r with body := some (Event.summary (r.body.getD .null)) } else r

/-- A reply and how long it takes to come, in milliseconds. -/
structure ScriptedReply where
  status : Nat
  body : Option Document
  delay : Nat

/-- The replies that are left, the requests so far, and the time. -/
structure ScriptedServer where
  replies : List ScriptedReply
  requests : List Request := []
  now : Nat := 0

namespace ScriptedServer

/-- Answers a request. One that has no time at all is not even sent. -/
def reply (s : ScriptedServer) (r : Request) (limit : Option Nat) : Reply × ScriptedServer :=
  if limit = some 0 then (.timedOut, s)
  else
    let s := { s with requests := s.requests ++ [r] }
    match s.replies with
    | [] => (.disconnected, s)
    | first :: rest =>
      let s := { s with replies := rest }
      if limit.any (· < first.delay) then
        (.timedOut, { s with now := s.now + limit.getD 0 })
      else
        (.answered first.status first.body, { s with now := s.now + first.delay })

/-- The log of the requests so far. -/
def log (s : ScriptedServer) : List Request := s.requests.map Request.logged

/-- Runs an exchange against the server. -/
def run (s : ScriptedServer) : Exchange α → α × ScriptedServer
  | .done a => (a, s)
  | .ask (.send r limit) next =>
    let (reply, s) := s.reply r limit
    run s (next reply)
  | .ask (.wait ms) next => run { s with now := s.now + ms } (next ())
  | .ask .clock next => run s (next s.now)

end ScriptedServer

/-- What an exchange gives where no connection can be made. -/
def Exchange.runUnconnected (now : Nat) : Exchange α → α
  | .done a => a
  | .ask (.send ..) next => runUnconnected now (next .disconnected)
  | .ask (.wait ms) next => runUnconnected (now + ms) (next ())
  | .ask .clock next => runUnconnected now (next now)

end ClassReconciler
