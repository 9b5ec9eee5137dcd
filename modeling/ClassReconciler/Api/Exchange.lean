import ClassReconciler.Api.Request
import ClassReconciler.Decode
import ClassReconciler.Dialogue
import ClassReconciler.Store

/-!
# Exchanges with the API server

An `Exchange` is a computation that sends requests, waits, and looks at the clock. Whoever
runs it decides what the server replies. `Exchange.send` reads a reply: a status from 400 to
599 is an error whose code and reason stand in the body, and with any other status the body
must decode as what is wanted.
-/

namespace ClassReconciler

/-- What comes back for a request. The body is none where it is not JSON. -/
inductive Reply where
  | answered (status : Nat) (body : Option Document)
  | disconnected
  | timedOut

/-- What an exchange asks for. Times are in milliseconds. -/
inductive ExchangeStep where
  | send (r : Request) (limit : Option Nat)
  | wait (ms : Nat)
  | clock

def ExchangeStep.Answer : ExchangeStep → Type
  | .send .. => Reply
  | .wait _ => Unit
  | .clock => Nat

/-- A computation that talks with the API server. -/
abbrev Exchange (α : Type) : Type := Dialogue ExchangeStep.Answer α

/-- Why a request was not answered with what was wanted. -/
inductive CallFailure where
  | timedOut
  | request (e : RequestError)
deriving DecidableEq

/-! ## Replies -/

/-- The code and reason that the body of an error states: an object or an array with a
status, a message, a reason and a code, of which message and reason may be missing in an
object. -/
def statedError [Source V] : Decoder V (Nat × String) := fun v => do
  match ← Decode.layer v with
  | .obj fields => do
    Decode.once fields ["status", "message", "reason", "code"]
    let status ← Decode.given Decode.string "status" fields
    let _ ← Decode.given Decode.string "message" fields
    let reason ← Decode.given Decode.string "reason" fields
    let code ← Decode.given Decode.word16 "code" fields
    let _ ← Decode.required "status" status
    let code ← Decode.required "code" code
    pure (code.toNat, reason.getD "")
  | .arr [status, message, reason, code] => do
    let _ ← Decode.string status
    let _ ← Decode.string message
    let reason ← Decode.string reason
    let code ← Decode.word16 code
    pure (code.toNat, reason)
  | .arr items => throw (.invalidLength items.length "struct ErrorResponse with 4 elements")
  | l => throw (.invalidType l.found "struct ErrorResponse")

/-- The error of a reply with an error status. -/
def replyError (status : Nat) (body : Option Document) : RequestError :=
  match body.bind fun d => (statedError d).toOption with
  | some (code, reason) => .answered code reason
  | none => .answered status "Failed to parse error data"

/-- What a reply gives, where its body decodes. -/
def Reply.read (decode : Decoder Document α) : Reply → Except CallFailure α
  | .timedOut => .error .timedOut
  | .disconnected => .error (.request .disconnected)
  | .answered status body =>
    if 400 ≤ status ∧ status < 600 then .error (.request (replyError status body))
    else
      match body.bind fun d => (decode d).toOption with
      | some a => .ok a
      | none => .error (.request .undecodable)

namespace Exchange

def wait (ms : Nat) : Exchange Unit := Dialogue.question (ExchangeStep.wait ms)

def clock : Exchange Nat := Dialogue.question ExchangeStep.clock

/-- Sends a request, if it can be sent, and reads the reply. -/
def send (limit : Option Nat) (request : Option Request) (decode : Decoder Document α) :
    Exchange (Except CallFailure α) :=
  match request with
  | none => pure (.error (.request .unsendable))
  | some r => do
    let (reply : Reply) ← Dialogue.question (ExchangeStep.send r limit)
    pure (reply.read decode)

end Exchange

/-- A missing object is no failure of a read: an error with the reason `NotFound`. -/
def orAbsent : Except CallFailure α → Except CallFailure (Option α)
  | .ok a => .ok (some a)
  | .error (.request (.answered code reason)) =>
    if reason = "NotFound" then .ok none else .error (.request (.answered code reason))
  | .error e => .error e

/-! ## Answers of several kinds -/

namespace Decode

variable [Source V]

/-- The metadata of a list. -/
def listMetadata : Decoder V Unit := fun v => do
  let fields ← fields "ListMeta" v
  let _ ← optional string "continue" fields
  let _ ← optional int64 "remainingItemCount" fields
  let _ ← optional string "resourceVersion" fields
  let _ ← optional string "selfLink" fields

/-- The items of a list, which it must have. All other fields must be readable. -/
def objectList (decode : Decoder V α) : Decoder V (List α) := fun v => do
  let fields ← fields "struct ObjectList" v
  once fields ["items", "metadata"]
  let items ← given (nullable (list decode)) "items" fields
  let _ ← given listMetadata "metadata" fields
  let _ ← entries any (fields.filter fun f => f.1 ∉ ["items", "metadata"])
  let items ← required "items" items
  pure (items.getD [])

/-! ### Records by position -/

/-- The fields of a record in an object or, as many of them as there are, in an array. The
names are those of all its fields in the order of the array. -/
def record (type : String) (names : List String) : Decoder V (List (String × V)) := fun v => do
  match ← layer v with
  | .obj fields => do
    once fields names
    pure fields
  | .arr items =>
    if items.length ≤ names.length then pure (names.zip items)
    else throw (.invalidLength items.length "fewer elements in array")
  | l => throw (.invalidType l.found type)

/-- A cause in the details of a status. -/
def statusCause : Decoder V Unit := fun v => do
  let names := ["reason", "message", "field"]
  let fields ← record "struct StatusCause" names v
  checkGiven string fields names

/-- The details of a status. -/
def statusDetails : Decoder V Unit := fun v => do
  let fields ← record "struct StatusDetails"
    ["name", "group", "kind", "uid", "causes", "retryAfterSeconds"] v
  checkGiven string fields ["name", "group", "kind", "uid"]
  let _ ← given (list statusCause) "causes" fields
  let _ ← given word32 "retryAfterSeconds" fields

/-- Whether a status is a success or a failure: the name alone, or an object whose only field
has the name and holds null. -/
def statusSummary : Decoder V Unit := fun v => do
  let names := ["Success", "Failure"]
  match ← layer v with
  | .str s => if s ∈ names then pure () else throw (.invalidValue (.str s) "status")
  | .obj [(name, v)] => do
    match ← layer v with
    | .null => if name ∈ names then pure () else throw (.invalidValue (.str name) "status")
    | l => throw (.invalidType l.found "unit")
  | l => throw (.invalidType l.found "enum StatusSummary")

/-- A status, as it answers some deletions. -/
def status : Decoder V Unit := fun v => do
  let fields ← record "struct Status" ["status", "code", "message", "reason", "details"] v
  let _ ← given word16 "code" fields
  let _ ← optional statusDetails "details" fields
  checkGiven string fields ["message", "reason"]
  let _ ← optional statusSummary "status" fields

/-- The answer of a deletion, all of which must be readable: a status if that is its kind, else
the object. -/
def deletion (decode : Decoder V α) : Decoder V Unit := fun v => do
  let whole ← any v
  match whole.get? "kind" with
  | some (.str "Status") => status v
  | _ => do let _ ← decode v

end Decode

end ClassReconciler
