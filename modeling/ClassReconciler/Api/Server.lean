import ClassReconciler.Api.Script
import ClassReconciler.Cluster.Cluster

/-!
# An API server in memory

Objects lie under their paths as they were written, but for the version that every write
stamps. `ApiServer.answer` is the effect of one request. A replacement must carry the version
that is stored; a class keeps its status when it is replaced, and a patch of its status
changes nothing else. An object with finalizers is marked when it is deleted, and removed by
the replacement that takes the last of them away.

Lists of resources are scripted by their paths, faults make requests fail, and events are
collected in the order in which they were published.
-/

namespace ClassReconciler

/-! ## Stored objects -/

namespace Json

/-- Sets a field of an object, or takes it away. -/
def withField (key : String) (value : Option Json) : Json → Json
  | .obj fields =>
    match value with
    | some v => .obj (setField key v fields)
    | none => .obj (fields.filter (·.1 ≠ key))
  | v => v

/-- A field of the metadata. -/
def metadata? (key : String) (o : Json) : Option Json := (o.get? "metadata").bind (·.get? key)

/-- Sets a field of the metadata, or takes it away. -/
def withMetadata (key : String) (value : Option Json) (o : Json) : Json :=
  o.withField "metadata" (some (((o.get? "metadata").getD (.obj [])).withField key value))

def metadataText? (key : String) (o : Json) : Option String := (o.metadata? key).bind asString?

/-- The object is held by a finalizer. -/
def isHeld (o : Json) : Bool :=
  match o.metadata? "finalizers" with
  | some (.arr (_ :: _)) => true
  | _ => false

/-- A label selector asks for labels, or for labels with their values, separated by commas. -/
def isSelected (selector : String) (o : Json) : Bool :=
  selector = "" || (splitAll ',' selector.toList).all fun requirement =>
    let label (key : List Char) : Option Json :=
      (o.metadata? "labels").bind (·.get? (String.ofList key))
    match splitFirst '=' requirement with
    | some (key, value) => (label key).bind asString? = some (String.ofList value)
    | none => (label requirement).isSome

end Json

/-! ## Paths -/

/-- A path names a collection if it has one part behind the group and version, or behind a
namespace. -/
def isCollectionPath (path : String) : Bool :=
  match splitAll '/' path.toList with
  | [] :: root :: rest =>
    match if root = "apis".toList then rest.drop 2 else rest.drop 1 with
    | [_] => true
    | [scope, _, _] => scope = "namespaces".toList
    | _ => false
  | _ => false

namespace Request

/-- The path of the target. -/
def path (r : Request) : String := String.ofList (r.uri.toList.takeWhile (· ≠ '?'))

/-- The decoded value of a parameter of the target. -/
def parameter? (r : Request) (name : String) : Option String :=
  formValue? name ((r.uri.toList.dropWhile (· ≠ '?')).drop 1)

end Request

/-! ## The server -/

/-- Requests that fail: of a method and path, as many as are left. -/
structure RequestFault where
  method : Method
  path : String
  code : Nat
  reason : String
  times : Nat

/-- A status and a body. -/
abbrev ServerAnswer : Type := Nat × Option Json

/-- The answer that says why a request failed. -/
def failedAnswer (code : Nat) (reason : String) : ServerAnswer :=
  (code, some (Json.ofFields [
    ("apiVersion", .str "v1"), ("kind", .str "Status"), ("metadata", .obj []),
    ("status", .str "Failure"), ("message", .str reason), ("reason", .str reason),
    ("code", .int code)]))

/-- What the server holds, and what it has been asked. -/
structure ApiServer where
  version : Nat := 0
  objects : SortedMap String Json := .empty
  /-- The answers for lists of resources. -/
  discovery : SortedMap String ScriptedReply := .empty
  faults : List RequestFault := []
  events : List Json := []
  now : Nat := 0

namespace ApiServer

/-! ### Objects -/

/-- Writes an object with a new version. -/
def put (s : ApiServer) (path : String) (o : Json) : Json × ApiServer :=
  let version := s.version + 1
  let written := o.withMetadata "resourceVersion" (some (.str (toString version)))
  (written, { s with version, objects := s.objects.insert path written })

def remove (s : ApiServer) (path : String) : ApiServer :=
  { s with version := s.version + 1, objects := s.objects.erase path }

/-- The objects of a collection that a label selector matches, with their names. -/
def members (s : ApiServer) (collection labelSelector : String) : List (String × Json) :=
  s.objects.entries.filterMap fun (path, o) =>
    let (parent, name) := parentPath path
    if parent = collection ∧ o.isSelected labelSelector then some (name, o) else none

/-- Creates an object under the name that it carries. -/
def create (s : ApiServer) (collection : String) (o : Json) : ServerAnswer × ApiServer :=
  let path := collection ++ "/" ++ (o.metadataText? "name").getD ""
  if s.objects.contains path then (failedAnswer 409 "AlreadyExists", s)
  else
    let (written, s) := s.put path o
    ((201, some written), s)

/-- A class, whose status is written on its own. -/
def isClassPath (path : String) : Bool := (parentPath path).1 = Collection.classes.path

/-- Replaces an object, which must carry the stored version. -/
def replace (s : ApiServer) (path : String) (o : Json) : ServerAnswer × ApiServer :=
  match s.objects.find? path with
  | none => (failedAnswer 404 "NotFound", s)
  | some stored =>
    if stored.metadataText? "resourceVersion" ≠ o.metadataText? "resourceVersion" then
      (failedAnswer 409 "Conflict", s)
    else
      let o := if isClassPath path then o.withField "status" (stored.get? "status") else o
      let (written, replaced) := s.put path o
      let isReleased := (written.metadata? "deletionTimestamp").isSome && !written.isHeld
      ((200, some written), if isReleased then s.remove path else replaced)

/-- Replaces the status of an object. -/
def replaceStatus (s : ApiServer) (path : String) (patch : Json) : ServerAnswer × ApiServer :=
  match s.objects.find? path with
  | none => (failedAnswer 404 "NotFound", s)
  | some stored =>
    let (written, s) := s.put path (stored.withField "status" (patch.get? "status"))
    ((200, some written), s)

/-- Deletes an object, or marks it where a finalizer holds it. -/
def delete (s : ApiServer) (path : String) : ServerAnswer × ApiServer :=
  match s.objects.find? path with
  | none => (failedAnswer 404 "NotFound", s)
  | some stored =>
    if stored.isHeld then
      let mark := some (.str Cluster.deletionTime.text)
      let (written, s) := s.put path (stored.withMetadata "deletionTimestamp" mark)
      ((200, some written), s)
    else ((200, some stored), s.remove path)

/-- Reads an object or a list of objects. -/
def read (s : ApiServer) (r : Request) : ServerAnswer :=
  match s.objects.find? r.path with
  | some o => (200, some o)
  | none =>
    if isCollectionPath r.path then
      let items := (s.members r.path ((r.parameter? "labelSelector").getD "")).map Prod.snd
      (200, some (Json.ofFields [
        ("apiVersion", .str "v1"), ("kind", .str "List"), ("items", .arr items),
        ("metadata", .obj [("resourceVersion", .str (toString s.version))])]))
    else failedAnswer 404 "NotFound"

/-! ### Requests -/

/-- Events lie apart from the other objects. -/
def publish (s : ApiServer) (event : Json) : ServerAnswer × ApiServer :=
  ((200, some event), { s with events := s.events ++ [event] })

/-- The effect of a request that no fault hits. -/
def answer (s : ApiServer) (r : Request) : ServerAnswer × ApiServer :=
  let body := r.arrived.body.getD .null
  match r.method with
  | .get => (s.read r, s)
  | .post => if r.isAboutEvents then s.publish body else s.create r.path body
  | .put => s.replace r.path body
  | .patch =>
    match parentPath r.path with
    | (object, "status") => s.replaceStatus object body
    | _ => if r.isAboutEvents then s.publish body else (failedAnswer 404 "NotFound", s)
  | .delete => s.delete r.path

/-- The first fault that hits a request, and the faults as they are afterwards. -/
def takeFault (r : Request) : List RequestFault → Option RequestFault × List RequestFault
  | [] => (none, [])
  | f :: rest =>
    if f.times = 0 ∨ f.method ≠ r.method ∨ f.path ≠ r.path then
      let (hit, rest) := takeFault r rest
      (hit, f :: rest)
    else (some f, { f with times := f.times - 1 } :: rest)

/-- The answer to a request that is given time. A scripted answer that comes too late is not
waited for. -/
def reply (s : ApiServer) (r : Request) (limit : Option Nat) : Reply × ApiServer :=
  let (fault, faults) := takeFault r s.faults
  let s := { s with faults }
  match fault, s.discovery.find? r.path with
  | some f, _ =>
    let (status, body) := failedAnswer f.code f.reason
    (.answered status (body.bind Json.received?), s)
  | none, some scripted =>
    if limit.any (· < scripted.delay) then (.timedOut, { s with now := s.now + limit.getD 0 })
    else (.answered scripted.status scripted.body, { s with now := s.now + scripted.delay })
  | none, none =>
    let ((status, body), s) := s.answer r
    (.answered status (body.bind Json.received?), s)

/-- Runs an exchange against the server. A request that has no time at all is not sent. -/
def run (s : ApiServer) : Exchange α → α × ApiServer
  | .done a => (a, s)
  | .ask (.send r limit) next =>
    let (reply, s) := if limit = some 0 then (.timedOut, s) else s.reply r limit
    run s (next reply)
  | .ask (.wait ms) next => run { s with now := s.now + ms } (next ())
  | .ask .clock next => run s (next s.now)

end ApiServer

end ClassReconciler
