import ClassReconciler.Json
import ClassReconciler.Text.FormEncoding
import ClassReconciler.Text.Split

/-!
# Requests to the API server

A request is a method, a path with its query and a body. Names stand in paths as they are, so
that a name with a character which no path may hold makes a request that cannot be sent
(`requestTarget?`).
-/

namespace ClassReconciler

inductive Method where
  | get
  | post
  | put
  | patch
  | delete
deriving DecidableEq

def Method.text : Method → String
  | .get => "GET"
  | .post => "POST"
  | .put => "PUT"
  | .patch => "PATCH"
  | .delete => "DELETE"

/-- A request to the API server. -/
structure Request where
  method : Method
  uri : String
  body : Option Json := none

/-- What the body is said to be: patches are merge patches. -/
def Request.contentType? (r : Request) : Option String :=
  match r.method with
  | .get => none
  | .patch => some "application/merge-patch+json"
  | _ => some "application/json"

/-! ## Targets -/

/-- A character that may stand in a path. -/
def isPathChar (c : Char) : Bool := 0x21 ≤ c.toNat && c ∉ ['<', '>', '\x60', '\x7f']

/-- A character that may stand in a query. -/
def isQueryChar (c : Char) : Bool := 0x21 ≤ c.toNat && c ∉ ['"', '<', '>', '\x7f']

/-- The target of a request as it is sent: without the part behind a number sign, and only if
its characters may stand where they do and it is shorter than 65535 bytes. -/
def requestTarget? (target : String) : Option String :=
  let shown := target.toList.takeWhile (· ≠ '#')
  let path := shown.takeWhile (· ≠ '?')
  let query := (shown.dropWhile (· ≠ '?')).drop 1
  if path.all isPathChar && query.all isQueryChar && target.utf8ByteSize < 65535 then
    some (String.ofList shown)
  else none

/-- A path without its last part, and that part. -/
def parentPath (path : String) : String × String :=
  let parts := splitAll '/' path.toList
  (String.ofList (List.intercalate ['/'] parts.dropLast), String.ofList (parts.getLastD []))

/-- A request for a target, where it can be sent. -/
def request? (method : Method) (target : String) (body : Option Json := none) : Option Request :=
  (requestTarget? target).map fun uri => ⟨method, uri, body⟩

/-! ## Collections -/

/-- The path of all objects of a kind, or of those in one namespace. -/
structure Collection where
  path : String
deriving DecidableEq

namespace Collection

def namespaces : Collection := ⟨"/api/v1/namespaces"⟩

def classes : Collection := ⟨"/apis/namespaceclass.akuity.io/v1alpha1/namespaceclasses"⟩

def events (namespaceName : String) : Collection :=
  ⟨"/apis/events.k8s.io/v1/namespaces/" ++ namespaceName ++ "/events"⟩

def configMaps (namespaceName : String) : Collection :=
  ⟨"/api/v1/namespaces/" ++ namespaceName ++ "/configmaps"⟩

/-- The path of an object, which must have a name. -/
def member? (c : Collection) (name : String) : Option String :=
  if name = "" then none else some (c.path ++ "/" ++ name)

def get? (c : Collection) (name : String) : Option Request := do
  request? .get (← c.member? name)

/-- The objects that a label selector matches. -/
def list? (c : Collection) (labelSelector : String) : Option Request :=
  request? .get (c.path ++ "?" ++ formQuery [("labelSelector", labelSelector)])

def create? (c : Collection) (object : Json) : Option Request :=
  request? .post (c.path ++ "?") (some object)

def replace? (c : Collection) (name : String) (object : Json) : Option Request := do
  request? .put ((← c.member? name) ++ "?") (some object)

def patch? (c : Collection) (name : String) (patch : Json) : Option Request := do
  request? .patch ((← c.member? name) ++ "?") (some patch)

/-- A patch of the status in the name of a field manager, which is at most 128 bytes long. -/
def patchStatus? (c : Collection) (name fieldManager : String) (patch : Json) : Option Request := do
  let member ← c.member? name
  if 128 < fieldManager.utf8ByteSize then none
  else
    let query := formQuery [("fieldManager", fieldManager)]
    request? .patch (member ++ "/status?" ++ query) (some patch)

def delete? (c : Collection) (name : String) (options : Json := .obj []) : Option Request := do
  request? .delete ((← c.member? name) ++ "?") (some options)

end Collection

end ClassReconciler
