import ClassReconciler.Acceptance.ConfigMap

/-!
# Steps of acceptance tests

What a test against a live cluster does: it creates, edits and deletes a class, assigns it to
a namespace, and looks again and again until something has become true. Edits are tried again
when they conflict with other writers, and looking again has an end. There is no time limit
on the single request.
-/

namespace ClassReconciler

/-- Why an acceptance test failed. -/
inductive TestFailure where
  | createNamespace
  | deleteNamespace
  | labelNamespace
  | createClass
  | getClass
  | updateClass
  | updateConflicts
  | deleteClass
  | getConfigMap
  | configMapTimeout (namespaceName name : String)
  | classTimeout (name : String)
  | other (message : String)

def TestFailure.message : TestFailure → String
  | .createNamespace => "failed to create Namespace"
  | .deleteNamespace => "failed to delete Namespace"
  | .labelNamespace => "failed to label Namespace"
  | .createClass => "failed to create NamespaceClass"
  | .getClass => "failed to get NamespaceClass"
  | .updateClass => "failed to update NamespaceClass"
  | .updateConflicts => "failed to update NamespaceClass after repeated conflicts"
  | .deleteClass => "failed to delete NamespaceClass"
  | .getConfigMap => "failed to get ConfigMap"
  | .configMapTimeout namespaceName name =>
    "timed out waiting for ConfigMap " ++ namespaceName ++ "/" ++ name
  | .classTimeout name => "timed out waiting for NamespaceClass " ++ name ++ " to be deleted"
  | .other message => message

/-- The message up to its first colon, without the details behind it. -/
def TestFailure.summary (f : TestFailure) : String :=
  String.ofList (f.message.toList.takeWhile (· ≠ ':'))

/-- A part of a test, which ends at the first failure. -/
abbrev TestStep (α : Type) : Type := ExceptT TestFailure Exchange α

namespace TestStep

/-- Sends a request that must succeed. -/
def expect (failure : TestFailure) (request : Option Request)
    (decode : Decoder Document α) : TestStep α :=
  ExceptT.mk do
    let result ← Exchange.send none request decode
    pure (result.mapError fun _ => failure)

/-- Reads an object that may be missing. -/
def look (failure : TestFailure) (request : Option Request)
    (decode : Decoder Document α) :
    TestStep (Option α) :=
  ExceptT.mk do
    let result ← Exchange.send none request decode
    pure ((orAbsent result).mapError fun _ => failure)

end TestStep

/-! ## Classes -/

/-- A new class with the given resources. -/
def NamespaceClass.new (name : String) (resources : List Json) : NamespaceClass where
  metadata := { name := some name }
  spec := ⟨resources⟩

def createClass (name : String) (resources : List Json) : TestStep NamespaceClass :=
  TestStep.expect .createClass
    (Collection.classes.create? (NamespaceClass.new name resources).encode) NamespaceClass.decode

/-- Most attempts at an edit that conflicts. -/
def maxEdits : Nat := 5

/-- Replaces a class's resources in the class as it is read; a conflict starts again. -/
def editResources (name : String) (resources : List Json) : Nat → TestStep Unit
  | 0 => throw .updateConflicts
  | attempts + 1 => do
    let c ← TestStep.expect .getClass (Collection.classes.get? name) NamespaceClass.decode
    let c := { c with spec := ⟨resources⟩ }
    let request := Collection.classes.replace? name c.encode
    match ← Exchange.send none request NamespaceClass.decode with
    | .ok _ => pure ()
    | .error (.request (.answered 409 _)) => editResources name resources attempts
    | .error _ => throw .updateClass

def setResources (name : String) (resources : List Json) : TestStep Unit :=
  editResources name resources maxEdits

def deleteClass (name : String) : TestStep Unit :=
  TestStep.expect .deleteClass (Collection.classes.delete? name)
    (Decode.deletion NamespaceClass.decode)

/-- Sets the class of a namespace and annotations on it; of two values of one key the later
one is set. -/
def assignClass (namespaceName className : String) (values : List (String × String)) :
    TestStep Unit := do
  let patch := Json.obj [("metadata", Json.obj [
    ("annotations", Json.ofFields (values.map fun (k, v) => (k, .str v))),
    ("labels", .obj [(classLabel, .str className)])])]
  let _ ← TestStep.expect .labelNamespace (Collection.namespaces.patch? namespaceName patch)
    Namespace.decode

/-! ## Looking again -/

/-- The time between two looks, in milliseconds. -/
def lookInterval : Nat := 500

/-- The time after which an unsatisfied look is the last one, in milliseconds. -/
def lookTimeout : Nat := 30000

/-- Looks until what is seen is as wanted. The last look is the first one that comes later
than the timeout, and the interval bounds how many there can be. -/
def lookUntil (look : TestStep α) (wanted : α → Bool) (late : α → TestFailure) (start : Nat) :
    Nat → TestStep Unit
  | 0 => do
    let seen ← look
    if wanted seen then pure () else throw (late seen)
  | looks + 1 => do
    let seen ← look
    if wanted seen then pure ()
    else
      let now ← Exchange.clock
      if start + lookTimeout < now then throw (late seen)
      else
        Exchange.wait lookInterval
        lookUntil look wanted late start looks

/-- Looks from now on. -/
def lookFromNow (look : TestStep α) (wanted : α → Bool) (late : α → TestFailure) :
    TestStep Unit := do
  let start ← Exchange.clock
  lookUntil look wanted late start (lookTimeout / lookInterval + 1)

/-- What a config map should be like. -/
inductive ConfigMapWish where
  | present
  | absent
  | value (v : Option String)

/-- A missing config map has no value. -/
def ConfigMapWish.holds : ConfigMapWish → Option ConfigMap → Bool
  | .present, m => m.isSome
  | .absent, m => m.isNone
  | .value v, m => m.bind ConfigMap.value? == v

def awaitConfigMap (namespaceName name : String) (wish : ConfigMapWish) : TestStep Unit :=
  lookFromNow
    (TestStep.look .getConfigMap ((Collection.configMaps namespaceName).get? name) ConfigMap.decode)
    wish.holds fun _ => .configMapTimeout namespaceName name

def awaitClassDeleted (name : String) : TestStep Unit :=
  lookFromNow
    (TestStep.look .getClass (Collection.classes.get? name) NamespaceClass.decode)
    Option.isNone fun c => .classTimeout ((c.map NamespaceClass.nameAny).getD "")

end ClassReconciler
