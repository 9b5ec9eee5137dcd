import ClassReconciler.Dialogue
import ClassReconciler.Object.Manifest
import ClassReconciler.Object.Namespace
import ClassReconciler.Object.NamespaceClass

/-!
# Store calls

All that the reconciler asks of the cluster: nine calls, each of which is answered by a value
or by an error, and warnings, which are sent and not answered. An `Action` is a computation
that makes calls and sends warnings; its courses are all ways in which the calls can be
answered.
-/

namespace ClassReconciler

/-! ## Errors -/

/-- Why a request to the API server gave no answer of the wanted form. A request that cannot
be sent is `unlistable` where it asks for the resources of a group and version. -/
inductive RequestError where
  | answered (code : Nat) (reason : String)
  | undecodable
  | unknownKind
  | unlistable
  | unsendable
  | disconnected
deriving DecidableEq

/-- Failures of the cluster other than conflicts and timeouts. -/
inductive ApiFailure where
  | other (text : String)
  | absent (name : String)
  | clusterScoped (kind : String)
  | request (error : RequestError)
deriving DecidableEq

/-- Why a store call failed. -/
inductive StoreError where
  | conflict (name : String)
  | alreadyExists (name : String)
  | timeout
  | api (failure : ApiFailure)
deriving DecidableEq

def RequestError.message : RequestError → String
  | .answered code reason => "ApiError: " ++ reason ++ " (" ++ toString code ++ ")"
  | .undecodable => "Error deserializing response"
  | .unknownKind => "Error from discovery: kind not found"
  | .unlistable => "HttpError: invalid uri character"
  | .unsendable => "Failed to build request"
  | .disconnected => "ServiceError: connection closed"

def ApiFailure.message : ApiFailure → String
  | .other text => text
  | .absent name => name ++ " not found"
  | .clusterScoped kind => kind ++ " is cluster-scoped and cannot be applied to a namespace"
  | .request e => e.message

def StoreError.message : StoreError → String
  | .conflict name => "conflicting write to " ++ name
  | .alreadyExists name => name ++ " already exists"
  | .timeout => "request timed out"
  | .api failure => failure.message

/-! ## Calls -/

/-- A request to the cluster. -/
inductive StoreCall where
  | getNamespace (name : String)
  | getClass (name : String)
  | namespacesForClass (className : String)
  | replaceClass (c : NamespaceClass)
  | replaceClassStatus (c : NamespaceClass)
  | getObject (kind : ObjectKind) (namespaceName name : String)
  | createObject (kind : ObjectKind) (object : Manifest)
  | replaceObject (kind : ObjectKind) (object : Manifest)
  | deleteObject (kind : ObjectKind) (namespaceName name : String)

/-- What a call is answered with when it succeeds. A read gives nothing where the object does
not exist; a deletion says whether it did. -/
def StoreCall.Answer : StoreCall → Type
  | .getNamespace _ => Option Namespace
  | .getClass _ => Option NamespaceClass
  | .namespacesForClass _ => List Namespace
  | .replaceClass _ | .replaceClassStatus _ => NamespaceClass
  | .getObject .. => Option Manifest
  | .createObject .. | .replaceObject .. => Manifest
  | .deleteObject .. => Bool

abbrev StoreCall.Result (c : StoreCall) : Type := Except StoreError c.Answer

/-! ## Warnings -/

/-- Why a namespace is warned. -/
inductive WarningReason where
  | orphanedClass
  | missingClass
deriving DecidableEq

def WarningReason.text : WarningReason → String
  | .orphanedClass => "OrphanedNamespaceClass"
  | .missingClass => "MissingNamespaceClass"

/-- A warning about a namespace. -/
structure Warning where
  about : Namespace
  reason : WarningReason
  note : String

/-! ## Actions -/

/-- What a computation asks of the outside. -/
inductive Effect where
  | call (c : StoreCall)
  | warn (w : Warning)

def Effect.Answer : Effect → Type
  | .call c => c.Result
  | .warn _ => Unit

/-- A computation that makes store calls and sends warnings. -/
abbrev Action (α : Type) : Type := Dialogue Effect.Answer α

namespace Action

def call (c : StoreCall) : Action c.Result := Dialogue.question (Effect.call c)

def warn (w : Warning) : Action Unit := Dialogue.question (Effect.warn w)

end Action

end ClassReconciler
