import ClassReconciler.Api.Discovery
import ClassReconciler.Api.Events

/-!
# The API client

Store calls and warnings as exchanges with the API server. Every request of a store call has
a time limit, and so has the discovery that a call for an object may need before it.
`ApiClient.perform` is the exchange of one store call, `ApiClient.run` that of an action.
-/

namespace ClassReconciler

/-- What a client is set up with: the limit of a request in milliseconds, and the name under
which it writes the status and publishes events. -/
structure ApiConfig where
  limit : Nat
  controller : String

/-- What a client has learnt. -/
structure ApiClient where
  kinds : KindCache := .empty
  events : EventCache := []

/-- The patch of a class's status, with the whole list of resources. -/
def statusPatch (c : NamespaceClass) : Json :=
  .obj [("status", (c.status.map NamespaceClassStatus.encode).getD .null)]

/-- A deletion of an object that is not there is no failure: an error with the code 404. -/
def orAlreadyGone : Except CallFailure Unit → Except CallFailure Bool
  | .ok () => .ok true
  | .error (.request (.answered code reason)) =>
    if code = 404 then .ok false else .error (.request (.answered code reason))
  | .error e => .error e

namespace ApiClient

/-- The exchange of a request within the limit. -/
def send (cfg : ApiConfig) (name : String) (request : Option Request) (decode : Decoder Document α)
    (read : Except CallFailure α → Except CallFailure β) : Exchange (Except StoreError β) := do
  let result ← Exchange.send (some cfg.limit) request decode
  pure ((read result).mapError (·.toStoreError name))

/-- The exchange of a request for objects of a kind in a namespace. -/
def sendObject (cfg : ApiConfig) (client : ApiClient) (kind : ObjectKind)
    (namespaceName name : String) (request : Collection → Option Request)
    (decode : Decoder Document α) (read : Except CallFailure α → Except CallFailure β) :
    Exchange (Except StoreError β × ApiClient) := do
  let (path, kinds) ← client.kinds.resolve (some cfg.limit) kind
  let client := { client with kinds }
  match path with
  | .error e => pure (.error e, client)
  | .ok path => do
    let result ← send cfg name (request (path.inNamespace namespaceName)) decode read
    pure (result, client)

/-- The exchange of a store call. -/
def perform (cfg : ApiConfig) (client : ApiClient) :
    (c : StoreCall) → Exchange (c.Result × ApiClient)
  | .getNamespace name => do
    let result ← send cfg name (Collection.namespaces.get? name) Namespace.decode orAbsent
    pure (result, client)
  | .getClass name => do
    let result ← send cfg name (Collection.classes.get? name) NamespaceClass.decode orAbsent
    pure (result, client)
  | .namespacesForClass className => do
    let request := Collection.namespaces.list? (classSelector className)
    let result ← send cfg className request (Decode.objectList Namespace.decode) id
    pure (result, client)
  | .replaceClass c => do
    let name := c.nameAny
    let result ← send cfg name (Collection.classes.replace? name c.encode) NamespaceClass.decode id
    pure (result, client)
  | .replaceClassStatus c => do
    let name := c.nameAny
    let request := Collection.classes.patchStatus? name cfg.controller (statusPatch c)
    let result ← send cfg name request NamespaceClass.decode id
    pure (result, client)
  | .getObject kind namespaceName name =>
    sendObject cfg client kind namespaceName name (·.get? name) Manifest.decode orAbsent
  | .createObject kind o =>
    sendObject cfg client kind o.namespaceName o.nameAny (·.create? o.encode) Manifest.decode id
  | .replaceObject kind o =>
    sendObject cfg client kind o.namespaceName o.nameAny (·.replace? o.nameAny o.encode)
      Manifest.decode id
  | .deleteObject kind namespaceName name =>
    sendObject cfg client kind namespaceName name (·.delete? name)
      (Decode.deletion Manifest.decode) orAlreadyGone

/-- The exchange of an action. -/
def run (cfg : ApiConfig) (client : ApiClient) : Action α → Exchange (α × ApiClient)
  | .done a => pure (a, client)
  | .ask (.call c) next => do
    let (result, client) ← perform cfg client c
    run cfg client (next result)
  | .ask (.warn w) next => do
    let events ← client.events.publish cfg.controller w
    run cfg { client with events } (next ())

end ApiClient

end ClassReconciler
