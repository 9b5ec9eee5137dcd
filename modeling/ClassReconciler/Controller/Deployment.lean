import ClassReconciler.Api.Client
import ClassReconciler.Api.Server
import ClassReconciler.Controller.Controller
import ClassReconciler.Json.Printer
import ClassReconciler.Reconcile.Reconciler

/-!
# A deployment

The controllers at work on an API server in memory. One watches the namespaces that carry the
class label, the other one all classes. A watched object is due when its version is not the
one that was last looked at, and when its last reconcile failed and is to be tried again.

`Deployment.settle` reconciles what is due, wave by wave, until nothing is or until a wave has
left the server as it was, so that the next one would do the same again.
-/

namespace ClassReconciler

/-- The objects that a controller watches, and the keys under which they are reconciled. -/
structure Watch where
  collection : Collection
  labelSelector : String
  key : String → Key

def Watch.namespaces : Watch := ⟨.namespaces, classLabel, Key.ofNamespace⟩

def Watch.classes : Watch := ⟨.classes, "", Key.ofClass⟩

/-- The watched objects on a server by their keys, each with its version. -/
def Watch.versions (w : Watch) (s : ApiServer) : List (Key × String) :=
  (s.members w.collection.path w.labelSelector).map fun (name, o) =>
    (w.key name, (o.metadataText? "resourceVersion").getD "")

/-- A change that a user makes. -/
inductive UserEdit where
  | put (path : String) (object : Json)
  | setSpec (path : String) (spec : Json)
  | delete (path : String)

def UserEdit.apply (s : ApiServer) : UserEdit → ApiServer
  | .put path object => (s.put path object).2
  | .setSpec path spec =>
    match s.objects.find? path with
    | some o => (s.put path (o.withField "spec" (some spec))).2
    | none => s
  | .delete path => (s.delete path).2

/-- Controllers, their client, and the server that they talk to. -/
structure Deployment where
  config : ApiConfig
  server : ApiServer
  client : ApiClient := {}
  controller : Controller
  /-- The version of every object at its last reconcile. -/
  seen : SortedMap Key String := .empty
  /-- The keys that are to be tried again. -/
  retrying : List Key := []

namespace Deployment

def watches : List Watch := [.namespaces, .classes]

def watched (d : Deployment) : List (Key × String) := watches.flatMap (·.versions d.server)

/-- The watched keys that have to be reconciled. -/
def due (d : Deployment) : List Key :=
  (d.watched.filter fun (key, version) =>
    d.seen.find? key ≠ some version || d.retrying.contains key).map Prod.fst

/-- Reconciles the object of a key, if it is still there. -/
def attempt (d : Deployment) (key : Key) : Deployment :=
  match d.watched.find? (·.1 = key) with
  | none => d
  | some (_, version) =>
    let ((result, client), server) := d.server.run (d.client.run d.config (reconcile key).run)
    let (next, controller) := d.controller.finish key result .zero
    let others := d.retrying.filter (· ≠ key)
    let retrying :=
      match next with
      | .awaitChange => others
      | .requeue _ => key :: others
    { d with server, client, controller, retrying, seen := d.seen.insert key version }

/-- Reconciles what is due. -/
def wave (d : Deployment) : Deployment := d.due.foldl attempt d

/-- The server is in the same state: nothing was written and no fault was used up. -/
def sameServer (d e : Deployment) : Bool :=
  d.server.version == e.server.version &&
    d.server.faults.map RequestFault.times == e.server.faults.map RequestFault.times

/-- Runs waves, at most the given number of them. -/
def settle (d : Deployment) : (waves : Nat) → Deployment
  | 0 => d
  | waves + 1 =>
    if d.due.isEmpty then d
    else
      let after := d.wave
      if d.sameServer after then after else settle after waves

/-- Controllers that fail on and on are not waited for. -/
def waveLimit : Nat := 1000

/-- Lets the controllers settle, then makes changes and lets them settle again. -/
def run (d : Deployment) (edits : List UserEdit) : Deployment :=
  let d := d.settle waveLimit
  { d with server := edits.foldl UserEdit.apply d.server }.settle waveLimit

/-- The events that were published, each of them once, in the order of their text. -/
def publishedEvents (d : Deployment) : List Json :=
  let shown := d.server.events.map fun e => (Event.summary e).withField "count" none
  (SortedMap.ofList (shown.map fun e => (e.text, e))).values

/-- The objects on the server by their paths, without their versions. -/
def storedObjects (d : Deployment) : List (String × Json) :=
  d.server.objects.entries.map fun (path, o) => (path, o.withMetadata "resourceVersion" none)

end Deployment

end ClassReconciler
