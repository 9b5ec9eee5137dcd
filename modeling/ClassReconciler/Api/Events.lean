import ClassReconciler.Api.Exchange

/-!
# Events

A warning is published as an event about its namespace. What was published is remembered: a
warning for the same reason about the same namespace is not published again, but counted in
the event that is there, whose note stays. A failure to publish changes nothing.

An event's name ends in the time of its first publication, so that a patch shows `*` for what
stands behind the last slash of its target.
-/

namespace ClassReconciler

/-- The object that an event is about. -/
structure EventSubject where
  name : Option String
  inNamespace : Option String
  uid : Option String
deriving DecidableEq

def EventSubject.of (ns : Namespace) : EventSubject :=
  ⟨ns.metadata.name, ns.metadata.inNamespace, ns.metadata.uid⟩

def EventSubject.encode (s : EventSubject) : Json :=
  Encode.record [
    ("apiVersion", some (.str "v1")),
    ("kind", some (.str "Namespace")),
    ("name", s.name.map .str),
    ("namespace", s.inNamespace.map .str),
    ("uid", s.uid.map .str)]

/-- A published warning. The count is unset for the first one. -/
structure Event where
  subject : EventSubject
  reason : WarningReason
  note : String
  controller : String
  count : Option Nat := none

/-- The request is for events. -/
def Request.isAboutEvents (r : Request) : Bool := r.uri.startsWith "/apis/events.k8s.io/"

namespace Event

/-- The event without its times. -/
def encode (e : Event) : Json :=
  Encode.record [
    ("action", some (.str "Reconcile")),
    ("note", some (.str e.note)),
    ("reason", some (.str e.reason.text)),
    ("regarding", some e.subject.encode),
    ("reportingController", some (.str e.controller)),
    ("series", e.count.map fun n => .obj [("count", .int n)]),
    ("type", some (.str "Warning"))]

/-- What is said of an event that does not depend on the time. -/
def summary (event : Json) : Json :=
  let count := (event.get? "series").bind (·.get? "count")
  let fields := ["action", "note", "reason", "regarding", "reportingController", "type"]
  Json.ofFields (("count", count.getD .null) ::
    fields.map fun key => (key, (event.get? key).getD .null))

/-- An event lies in the namespace of its subject, or else in the default one. -/
def collection (e : Event) : Collection := .events (e.subject.inNamespace.getD "default")

/-- The request that publishes an event, by its count a new one or a repeated one. -/
def request? (e : Event) : Option Request :=
  if e.count.isNone then e.collection.create? e.encode
  else do
    let stem := e.subject.name.getD e.controller
    let target ← requestTarget? (e.collection.path ++ "/" ++ stem)
    let (parent, _) := parentPath target
    pure ⟨.patch, parent ++ "/*", some e.encode⟩

/-- A reference to an object. -/
def decodeReference [Source V] : Decoder V Unit := fun v => do
  let fields ← Decode.fields "ObjectReference" v
  Decode.checkOptional Decode.string fields
    ["apiVersion", "fieldPath", "kind", "name", "namespace", "resourceVersion", "uid"]

/-- The component that reported an event. -/
def decodeSource [Source V] : Decoder V Unit := fun v => do
  let fields ← Decode.fields "EventSource" v
  Decode.checkOptional Decode.string fields ["component", "host"]

/-- How often an event was seen, and when last. -/
def decodeSeries [Source V] : Decoder V Unit := fun v => do
  let fields ← Decode.fields "EventSeries" v
  let _ ← Decode.optional Decode.int32 "count" fields
  let last ← Decode.optional Decode.instant "lastObservedTime" fields
  let _ ← Decode.required "lastObservedTime" last

/-- An event as the server answers it. -/
def decodeAnswer [Source V] : Decoder V Unit := fun v => do
  let fields ← Decode.fields "Event" v
  Decode.typed "events.k8s.io/v1" "Event" fields
  Decode.checkOptional Decode.string fields
    ["action", "note", "reason", "reportingController", "reportingInstance", "type"]
  let _ ← Decode.optional Decode.int32 "deprecatedCount" fields
  Decode.checkOptional Decode.instant fields
    ["deprecatedFirstTimestamp", "deprecatedLastTimestamp", "eventTime"]
  let _ ← Decode.optional decodeSource "deprecatedSource" fields
  let _ ← Decode.optional Metadata.decode "metadata" fields
  Decode.checkOptional decodeReference fields ["regarding", "related"]
  let _ ← Decode.optional decodeSeries "series" fields

end Event

/-- The events that were published so far, by their reason and subject. -/
abbrev EventCache : Type := List ((WarningReason × EventSubject) × Event)

namespace EventCache

def find? (cache : EventCache) (key : WarningReason × EventSubject) : Option Event :=
  (List.find? (fun e => e.1 = key) cache).map Prod.snd

/-- The event that a warning is published as. -/
def next (cache : EventCache) (controller : String) (w : Warning) : Event :=
  let subject := EventSubject.of w.about
  match cache.find? (w.reason, subject) with
  | some e => { e with count := some (e.count.getD 1 + 1) }
  | none => { subject, reason := w.reason, note := w.note, controller }

/-- Publishes a warning. -/
def publish (cache : EventCache) (controller : String) (w : Warning) : Exchange EventCache := do
  let event := cache.next controller w
  match ← Exchange.send none event.request? Event.decodeAnswer with
  | .ok () => pure (((w.reason, event.subject), event) :: cache)
  | .error _ => pure cache

end EventCache

end ClassReconciler
