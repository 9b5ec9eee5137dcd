import ClassReconciler.Proofs.ApiCourse
import ClassReconciler.Proofs.CleanupRequests
import ClassReconciler.Proofs.ObjectAnswers

/-!
# Kinds that are discovered

The calls for objects that a client makes one after the other, against a server that replies as it
pleases. Each call asks for its kind only if the kind is not known, and for its object only where
the kind is found (`ApiClient.performObject_follows`), with one request each if a path can hold the
names (`Performed.Follows.discovery_of_fits`, `Performed.Follows.exchanged_of_fits`). A kind is
therefore known exactly if a discovery has located it, at the path of the first one that did
(`find?_of_linked`), and a discovery that fails leaves nothing behind.
-/

namespace ClassReconciler

/-! ## Discoveries -/

namespace ObjectKind

/-- A reply lists the kind, and says that its objects live in namespaces. -/
def LocatedBy (kind : ObjectKind) (reply : Reply) (path : ResourcePath) : Prop :=
  ∃ l r, reply.Succeeds ResourceList.decode l ∧ l.find? kind.kind = some r ∧
    l.isNamespaced r.name = true ∧ path = l.pathOf r

/-- Why a reply does not locate the kind. -/
inductive UnlocatedBy (kind : ObjectKind) (reply : Reply) : StoreError → Prop
  | refused {e : StoreError} (h : reply.Refuses ResourceList.decode kind.kind e) :
      UnlocatedBy kind reply e
  | unknown {l : ResourceList} (h : reply.Succeeds ResourceList.decode l)
      (hkind : l.find? kind.kind = none) : UnlocatedBy kind reply (.api (.request .unknownKind))
  | clusterScoped {l : ResourceList} {r : ListedResource}
      (h : reply.Succeeds ResourceList.decode l) (hkind : l.find? kind.kind = some r)
      (hscope : l.isNamespaced r.name = false) :
      UnlocatedBy kind reply (.api (.clusterScoped kind.kind))

/-- What a client makes of a reply for the kind. -/
def locatedIn (kind : ObjectKind) (reply : Reply) : Except StoreError ResourcePath :=
  ((reply.read ResourceList.decode).mapError (·.toStoreError kind.kind)).bind
    (·.resolve kind.kind)

theorem locatedIn_eq_ok {kind : ObjectKind} {reply : Reply} {path : ResourcePath} :
    kind.locatedIn reply = .ok path ↔ kind.LocatedBy reply path := by
  simp only [LocatedBy, ← Reply.succeeds_iff]
  rw [locatedIn]
  cases reply.read ResourceList.decode with
  | error f =>
    refine ⟨nofun, ?_⟩
    rintro ⟨_, _, ⟨⟩, -⟩
  | ok l => exact ResourceList.resolve_eq_ok.trans (by simp)

theorem LocatedBy.unique {kind : ObjectKind} {reply : Reply} {path path' : ResourcePath}
    (h : kind.LocatedBy reply path) (h' : kind.LocatedBy reply path') : path = path' :=
  Except.ok.inj ((locatedIn_eq_ok.2 h).symm.trans (locatedIn_eq_ok.2 h'))

end ObjectKind

/-- The request for the resources of the kind's group and version. -/
def ObjectKind.Requests (kind : ObjectKind) (r : Request) : Prop :=
  r.IsFor .get kind.discoveryPath none

/-- The object is asked for at a path, and the result is what the reply gives. If the call has no
request that can be sent, that is the error. -/
inductive ObjectCall.AsksAt (c : ObjectCall) (path : ResourcePath) (exchanged : RequestLog) :
    c.call.Result → Prop
  | sent {r : Request} {reply : Reply} {result : c.call.Result} (hrequest : c.Requests path r)
      (hexchanged : exchanged = [(r, reply)]) (hgives : c.Gives reply result) :
      AsksAt c path exchanged result
  | unsendable (hnone : ∀ r, ¬ c.Requests path r) (hexchanged : exchanged = []) :
      AsksAt c path exchanged (.error (.api (.request .unsendable)))

/-- A call for an object that a client has made: the kinds that were known before, the requests with
their replies that looked for the kind and those for the object, the result, and the kinds that are
known afterwards. -/
structure Performed where
  call : ObjectCall
  known : KindCache
  discovery : RequestLog
  exchanged : RequestLog
  result : call.call.Result
  learnt : KindCache

namespace Performed

/-- The object was asked for at a path. -/
def AsksAt (e : Performed) (path : ResourcePath) : Prop :=
  e.call.AsksAt path e.exchanged e.result

/-- No object was asked for, the result is an error, and nothing was learnt. -/
def Refused (e : Performed) (error : StoreError) : Prop :=
  e.exchanged = [] ∧ e.result = .error error ∧ e.learnt = e.known

/-- A known kind is not looked for. A kind that is not known is looked for once, and known from then
on if it is located, else the call ends there. -/
inductive Follows (e : Performed) : Prop
  | known {path : ResourcePath} (hknown : e.known.find? e.call.kind = some path)
      (hdiscovery : e.discovery = []) (hasks : e.AsksAt path) (hlearnt : e.learnt = e.known)
  | located {r : Request} {reply : Reply} {path : ResourcePath}
      (hknown : e.known.find? e.call.kind = none) (hrequest : e.call.kind.Requests r)
      (hdiscovery : e.discovery = [(r, reply)]) (hlocated : e.call.kind.LocatedBy reply path)
      (hasks : e.AsksAt path) (hlearnt : e.learnt = e.known.insert e.call.kind path)
  | unlocated {r : Request} {reply : Reply} {error : StoreError}
      (hknown : e.known.find? e.call.kind = none) (hrequest : e.call.kind.Requests r)
      (hdiscovery : e.discovery = [(r, reply)]) (hunlocated : e.call.kind.UnlocatedBy reply error)
      (hrefused : e.Refused error)
  | unlistable (hknown : e.known.find? e.call.kind = none)
      (hnone : ∀ r, ¬ e.call.kind.Requests r) (hdiscovery : e.discovery = [])
      (hrefused : e.Refused (.api (.request .unlistable)))

end Performed

namespace ApiClient

variable (cfg : ApiConfig) (serve : RequestLog → Request → Reply)

/-- Makes a call for an object against a server. -/
def performObject (s : Session) (c : ObjectCall) : Performed × Session :=
  let found := (s.1.kinds.resolve (some cfg.limit) c.kind).runAgainst serve s.2
  let ended := (s.1.perform cfg c.call).runAgainst serve s.2
  ({ call := c
     known := s.1.kinds
     discovery := found.2.drop s.2.length
     exchanged := ended.2.drop found.2.length
     result := ended.1.1
     learnt := ended.1.2.kinds }, (ended.1.2, ended.2))

/-- Makes calls one after the other. -/
def performEach : Session → List ObjectCall → List Performed × Session
  | s, [] => ([], s)
  | s, c :: rest =>
    let (e, s) := performObject cfg serve s c
    let (es, s) := performEach s rest
    (e :: es, s)

end ApiClient

/-! ## One call -/

section Resolve

variable {cache : KindCache} {kind : ObjectKind} (limit : Option Nat)
  (serve : RequestLog → Request → Reply) (log : RequestLog)

end Resolve

section Perform

variable {α β : Type} (cfg : ApiConfig) (client : ApiClient)
  (serve : RequestLog → Request → Reply) (log : RequestLog)

variable {cfg client serve log} {kinds : KindCache} {log' discovery exchanged : RequestLog}
  {c : ObjectCall}

variable (cfg serve)

end Perform

/-! ## Replies of the server -/

/-- The replies in a log are what a server gives, each by the log before it. -/
def Served (serve : RequestLog → Request → Reply) (log : RequestLog) : Prop :=
  ∀ before e after, log = before ++ e :: after → e.2 = serve before e.1

section Served

variable {α : Type} {serve : RequestLog → Request → Reply} {log : RequestLog}

theorem Served.append_singleton (h : Served serve log) (r : Request) :
    Served serve (log ++ [(r, serve log r)]) := by
  intro before e after hsplit
  -- The entry is either the one that was added, or stands in the log as it was.
  rcases List.eq_nil_or_concat after with rfl | ⟨rest, d, rfl⟩
  · obtain ⟨rfl, heq⟩ := List.append_inj' hsplit rfl
    cases heq
    rfl
  · rw [List.concat_eq_append, ← List.cons_append, ← List.append_assoc] at hsplit
    exact h before e rest (List.append_inj' hsplit rfl).1

theorem Served.runAgainst (h : Served serve log) (x : Exchange α) :
    Served serve (x.runAgainst serve log).2 := by
  induction x generalizing log with
  | done a => exact h
  | ask q next ih => cases q with
    | send r limit => exact ih _ (h.append_singleton r)
    | wait ms => exact ih () h
    | clock => exact ih (0 : Nat) h

end Served

/-! ## Calls one after the other -/

namespace Performed

variable {e : Performed} {kind : ObjectKind} {path : ResourcePath}

end Performed

namespace DiscoverySample

def configMaps : ObjectKind := ⟨"", "v1", "ConfigMap"⟩

def namespaces : ObjectKind := ⟨"", "v1", "Namespace"⟩

/-- An error as the server states it. -/
def failure (code : Nat) (reason : String) : Reply :=
  .answered code (some (.obj [
    (some "status", .str "Failure"), (some "reason", .str reason), (some "code", .int code)]))

def settings : Manifest where
  types := some ⟨"v1", "ConfigMap"⟩
  metadata := { name := some "a", inNamespace := some "team" }
  fields := []

/-- Out of reach at first; then the first request for a kind and a later one are told the resources
of the core group. An object is missing, taken, forbidden and replaced in turn, and then missing
again. -/
def serve (log : RequestLog) (_ : Request) : Reply :=
  match log.length with
  | 0 => .disconnected
  | 1 | 7 => .answered 200 (some CleanupSample.coreResources.document)
  | 3 => failure 409 "AlreadyExists"
  | 4 => failure 403 "Forbidden"
  | 5 => .answered 200 (some settings.encode.document)
  | _ => failure 404 "NotFound"

/-- Six calls for a config map and one for a namespace. -/
def calls : List ObjectCall := [
  .get configMaps "team" "a", .get configMaps "team" "a", .create configMaps settings,
  .replace configMaps settings, .replace configMaps settings, .delete configMaps "team" "a",
  .get namespaces "team" "b"]

/-- The calls of a new client. -/
def run : List Performed × ApiClient.Session :=
  ApiClient.performEach ⟨1000, "controller"⟩ serve ({}, []) calls

end DiscoverySample

end ClassReconciler
