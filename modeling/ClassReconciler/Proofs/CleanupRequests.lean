import ClassReconciler.Proofs.ApiCourse
import ClassReconciler.Proofs.Finalization

/-!
# Finalization against an API server

What the reconcile of a class that is being deleted comes to with a server that answers every
request (`FinalizationReplies`): the class and its namespaces do not change meanwhile, discovery
always says the same of a kind, and deletions succeed or find nothing.

An object of a kind that discovery does not find in namespaces (`ObjectKind.FoundAt`) cannot be
deleted, although it can never have been created: a deletion asks for the resources of the kind
first, and what this fails with is no absence of the object (`ensures_deleteObject`). Such an object
counts as one that is left (`NamespaceClass.undeletable`), and the finalizer stays
(`finalizer_released_of_deletable`).

The cleanup is followed through the single exchanges (`ensures_deleteEach`, `ensures_finalizeEach`).
What a client remembers of kinds stays right on the way (`ApiClient.Session.Cleaning`), so that it
makes no difference which kinds it has already asked for.
-/

namespace ClassReconciler

/-! ## Requests -/

theorem method_request? {method : Method} {target : String} {body : Option Json} {r : Request}
    (h : request? method target body = some r) : r.method = method := by
  obtain ⟨uri, -, rfl⟩ := Option.map_eq_some_iff.1 h
  rfl

theorem Collection.method_delete? {collection : Collection} {name : String} {options : Json}
    {r : Request} (h : collection.delete? name options = some r) : r.method = .delete := by
  obtain ⟨path, -, h⟩ := Option.bind_eq_some_iff.1 h
  exact method_request? h

/-- An event is posted or patched. -/
theorem Event.method_request? {e : Event} {r : Request} (h : e.request? = some r) :
    r.method = .post ∨ r.method = .patch := by
  rw [Event.request?] at h
  split at h
  · exact Or.inl (ClassReconciler.method_request? h)
  · obtain ⟨target, -, h⟩ := Option.bind_eq_some_iff.1 h
    exact Or.inr (by rw [← Option.some.inj h])

/-! ## What can be deleted -/

/-- Where the objects of a kind are found, by the reply to the request for the resources of its
group and version. -/
def ObjectKind.located (discovery : ObjectKind → Reply) (kind : ObjectKind) :
    Except StoreError ResourcePath :=
  match request? .get kind.discoveryPath with
  | none => .error (.api (.request .unlistable))
  | some _ =>
    (((discovery kind).read ResourceList.decode).mapError (·.toStoreError kind.kind)).bind
      (·.resolve kind.kind)

/-- Discovery lists a kind, and says that its objects live in namespaces. -/
def ObjectKind.FoundAt (discovery : ObjectKind → Reply) (kind : ObjectKind) (path : ResourcePath) :
    Prop :=
  (request? .get kind.discoveryPath).isSome = true ∧
    ∃ (l : ResourceList) (r : ListedResource), (discovery kind).read ResourceList.decode = .ok l ∧
      l.find? kind.kind = some r ∧ l.isNamespaced r.name = true ∧ path = l.pathOf r

theorem ResourceList.resolve_eq_ok {l : ResourceList} {kind : String} {path : ResourcePath} :
    l.resolve kind = .ok path ↔
      ∃ r, l.find? kind = some r ∧ l.isNamespaced r.name = true ∧ path = l.pathOf r := by
  rw [resolve]
  cases l.find? kind with
  | none => simp
  | some r => by_cases hscope : l.isNamespaced r.name = true <;> simp [hscope, @eq_comm _ path]

theorem ObjectKind.located_eq_ok {discovery : ObjectKind → Reply} {kind : ObjectKind}
    {path : ResourcePath} : kind.located discovery = .ok path ↔ kind.FoundAt discovery path := by
  rw [located, FoundAt]
  cases request? .get kind.discoveryPath with
  | none => simp
  | some r =>
    cases (discovery kind).read ResourceList.decode with
    | error e =>
      refine ⟨nofun, ?_⟩
      rintro ⟨-, _, _, ⟨⟩, -⟩
    | ok l => exact ResourceList.resolve_eq_ok.trans (by simp)

/-- The request that deletes the object of a template from a namespace. There is none where the
kind is not served or not namespaced, or where no path can hold the names. -/
def deletion? (discovery : ObjectKind → Reply) (n : String) (t : Template) : Option Request :=
  match t.kind.located discovery with
  | .ok path => (path.inNamespace n).delete? t.name
  | .error _ => none

/-- How many objects cannot be deleted: one for each namespace that opts in and each template
whose object there is no request to delete. -/
def NamespaceClass.undeletable (discovery : ObjectKind → Reply) (c : NamespaceClass)
    (namespaces : List Namespace) : Nat :=
  ((namespaces.filter (·.cleanupEnabled)).flatMap fun ns =>
    c.ownTemplates.filter fun t => (deletion? discovery ns.nameAny t).isNone).length

/-- A deletion succeeds or finds nothing. -/
def Reply.Deletes (reply : Reply) : Prop :=
  reply.read (Decode.deletion Manifest.decode) = .ok () ∨ ∃ reason,
    reply.read (Decode.deletion Manifest.decode) = .error (.request (.answered 404 reason))

/-- What is remembered of kinds is what discovery says of them. -/
def KindCache.Reflects (cache : KindCache) (discovery : ObjectKind → Reply) : Prop :=
  ∀ {kind path}, cache.find? kind = some path → kind.located discovery = .ok path

theorem KindCache.reflects_empty (discovery : ObjectKind → Reply) :
    KindCache.Reflects .empty discovery := nofun

/-! ## Replies -/

/-- The replies that the reconcile of a class that is being deleted may be given: the class and
its namespaces are as they are, what discovery says of a kind is fixed, deletions succeed or find
nothing, and the replacement of the class is accepted. -/
structure FinalizationReplies (discovery : ObjectKind → Reply) (c : NamespaceClass)
    (namespaces : List Namespace) (get list put r : Request) (reply : Reply) : Prop where
  stored : r = get → reply.read NamespaceClass.decode = .ok c
  listed : r = list → reply.read (Decode.objectList Namespace.decode) = .ok namespaces
  discovered : ∀ t ∈ c.ownTemplates,
    request? .get t.kind.discoveryPath = some r → reply = discovery t.kind
  deleted : r.method = .delete → reply.Deletes
  replaced : r = put → ∃ c', reply.read NamespaceClass.decode = .ok c'

/-- A client at the cleanup: what it remembers of kinds is right, and nothing was replaced. -/
structure ApiClient.Session.Cleaning (discovery : ObjectKind → Reply) (s : Session) : Prop where
  reflects : s.1.kinds.Reflects discovery
  unreplaced : ∀ e ∈ s.2, e.1.method ≠ .put

theorem ApiClient.Session.Cleaning.append {discovery : ObjectKind → Reply} {s : Session}
    (h : s.Cleaning discovery) {r : Request} (hr : r.method ≠ .put) (reply : Reply) :
    Cleaning discovery (s.1, s.2 ++ [(r, reply)]) where
  reflects := h.reflects
  unreplaced e he := by
    rcases List.mem_append.1 he with he | he
    · exact h.unreplaced e he
    · rw [List.mem_singleton.1 he]
      exact hr

namespace ApiClient

section Cleanup

variable {discovery : ObjectKind → Reply} {rule : ReplyRule} {cfg : ApiConfig}

/-- Discovery answers as it always does. -/
theorem ensures_resolve {kind : ObjectKind} (hdiscovered : ∀ r reply, rule r reply →
      request? .get kind.discoveryPath = some r → reply = discovery kind)
    {s : Session} (hs : s.Cleaning discovery) (limit : Option Nat) :
    (s.1.kinds.resolve limit kind).Ensures rule s.2 fun x log =>
      x.1 = kind.located discovery ∧
        Session.Cleaning discovery ({ s.1 with kinds := x.2 }, log) := by
  rw [KindCache.resolve]
  cases hcached : s.1.kinds.find? kind with
  | some path => exact ⟨(hs.reflects hcached).symm, hs⟩
  | none =>
    cases hrequest : request? .get kind.discoveryPath with
    | none => exact ⟨by rw [ObjectKind.located, hrequest], hs⟩
    | some r =>
      refine Exchange.ensures_bind.2 (Exchange.ensures_send fun reply hreply => ?_)
      obtain rfl := hdiscovered r reply hreply hrequest
      have hlocated : kind.located discovery =
          (((discovery kind).read ResourceList.decode).mapError (·.toStoreError kind.kind)).bind
            (·.resolve kind.kind) := by
        rw [ObjectKind.located, hrequest]
      have hs₁ := hs.append (r := r) (by rw [method_request? hrequest]; decide) (discovery kind)
      rw [← hlocated]
      cases hfound : kind.located discovery with
      | error e => exact ⟨rfl, hs₁⟩
      | ok path =>
        refine ⟨rfl, fun {kind' path'} hpath => ?_, hs₁.unreplaced⟩
        rw [SortedMap.find?_insert] at hpath
        split at hpath
        case isTrue hkind => rw [hkind, hfound, Option.some.inj hpath]
        case isFalse => exact hs.reflects hpath

/-- A deletion fails where there is no request for it. -/
theorem ensures_deleteObject {n : String} {t : Template}
    (hdiscovered : ∀ r reply, rule r reply →
      request? .get t.kind.discoveryPath = some r → reply = discovery t.kind)
    (hdeleted : ∀ r reply, rule r reply → r.method = .delete → reply.Deletes)
    {s : Session} (hs : s.Cleaning discovery) :
    (s.1.perform cfg (.deleteObject t.kind n t.name)).Ensures rule s.2 fun r log =>
      r.1.isOk = (deletion? discovery n t).isSome ∧ Session.Cleaning discovery (r.2, log) := by
  rw [perform, deletion?]
  unfold sendObject
  refine Exchange.ensures_bind.2 ((ensures_resolve hdiscovered hs _).imp ?_)
  rintro ⟨path, kinds⟩ log ⟨hpath, hs₁⟩
  obtain rfl : path = t.kind.located discovery := hpath
  cases hlocated : t.kind.located discovery with
  | error e => exact ⟨rfl, hs₁⟩
  | ok path =>
    simp only
    cases hrequest : (path.inNamespace n).delete? t.name with
    | none => exact ⟨rfl, hs₁⟩
    | some r =>
      have hmethod : r.method = .delete := Collection.method_delete? hrequest
      refine Exchange.ensures_bind.2 (ensures_send fun reply hreply => ?_)
      refine ⟨?_, hs₁.append (by rw [hmethod]; decide) reply⟩
      rcases hdeleted r reply hreply hmethod with hread | ⟨reason, hread⟩
      · simp only [hread]
        rfl
      · simp only [hread]
        rfl

/-- A warning changes nothing of the cleanup. -/
theorem ensures_warn_cleaning (w : Warning) {s : Session} (hs : s.Cleaning discovery) :
    (Action.warn w).Ensures (Answers cfg rule) (fun _ _ => True) s fun _ s' =>
      s'.Cleaning discovery := by
  refine ensures_warn ?_
  rw [EventCache.publish]
  cases hrequest : (s.1.events.next cfg.controller w).request? with
  | none => exact ⟨hs.reflects, hs.unreplaced⟩
  | some r =>
    have hmethod : r.method ≠ .put := by
      rcases Event.method_request? hrequest with h | h <;> rw [h] <;> decide
    refine Exchange.ensures_bind.2 (Exchange.ensures_send fun reply _ => ?_)
    have hs₁ := hs.append hmethod reply
    cases reply.read Event.decodeAnswer with
    | ok a => exact ⟨hs₁.reflects, hs₁.unreplaced⟩
    | error e => exact ⟨hs₁.reflects, hs₁.unreplaced⟩

/-- As many deletions fail as there are no requests for. -/
theorem ensures_deleteEach (n : String) {templates : List Template}
    (hdiscovered : ∀ t ∈ templates, ∀ r reply, rule r reply →
      request? .get t.kind.discoveryPath = some r → reply = discovery t.kind)
    (hdeleted : ∀ r reply, rule r reply → r.method = .delete → reply.Deletes)
    {s : Session} (hs : s.Cleaning discovery) :
    (deleteEach templates n).Ensures (Answers cfg rule) (fun _ _ => True) s fun results s' =>
      results.countP (·.2.isSome) =
        templates.countP (fun t => (deletion? discovery n t).isNone) ∧
      s'.Cleaning discovery := by
  induction templates generalizing s with
  | nil => exact ⟨rfl, hs⟩
  | cons t rest ih =>
    rw [deleteEach, deleteTemplate]
    refine (Dialogue.ensures_bind _ _ _ _).2 ((Dialogue.ensures_bind _ _ _ _).2
      (ensures_call ?_))
    refine (ensures_deleteObject (hdiscovered t List.mem_cons_self) hdeleted hs).imp ?_
    rintro ⟨deleted, client⟩ log ⟨hdeletion, hs₁⟩
    refine (Dialogue.ensures_bind _ _ _ _).2
      ((ih (fun u hu => hdiscovered u (List.mem_cons_of_mem _ hu)) hs₁).imp ?_)
    rintro others s₂ ⟨hothers, hs₂⟩
    refine ⟨?_, hs₂⟩
    have hfails : (deletion? discovery n t).isNone = !deleted.isOk := by
      rw [hdeletion, Option.not_isSome]
    rw [List.countP_cons, List.countP_cons, hothers, hfails]
    cases deleted <;> rfl

/-- Cleaning a namespace, if it opts in, fails for the objects that there is no request to
delete. -/
theorem ensures_finalizeNamespace (className : String) {templates : List Template}
    (hdiscovered : ∀ t ∈ templates, ∀ r reply, rule r reply →
      request? .get t.kind.discoveryPath = some r → reply = discovery t.kind)
    (hdeleted : ∀ r reply, rule r reply → r.method = .delete → reply.Deletes)
    (ns : Namespace) {s : Session} (hs : s.Cleaning discovery) :
    (finalizeNamespace className templates ns).Ensures (Answers cfg rule) (fun _ _ => True) s
      fun report s' =>
        report.cleaned.length = [ns].countP (·.cleanupEnabled) ∧
        report.orphaned.length = [ns].countP (!·.cleanupEnabled) ∧
        report.failed.length = (if ns.cleanupEnabled then
          templates.countP fun t => (deletion? discovery ns.nameAny t).isNone else 0) ∧
        s'.Cleaning discovery := by
  rw [finalizeNamespace]
  cases hopted : ns.cleanupEnabled with
  | true =>
    refine (Dialogue.ensures_bind _ _ _ _).2
      ((ensures_deleteEach ns.nameAny hdiscovered hdeleted hs).imp ?_)
    rintro results s₁ ⟨hcount, hs₁⟩
    refine ⟨by simp [hopted], by simp [hopted], ?_, hs₁⟩
    rw [if_pos rfl, ← hcount, List.length_filterMap_eq_countP]
    refine List.countP_congr fun r _ => ?_
    rw [Option.isSome_map]
  | false =>
    refine (Dialogue.ensures_bind _ _ _ _).2 ((ensures_warn_cleaning _ hs).imp ?_)
    rintro _ s₁ hs₁
    exact ⟨by simp [hopted], by simp [hopted], rfl, hs₁⟩

/-- Cleaning namespaces adds up what fails in those that opt in. -/
theorem ensures_finalizeEach (className : String) {templates : List Template}
    (hdiscovered : ∀ t ∈ templates, ∀ r reply, rule r reply →
      request? .get t.kind.discoveryPath = some r → reply = discovery t.kind)
    (hdeleted : ∀ r reply, rule r reply → r.method = .delete → reply.Deletes)
    (namespaces : List Namespace) {s : Session} (hs : s.Cleaning discovery) :
    (finalizeEach className templates namespaces).Ensures (Answers cfg rule) (fun _ _ => True) s
      fun report s' =>
        report.cleaned.length = namespaces.countP (·.cleanupEnabled) ∧
        report.orphaned.length = namespaces.countP (!·.cleanupEnabled) ∧
        report.failed.length = ((namespaces.filter (·.cleanupEnabled)).flatMap fun ns =>
          templates.filter fun t => (deletion? discovery ns.nameAny t).isNone).length ∧
        s'.Cleaning discovery := by
  induction namespaces generalizing s with
  | nil => exact ⟨rfl, rfl, rfl, hs⟩
  | cons ns rest ih =>
    rw [finalizeEach]
    refine (Dialogue.ensures_bind _ _ _ _).2
      ((ensures_finalizeNamespace className hdiscovered hdeleted ns hs).imp ?_)
    rintro first s₁ ⟨hcleaned, horphaned, hfailed, hs₁⟩
    refine (Dialogue.ensures_bind _ _ _ _).2 ((ih hs₁).imp ?_)
    rintro others s₂ ⟨hcleaned', horphaned', hfailed', hs₂⟩
    have hcount : ∀ p : Namespace → Bool, (ns :: rest).countP p = [ns].countP p + rest.countP p :=
      fun p => by rw [← List.countP_append, List.singleton_append]
    simp only [Dialogue.ensures_pure, FinalizeReport.append, List.length_append, hcount, hcleaned,
      horphaned, hfailed, hcleaned', horphaned', hfailed', List.filter_cons, true_and]
    refine ⟨?_, hs₂⟩
    split
    · rw [List.flatMap_cons, List.length_append, List.countP_eq_length_filter]
    · rw [Nat.zero_add]

end Cleanup

end ApiClient

/-! ## Runs -/

/-- How the reconcile of a class that is being deleted ends: if everything can be deleted then the
last request replaces the class, else it is not replaced. -/
def NamespaceClass.EndsCleanup (discovery : ObjectKind → Reply) (c : NamespaceClass)
    (namespaces : List Namespace) (put : Request) (r : ReconcileResult) (log : RequestLog) : Prop :=
  (c.undeletable discovery namespaces = 0 →
    r = .ok (.finalized (namespaces.countP (·.cleanupEnabled))
      (namespaces.countP (!·.cleanupEnabled))) ∧
    ∃ before reply, log = before ++ [(put, reply)] ∧ ∀ e ∈ before, e.1.method ≠ .put) ∧
  (0 < c.undeletable discovery namespaces →
    r = .error (.cleanup c.nameAny (c.undeletable discovery namespaces)) ∧
    ∀ e ∈ log, e.1.method ≠ .put)

namespace ApiClient

section Finalize

variable {discovery : ObjectKind → Reply} {cfg : ApiConfig} {c : NamespaceClass}
  {namespaces : List Namespace} {get list put : Request}

/-- The cleanup after a class fails if there are objects that cannot be deleted, and replaces
nothing; else it replaces the class by one without the finalizer. -/
theorem ensures_finalizeClass
    (hlist : Collection.namespaces.list? (classSelector c.nameAny) = some list)
    (hput : Collection.classes.replace? c.nameAny c.removeFinalizer.2.encode = some put)
    {s : Session} (hs : s.Cleaning discovery) :
    (finalizeClass c).run.Ensures
      (Answers cfg (FinalizationReplies discovery c namespaces get list put)) (fun _ _ => True) s
      fun r s' => c.EndsCleanup discovery namespaces put r s'.2 := by
  have hreads : list.method = .get := method_request? hlist
  rw [finalizeClass]
  refine ensures_callOrFail_bind ?_
  rw [perform, hlist]
  refine Exchange.ensures_bind.2 (ensures_send fun reply hreply => ?_)
  have hread : reply.read (Decode.objectList Namespace.decode) = .ok namespaces :=
    hreply.listed rfl
  rw [hread]
  have hs₁ := hs.append (r := list) (by rw [hreads]; decide) reply
  refine (ensures_exceptT_bind _ _ _ _).2 ((ensures_liftM _ _ _).2 ?_)
  rw [finalizeNamespaces, declaredTemplates_eq]
  refine (ensures_finalizeEach c.nameAny (fun t ht r reply hreply => hreply.discovered t ht)
    (fun r reply hreply => hreply.deleted) namespaces hs₁).imp ?_
  rintro report s₂ ⟨hcleaned, horphaned, hfailed, hs₂⟩
  have hfailed : report.failed.length = c.undeletable discovery namespaces := hfailed
  have hcomplete : report.isComplete = true ↔ c.undeletable discovery namespaces = 0 := by
    rw [FinalizeReport.isComplete, List.isEmpty_iff_length_eq_zero, hfailed]
  simp only
  by_cases hdone : c.undeletable discovery namespaces = 0
  · rw [if_pos (hcomplete.2 hdone)]
    refine ensures_callOrFail_bind ?_
    rw [perform, c.nameAny_removeFinalizer, hput]
    refine Exchange.ensures_bind.2 (ensures_send fun reply' hreply' => ?_)
    obtain ⟨c', hread'⟩ := hreply'.replaced rfl
    rw [hread']
    refine ⟨fun _ => ⟨?_, s₂.2, reply', rfl, hs₂.unreplaced⟩,
      fun h => absurd hdone (Nat.ne_of_gt h)⟩
    rw [hcleaned, horphaned]
  · rw [if_neg fun h => hdone (hcomplete.1 h), hfailed]
    exact ⟨fun h => absurd h hdone, fun _ => ⟨rfl, hs₂.unreplaced⟩⟩

/-- The reconcile of a class that is being deleted and held reads it and cleans up after it. -/
theorem ensures_reconcile_of_deleting {name : String}
    (hget : Collection.classes.get? name = some get)
    (hlist : Collection.namespaces.list? (classSelector c.nameAny) = some list)
    (hput : Collection.classes.replace? c.nameAny c.removeFinalizer.2.encode = some put)
    (deleting : c.isDeleting = true) (held : c.hasFinalizer = true)
    {s : Session} (hs : s.Cleaning discovery) :
    (reconcile (.ofClass name)).run.Ensures
      (Answers cfg (FinalizationReplies discovery c namespaces get list put)) (fun _ _ => True) s
      fun r s' => c.EndsCleanup discovery namespaces put r s'.2 := by
  have hreads : get.method = .get := by
    obtain ⟨path, -, h⟩ := Option.bind_eq_some_iff.1 hget
    exact method_request? h
  refine ensures_callOrFail_bind ?_
  rw [perform, show Collection.classes.get? (Key.ofClass name).name = some get from hget]
  refine Exchange.ensures_bind.2 (ensures_send fun reply hreply => ?_)
  have hread : reply.read NamespaceClass.decode = .ok c := hreply.stored rfl
  rw [hread]
  have hs₁ := hs.append (r := get) (by rw [hreads]; decide) reply
  have hleaving : reconcileClass c = finalizeClass c := by simp [reconcileClass, deleting, held]
  change (reconcileClass c).run.Ensures _ _ (s.1, s.2 ++ [(get, reply)]) _
  rw [hleaving]
  exact ensures_finalizeClass hlist hput hs₁

end Finalize

end ApiClient

/-! ## A server without objects -/

namespace CleanupSample

/-- A raw object of the core group. -/
def coreEntry (kind : String) : Json :=
  .obj [("apiVersion", .str "v1"), ("kind", .str kind), ("metadata", .obj [("name", .str "a")])]

/-- A class that is being deleted and held. -/
def leaving (kinds : List String) : NamespaceClass where
  metadata := {
    name := some "gold"
    finalizers := some [classFinalizer]
    deletionTimestamp := some Cluster.deletionTime }
  spec := ⟨kinds.map coreEntry⟩

/-- A namespace of the class that opts in. -/
def tenant : Namespace where
  metadata := {
    name := some "team"
    labels := some (.ofList [(classLabel, "gold")])
    annotations := some (.ofList [(cleanupKey, "true")]) }

/-- One kind in namespaces and one that is not. -/
def coreResources : Json :=
  .obj [("groupVersion", .str "v1"), ("resources", .arr [
    .obj [("kind", .str "ConfigMap"), ("name", .str "configmaps"), ("namespaced", .bool true)],
    .obj [("kind", .str "Namespace"), ("name", .str "namespaces"), ("namespaced", .bool false)]])]

def notFound : Json :=
  .obj [("status", .str "Failure"), ("code", .int 404), ("message", .str "not found"),
    ("reason", .str "NotFound")]

def get : Request :=
  ⟨.get, "/apis/namespaceclass.akuity.io/v1alpha1/namespaceclasses/gold", none⟩

def list : Request :=
  ⟨.get, "/api/v1/namespaces?&labelSelector=namespaceclass.akuity.io%2Fname%3Dgold", none⟩

def put (c : NamespaceClass) : Request :=
  ⟨.put, "/apis/namespaceclass.akuity.io/v1alpha1/namespaceclasses/gold?",
    some c.removeFinalizer.2.encode⟩

/-- What is replied by a server that holds a class and a namespace. -/
def reply (c : NamespaceClass) (r : Request) : Reply :=
  match r.method with
  | .get =>
    if r.uri = "/api/v1" then .answered 200 (some coreResources.document)
    else if r.uri = list.uri then
      let items := Json.obj [("items", .arr [tenant.encode]), ("metadata", .obj [])]
      .answered 200 (some items.document)
    else .answered 200 (some c.encode.document)
  | .delete => .answered 404 (some notFound.document)
  | _ => .answered 200 (some c.encode.document)

/-- What the server says of a kind. -/
def discovery (c : NamespaceClass) (kind : ObjectKind) : Reply :=
  ((request? .get kind.discoveryPath).map (reply c)).getD .disconnected

theorem reply_finalization {c : NamespaceClass}
    (hread : (Reply.answered 200 (some c.encode.document)).read NamespaceClass.decode = .ok c)
    (r : Request) :
    FinalizationReplies (discovery c) c [tenant] get list (put c) r (reply c r) where
  stored := by
    rintro rfl
    exact hread
  listed := by
    rintro rfl
    rfl
  discovered t _ h := by
    rw [discovery, h]
    rfl
  deleted h := by
    rw [reply, h]
    exact Or.inr ⟨_, rfl⟩
  replaced := by
    rintro rfl
    exact ⟨c, hread⟩

/-- The reconcile of the class with a new client. -/
def run (c : NamespaceClass) : (ReconcileResult × ApiClient) × RequestLog :=
  (ApiClient.run ⟨1000, "controller"⟩ {} (reconcile (.ofClass "gold")).run).runAgainst
    (fun _ => reply c) []

theorem get?_gold : Collection.classes.get? "gold" = some get := by
  exact rfl

theorem list?_gold : Collection.namespaces.list? (classSelector "gold") = some list := by
  exact rfl

theorem replace?_gold (c : NamespaceClass) :
    Collection.classes.replace? "gold" c.removeFinalizer.2.encode = some (put c) := by
  exact rfl

theorem run_finalization {c : NamespaceClass}
    (hread : (Reply.answered 200 (some c.encode.document)).read NamespaceClass.decode = .ok c) :
    ∀ e ∈ (run c).2,
      FinalizationReplies (discovery c) c [tenant] get list (put c) e.1 e.2 := by
  intro e he
  obtain ⟨-, hserved⟩ := (Exchange.mem_runAgainst he).resolve_left List.not_mem_nil
  rw [hserved]
  exact reply_finalization hread e.1

end CleanupSample

/-! ## The finalizer -/

/-- Everything can be deleted if for each namespace that opts in and each template the kind is found
and the names can stand in a path. -/
theorem NamespaceClass.undeletable_eq_zero {discovery : ObjectKind → Reply} {c : NamespaceClass}
    {namespaces : List Namespace} : c.undeletable discovery namespaces = 0 ↔
      ∀ ns ∈ namespaces, ns.cleanupEnabled = true → ∀ t ∈ c.ownTemplates,
        ∃ path, t.kind.FoundAt discovery path ∧
          ((path.inNamespace ns.nameAny).delete? t.name).isSome = true := by
  have hdeletion : ∀ n t, (deletion? discovery n t).isNone = false ↔
      ∃ path, t.kind.FoundAt discovery path ∧
        ((path.inNamespace n).delete? t.name).isSome = true := by
    intro n t
    simp only [deletion?, ← ObjectKind.located_eq_ok]
    cases t.kind.located discovery with
    | error e => simp
    | ok path => simp [Option.isSome_iff_ne_none]
  simp only [undeletable, List.length_eq_zero_iff, List.flatMap_eq_nil_iff, List.mem_filter,
    and_imp, List.filter_eq_nil_iff, Bool.not_eq_true, hdeletion]

/-- A class that is being deleted and held by the finalizer is reconciled by a client whose server
answers every request: discovery always says the same of a kind, and deletions succeed or find
nothing. If in every namespace that opts in each template of the class can be deleted, which takes
that discovery finds its kind in namespaces, then the class is finalized and the last request
replaces it by one without the finalizer. Otherwise, as where a kind is not served or not in
namespaces, the reconcile fails with the number of objects that could not be deleted, and the class
is not replaced. -/
theorem finalizer_released_of_deletable {cfg : ApiConfig} {client : ApiClient}
    {serve : RequestLog → Request → Reply} {name : String} {c : NamespaceClass}
    {namespaces : List Namespace} {discovery : ObjectKind → Reply} {get list put : Request}
    (hget : Collection.classes.get? name = some get)
    (hlist : Collection.namespaces.list? (classSelector c.nameAny) = some list)
    (hput : Collection.classes.replace? c.nameAny c.removeFinalizer.2.encode = some put)
    (deleting : c.isDeleting = true) (held : c.hasFinalizer = true)
    (hclient : client.kinds.Reflects discovery)
    (hreplies : ∀ e ∈ ((ApiClient.run cfg client (reconcile (.ofClass name)).run).runAgainst
      serve []).2, FinalizationReplies discovery c namespaces get list put e.1 e.2) :
    let r := (ApiClient.run cfg client (reconcile (.ofClass name)).run).runAgainst serve []
    let failed := c.undeletable discovery namespaces
    (failed = 0 ↔ ∀ ns ∈ namespaces, ns.cleanupEnabled = true → ∀ t ∈ c.ownTemplates,
      ∃ path, t.kind.FoundAt discovery path ∧
        ((path.inNamespace ns.nameAny).delete? t.name).isSome = true) ∧
    (failed = 0 →
      r.1.1 = .ok (.finalized (namespaces.countP (·.cleanupEnabled))
        (namespaces.countP (!·.cleanupEnabled))) ∧
      c.removeFinalizer.2.hasFinalizer = false ∧
      ∃ log reply, r.2 = log ++ [(put, reply)] ∧ ∀ e ∈ log, e.1.method ≠ .put) ∧
    (0 < failed →
      r.1.1 = .error (.cleanup c.nameAny failed) ∧ ∀ e ∈ r.2, e.1.method ≠ .put) := by
  intro r failed
  have hstart : ApiClient.Session.Cleaning discovery (client, []) := ⟨hclient, nofun⟩
  obtain ⟨hdone, hfails⟩ := Exchange.runAgainst_ensures
    (ApiClient.run_ensures (ApiClient.ensures_reconcile_of_deleting hget hlist hput deleting held
      hstart)) hreplies
  refine ⟨NamespaceClass.undeletable_eq_zero, fun h => ?_, hfails⟩
  exact ⟨(hdone h).1, c.hasFinalizer_removeFinalizer, (hdone h).2⟩

open CleanupSample in
/-- A class with a config map is finalized. One that also declares a namespace and an object of a
kind that is not served keeps the finalizer, with two objects left. -/
theorem finalizer_released_of_deletable_sample :
    (run (leaving ["ConfigMap"])).1.1 = .ok (.finalized 1 0) ∧
    (∃ log reply, (run (leaving ["ConfigMap"])).2 =
      log ++ [(put (leaving ["ConfigMap"]), reply)]) ∧
    (run (leaving ["ConfigMap", "Namespace", "Widget"])).1.1 = .error (.cleanup "gold" 2) ∧
    ∀ e ∈ (run (leaving ["ConfigMap", "Namespace", "Widget"])).2, e.1.method ≠ .put := by
  have hend : ∀ kinds, (Reply.answered 200 (some (leaving kinds).encode.document)).read
      NamespaceClass.decode = .ok (leaving kinds) →
      (leaving kinds).EndsCleanup (discovery (leaving kinds)) [tenant] (put (leaving kinds))
        (run (leaving kinds)).1.1 (run (leaving kinds)).2 := by
    intro kinds hread
    obtain ⟨-, hdone, hfails⟩ := @finalizer_released_of_deletable ⟨1000, "controller"⟩ {}
      (fun _ => reply (leaving kinds)) "gold" (leaving kinds) [tenant] _ get list _ get?_gold
      list?_gold (replace?_gold _) rfl rfl (KindCache.reflects_empty _) (run_finalization hread)
    exact ⟨fun h => ⟨(hdone h).1, (hdone h).2.2⟩, hfails⟩
  have hnone : (leaving ["ConfigMap"]).undeletable (discovery (leaving ["ConfigMap"])) [tenant] =
      0 := by decide +kernel
  have htwo : (leaving ["ConfigMap", "Namespace", "Widget"]).undeletable
      (discovery (leaving ["ConfigMap", "Namespace", "Widget"])) [tenant] = 2 := by decide +kernel
  obtain ⟨hdone, -⟩ := hend ["ConfigMap"] rfl
  obtain ⟨-, hfails⟩ := hend ["ConfigMap", "Namespace", "Widget"] rfl
  rw [htwo] at hfails
  obtain ⟨hresult, log, reply, hlog, -⟩ := hdone hnone
  obtain ⟨herror, hkept⟩ := hfails Nat.two_pos
  exact ⟨hresult, ⟨log, reply, hlog⟩, herror, hkept⟩

open CleanupSample in
/-- An object that can never have been created keeps the finalizer: one whose kind is not in
namespaces. -/
theorem finalizer_not_always_released :
    ¬ ∀ (cfg : ApiConfig) (client : ApiClient) (serve : RequestLog → Request → Reply)
      (name : String) (c : NamespaceClass) (namespaces : List Namespace)
      (discovery : ObjectKind → Reply) (get list put : Request),
      Collection.classes.get? name = some get →
      Collection.namespaces.list? (classSelector c.nameAny) = some list →
      Collection.classes.replace? c.nameAny c.removeFinalizer.2.encode = some put →
      c.isDeleting = true → c.hasFinalizer = true → client.kinds.Reflects discovery →
      let r := (ApiClient.run cfg client (reconcile (.ofClass name)).run).runAgainst serve []
      (∀ e ∈ r.2, FinalizationReplies discovery c namespaces get list put e.1 e.2) →
      ∃ cleaned orphaned, r.1.1 = .ok (.finalized cleaned orphaned) := by
  intro hclaim
  let c := leaving ["Namespace"]
  have hreplies := run_finalization (c := leaving ["Namespace"]) rfl
  obtain ⟨cleaned, orphaned, hresult⟩ := hclaim ⟨1000, "controller"⟩ {} (fun _ => reply c) "gold" c
    [tenant] (discovery c) get list (put c) get?_gold list?_gold (replace?_gold c) rfl rfl
    (KindCache.reflects_empty _) hreplies
  have hfails : (run c).1.1.isOk = false := by decide +kernel
  have hsucceeds : (run c).1.1.isOk = true := congrArg Except.isOk hresult
  cases hfails.symm.trans hsucceeds

end ClassReconciler
