import ClassReconciler.Api.Client
import ClassReconciler.Cluster.Cluster
import ClassReconciler.Json.MergePatch
import ClassReconciler.Proofs.ApiCourse
import ClassReconciler.Proofs.ClassDocument
import ClassReconciler.Proofs.Reachable
import ClassReconciler.Proofs.RequestTargets
import ClassReconciler.Proofs.Revision

/-!
# The patch of a class's status

What a merge patch leaves of a document is known by look-ups: each key is looked up to what the
patch makes of what stood there (`Json.lookup_mergeFields`). The patch of a status has one key, and
the status in it again has one, whose value is an array and therefore replaces what was there
(`merged_statusPatch`). So the document still reads as the same class, but for the status
(`decode_statusPatch`), which is what replacing the status of a stored class means
(`statusPatch_replaces_status`).
-/

namespace ClassReconciler

namespace Json

theorem lookup_eq_none_of_forall_ne {key : String} {fields : List (String × Json)}
    (h : ∀ f ∈ fields, key ≠ f.1) : lookup key fields = none := by
  rw [lookup_eq_findEntry]
  exact findEntry_eq_none_of_forall_ne h

/-- What a merge patch makes of the value of one key. -/
def mergeValue (old : Option Json) : Option Json → Option Json
  | none => old
  | some .null => none
  | some v => some (mergePatch (old.getD .null) v)

theorem mergeValue_of_not_null {v : Json} (h : v.isNull = false) (old : Option Json) :
    mergeValue old (some v) = some (mergePatch (old.getD .null) v) := by
  cases v <;> first | rfl | cases h

/-- One field of a merge patch looks at its own key and at no other. -/
theorem mergeFields_cons (fields : List (String × Json)) (key : String) (v : Json)
    (rest : List (String × Json)) : ∃ fields', mergeFields fields ((key, v) :: rest) =
      mergeFields fields' rest ∧ ∀ key', lookup key' fields' =
        if key' = key then mergeValue (lookup key fields) (some v) else lookup key' fields := by
  cases v with
  | null =>
    refine ⟨fields.filter (·.1 ≠ key), by rw [mergeFields], fun key' => ?_⟩
    have hfilter := lookup_filter (fun k => decide (k ≠ key)) key' fields
    by_cases hkey : key' = key <;> simpa [hkey, mergeValue] using hfilter
  | bool _ | int _ | float _ | str _ | arr _ | obj _ =>
    refine ⟨_, by rw [mergeFields]; nofun, fun key' => ?_⟩
    exact lookup_setField key key' _ fields

/-- A merge patch whose keys are different looks at each key for itself. -/
theorem lookup_mergeFields {patch : List (String × Json)}
    (h : patch.Pairwise fun f g => f.1 ≠ g.1) (fields : List (String × Json)) (key : String) :
    lookup key (mergeFields fields patch) =
      mergeValue (lookup key fields) (lookup key patch) := by
  induction patch generalizing fields with
  | nil => rw [mergeFields]; rfl
  | cons f rest ih =>
    obtain ⟨k, v⟩ := f
    obtain ⟨hhead, htail⟩ := List.pairwise_cons.1 h
    obtain ⟨fields', hmerge, hlookup⟩ := mergeFields_cons fields k v rest
    rw [hmerge, ih htail, hlookup, lookup]
    by_cases hkey : key = k
    · subst hkey
      rw [if_pos rfl, if_pos rfl, lookup_eq_none_of_forall_ne hhead]
      rfl
    · rw [if_neg hkey, if_neg hkey]

end Json

/-! ## The merged document -/

section Merged

variable (fields : List (String × Json)) (c : NamespaceClass)

/-- The fields of a stored document after the patch of the status. -/
def mergedFields : List (String × Json) :=
  Json.mergeFields fields [("status", (c.status.map NamespaceClassStatus.encode).getD .null)]

theorem mergePatch_statusPatch :
    Json.mergePatch (.obj fields) (statusPatch c) = .obj (mergedFields fields c) := by
  rw [statusPatch, Json.mergePatch]
  rfl

theorem NamespaceClassStatus.encode_eq (s : NamespaceClassStatus) :
    s.encode = .obj [("lastAppliedResources", .arr s.lastAppliedResources)] := rfl

theorem lookup_mergedFields (key : String) : Json.lookup key (mergedFields fields c) =
    if key = "status" then Json.mergeValue (Json.lookup "status" fields)
      (some ((c.status.map NamespaceClassStatus.encode).getD .null))
    else Json.lookup key fields := by
  rw [mergedFields, Json.lookup_mergeFields (List.pairwise_singleton ..), Json.lookup, Json.lookup]
  by_cases hkey : key = "status"
  · rw [if_pos hkey, if_pos hkey, hkey]
  · rw [if_neg hkey, if_neg hkey]
    rfl

theorem lookup_mergedFields_of_ne {key : String} (hkey : key ≠ "status") :
    Json.lookup key (mergedFields fields c) = Json.lookup key fields := by
  rw [lookup_mergedFields, if_neg hkey]

variable {c}

/-- The list of the status is the one in the patch, whatever stood there; the rest of an old
status stays. -/
theorem merged_statusPatch {s : NamespaceClassStatus} (hs : c.status = some s) :
    ∃ kept, Json.lookup "status" (mergedFields fields c) = some (.obj kept) ∧
      Json.lookup "lastAppliedResources" kept = some (.arr s.lastAppliedResources) ∧
      ∀ key, key ≠ "lastAppliedResources" → Json.lookup key kept =
        Json.lookup key ((Json.lookup "status" fields).getD .null).fieldList := by
  let patch : List (String × Json) := [("lastAppliedResources", .arr s.lastAppliedResources)]
  have hkept := Json.lookup_mergeFields (List.pairwise_singleton _ _ : patch.Pairwise _)
    ((Json.lookup "status" fields).getD .null).fieldList
  -- An old status that is no object is merged into as if it were empty.
  refine ⟨Json.mergeFields ((Json.lookup "status" fields).getD .null).fieldList patch, ?_, ?_,
    fun key hkey => ?_⟩
  · rw [lookup_mergedFields, if_pos rfl, hs, Option.map_some, Option.getD_some,
      NamespaceClassStatus.encode_eq, Json.mergeValue_of_not_null rfl, Json.mergePatch]
  · rw [hkept, Json.lookup, if_pos rfl, Json.mergeValue_of_not_null rfl, Json.mergePatch_arr]
  · rw [hkept, Json.lookup, if_neg hkey]
    rfl

/-- The merged status is read as the status in the patch. -/
theorem optional_status_mergedFields :
    Decode.optional NamespaceClassStatus.decode "status" (mergedFields fields c) =
      .ok c.status := by
  rw [Decode.optional_json, Json.setting?]
  cases hs : c.status with
  | none =>
    rw [lookup_mergedFields, if_pos rfl, hs]
    rfl
  | some s =>
    obtain ⟨kept, hstatus, hlist, -⟩ := merged_statusPatch fields hs
    have hdecode : NamespaceClassStatus.decode (.obj kept : Json) = .ok s := by
      rw [NamespaceClassStatus.decode, decodeResources_obj, Decode.given_json, hlist]
      simp only [Decode.list_any]
      rfl
    rw [hstatus]
    exact congrArg (some <$> ·) hdecode

/-- The merged document is a class just where metadata and spec are readable, as they were. -/
theorem decode_mergedFields {after : NamespaceClass} :
    NamespaceClass.decode (.obj (mergedFields fields c) : Json) = .ok after ↔
      Decode.given Metadata.decode "metadata" fields = .ok (some after.metadata) ∧
        Decode.given NamespaceClassSpec.decode "spec" fields = .ok (some after.spec) ∧
        after.status = c.status := by
  rw [NamespaceClass.decode_obj, NamespaceClass.decodeFields_eq_ok, optional_status_mergedFields]
  simp only [Decode.given_json, lookup_mergedFields_of_ne fields c (by decide : "metadata" ≠ _),
    lookup_mergedFields_of_ne fields c (by decide : "spec" ≠ _), Except.ok.injEq, eq_comm]

/-- A document that was a class still is one, with the status that was written. -/
theorem decode_statusPatch {stored : NamespaceClass}
    (h : NamespaceClass.decode (.obj fields : Json) = .ok stored) :
    NamespaceClass.decode (.obj (mergedFields fields c) : Json) =
      .ok { stored with status := c.status } := by
  obtain ⟨hmetadata, hspec, -⟩ := NamespaceClass.decodeFields_eq_ok.1 h
  exact (decode_mergedFields fields).2 ⟨hmetadata, hspec, rfl⟩

end Merged

/-! ## The status that is written -/

/-- What the call for a status sends, if anything can be sent, is the patch. A name that fits into a
path makes one request, if that of the controller is not too long. -/
theorem ApiClient.replaceClassStatus_sends (cfg : ApiConfig) (client : ApiClient)
    (serve : RequestLog → Request → Reply) (log : RequestLog) (c : NamespaceClass) :
    ∃ sent, ((client.perform cfg (.replaceClassStatus c)).runAgainst serve log).2 = log ++ sent ∧
      (∀ e ∈ sent, e.1.method = .patch ∧ e.1.body = some (statusPatch c)) ∧
      (c.nameAny ≠ "" → FitsPath c.nameAny → cfg.controller.utf8ByteSize ≤ 128 →
        (statusTarget c.nameAny cfg.controller).utf8ByteSize < 65535 → ∃ reply, sent =
          [(⟨.patch, statusTarget c.nameAny cfg.controller, some (statusPatch c)⟩, reply)]) := by
  have hpatch (r : Request) (hr : Collection.classes.patchStatus? c.nameAny cfg.controller
      (statusPatch c) = some r) : r.method = .patch ∧ r.body = some (statusPatch c) := by
    obtain ⟨-, -, hfor⟩ := Collection.patchStatus?_classes.1 hr
    exact ⟨hfor.method, hfor.body⟩
  obtain ⟨sent, hlog, hall, hone⟩ := exists_sent hpatch client serve log
  refine ⟨sent, hlog, hall, fun hname hfits hmanager hshort => hone _ ?_⟩
  have hsent := sentAs_statusTarget hfits hshort
  exact Collection.patchStatus?_classes.2 ⟨hname, hmanager, hsent.isFor_iff.2 rfl⟩

/-- Patching the status of a stored document replaces the status of the class that it is and
nothing else. The list is recorded as it stands, an empty one too, whatever the document held as
its status, and it is what later revisions remove from. The patch is what the call sends, with one
request if a path can hold the name, and the patched class is the one that a cluster has after the
call, apart from its version. -/
theorem statusPatch_replaces_status (fields : List (String × Json)) (c : NamespaceClass)
    (applied : List Json) (hs : c.status = some ⟨applied⟩) :
    (∀ key, key ≠ "status" →
      (Json.mergePatch (.obj fields) (statusPatch c)).get? key = (Json.obj fields).get? key) ∧
    (∃ kept, (Json.mergePatch (.obj fields) (statusPatch c)).get? "status" = some (.obj kept) ∧
      Json.lookup "lastAppliedResources" kept = some (.arr applied) ∧
      ∀ key, key ≠ "lastAppliedResources" → Json.lookup key kept =
        Json.lookup key (((Json.obj fields).get? "status").getD .null).fieldList) ∧
    (∀ stored, NamespaceClass.decode (.obj fields : Json) = .ok stored →
      NamespaceClass.decode (Json.mergePatch (.obj fields) (statusPatch c)) =
        .ok { stored with status := some ⟨applied⟩ } ∧
      ∀ s : Cluster, s.classes.find? c.nameAny = some stored →
        (s.replaceClassStatus c).2.classes.find? c.nameAny = some
          { stored with metadata := s.stamp stored.metadata, status := some ⟨applied⟩ }) ∧
    (∀ after, NamespaceClass.decode (Json.mergePatch (.obj fields) (statusPatch c)) = .ok after →
      after.lastApplied = applied ∧
      ∀ t raw, (t, raw) ∈ (Revision.of after).removed ↔
        raw ∈ applied ∧ Template.parse raw = .ok t ∧
          ∀ entry ∈ after.spec.resources, TemplateId.of entry ≠ .ok t.id) ∧
    ∀ cfg client serve log, ∃ sent,
      ((ApiClient.perform cfg client (.replaceClassStatus c)).runAgainst serve log).2 =
        log ++ sent ∧
      (∀ e ∈ sent, e.1.method = .patch ∧ e.1.body = some (statusPatch c)) ∧
      (c.nameAny ≠ "" → FitsPath c.nameAny → cfg.controller.utf8ByteSize ≤ 128 →
        (statusTarget c.nameAny cfg.controller).utf8ByteSize < 65535 → ∃ reply, sent =
          [(⟨.patch, statusTarget c.nameAny cfg.controller, some (statusPatch c)⟩, reply)]) := by
  rw [mergePatch_statusPatch]
  refine ⟨fun key hkey => lookup_mergedFields_of_ne fields c hkey, merged_statusPatch fields hs,
    fun stored hstored => ⟨?_, fun s hfind => ?_⟩, fun after hafter => ?_,
    fun cfg client serve log => client.replaceClassStatus_sends cfg serve log c⟩
  · rw [decode_statusPatch fields hstored, hs]
  · rw [Cluster.replaceClassStatus_of_stored hfind, hs]
    exact (SortedMap.find?_insert ..).trans (if_pos rfl)
  · have hlist : after.lastApplied = applied := by
      rw [NamespaceClass.lastApplied, ((decode_mergedFields fields).1 hafter).2.2, hs]
    refine ⟨hlist, fun t raw => ?_⟩
    rw [Revision.mem_removed, hlist]

/-- A status with a condition and two entries becomes one with the condition and an entry that
holds nulls, which the class no longer declares, by one patch. -/
theorem statusPatch_replaces_status_sample :
    let entry : Json := .obj [("apiVersion", .str "v1"), ("data", .null),
      ("kind", .str "ConfigMap"), ("metadata", .obj [("name", .str "settings")])]
    let applied : List Json := [entry, .arr [.null, .arr []]]
    let written : NamespaceClass := { metadata := { name := some "web" }, status := some ⟨applied⟩ }
    let fields : List (String × Json) := [
      ("metadata", .obj [("name", .str "web")]), ("spec", .obj []),
      ("status", .obj [("lastAppliedResources", .arr [.int 1, .int 2]), ("phase", .str "Ready")])]
    ∃ after t kept, NamespaceClass.decode (.obj fields : Json) =
        .ok { after with status := some ⟨[.int 1, .int 2]⟩ } ∧
      NamespaceClass.decode (Json.mergePatch (.obj fields) (statusPatch written)) = .ok after ∧
      (Json.mergePatch (.obj fields) (statusPatch written)).get? "status" = some (.obj kept) ∧
      Json.lookup "phase" kept = some (.str "Ready") ∧ after.lastApplied = applied ∧
      (t, entry) ∈ (Revision.of after).removed ∧
      ∀ client serve, ∃ reply, ((ApiClient.perform ⟨1000, "a controller"⟩ client
        (.replaceClassStatus written)).runAgainst serve []).2 =
          [(⟨.patch, "/apis/namespaceclass.akuity.io/v1alpha1/namespaceclasses/web/status" ++
            "?&fieldManager=a+controller", some (statusPatch written)⟩, reply)] := by
  intro entry applied written fields
  let after : NamespaceClass := { metadata := { name := some "web" }, status := some ⟨applied⟩ }
  have hstored : NamespaceClass.decode (.obj fields : Json) =
    .ok { after with status := some ⟨[.int 1, .int 2]⟩ } := rfl
  obtain ⟨t, ht⟩ : ∃ t, Template.parse entry = .ok t := ⟨_, rfl⟩
  obtain ⟨-, ⟨kept, hstatus, -, hothers⟩, hdecode, hlist, hsends⟩ :=
    statusPatch_replaces_status fields written applied rfl
  have hafter := (hdecode _ hstored).1
  obtain ⟨happlied, hremoved⟩ := hlist _ hafter
  refine ⟨after, t, kept, hstored, hafter, hstatus, hothers "phase" (by decide), happlied,
    (hremoved t entry).2 ⟨List.mem_cons_self, ht, nofun⟩, fun client serve => ?_⟩
  obtain ⟨sent, hlog, -, hone⟩ := hsends ⟨1000, "a controller"⟩ client serve []
  obtain ⟨reply, hsent⟩ :=
    hone (by decide) (by decide +kernel) (by decide) (by decide +kernel)
  have htarget : statusTarget "web" "a controller" =
      "/apis/namespaceclass.akuity.io/v1alpha1/namespaceclasses/web/status" ++
        "?&fieldManager=a+controller" := by decide +kernel
  rw [← htarget]
  exact ⟨reply, hlog.trans hsent⟩

end ClassReconciler
