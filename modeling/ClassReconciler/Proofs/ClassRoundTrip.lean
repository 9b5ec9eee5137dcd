import ClassReconciler.Proofs.ApiCourse
import ClassReconciler.Proofs.ClassDocument
import ClassReconciler.Proofs.RequestTargets
import ClassReconciler.Proofs.Revision
import ClassReconciler.Proofs.WrittenInstants

/-!
# Classes that are written back

A class that was read is written as a value that is read as the same class, but for the fractions of
seconds in its metadata (`NamespaceClass.decode_encode`). Each kind of value in it reads back from
its written form (`ReadsBack`), and a field that is unset is left out and read as unset
(`Decode.optional_present`). The one value that would not read back is a null in the place of
managed fields, which no class that was read holds (`Metadata.Readable`). What is read back is
written in the same way, so that writing after reading changes a value once at most
(`decoded_class_reads_back`).
-/

namespace ClassReconciler

/-! ## Values that read back -/

theorem Decode.integer_int {least most n : Int} (name : String) (h : least ≤ n ∧ n ≤ most) :
    integer least most name (.int n : Json) = .ok n := by
  have hlayer : layer (.int n : Json) = .ok (.int n) := rfl
  simp only [integer, hlayer, except_ok_bind, h, and_self, if_true]

/-- A text that is read as an instant. -/
theorem Decode.instant_str {s : String} {t : Instant} (h : Instant.read s = .ok t) :
    instant (.str s : Json) = .ok t := by
  have hlayer : layer (.str s : Json) = .ok (.str s) := rfl
  simp only [instant, hlayer, except_ok_bind, h]
  rfl

/-- The fields of an object, whatever it is read as. -/
theorem Decode.fields_obj (type : String) (fields : List (String × Json)) :
    Decode.fields type (.obj fields : Json) = .ok fields := rfl

/-- What is written for a value sets a field, and reads back as what becomes of the value. -/
structure ReadsBack {α : Type} (decode : Decoder Json α) (encode : α → Json) (a a' : α) : Prop where
  set : (encode a).isNull = false
  read : decode (encode a) = .ok a'

namespace ReadsBack

variable {α : Type} {decode : Decoder Json α} {encode : α → Json}

theorem string (s : String) : ReadsBack Decode.string .str s s := ⟨rfl, rfl⟩

theorem boolean (b : Bool) : ReadsBack Decode.boolean .bool b b := ⟨rfl, rfl⟩

theorem int64 (n : Int64) : ReadsBack Decode.int64 Encode.int64 n n := by
  refine ⟨rfl, ?_⟩
  rw [Encode.int64, Decode.int64,
    Decode.integer_int "i64" (And.intro n.minValue_le_toInt n.toInt_le)]
  exact congrArg Except.ok n.ofInt_toInt

/-- An instant loses the fraction of its second. -/
theorem instant (t : Instant) : ReadsBack Decode.instant Encode.instant t t.cut :=
  ⟨rfl, Decode.instant_str t.read_text⟩

/-- A list reads back entry by entry. -/
theorem list {f : α → α} {as : List α} (h : ∀ a ∈ as, ReadsBack decode encode a (f a)) :
    ReadsBack (Decode.list decode) (fun as => .arr (as.map encode)) as (as.map f) := by
  refine ⟨rfl, ?_⟩
  change Decode.items decode (as.map encode) = _
  induction as with
  | nil => rfl
  | cons a rest ih =>
    rw [List.map_cons, Decode.items, (h a List.mem_cons_self).read,
      ih fun b hb => h b (List.mem_cons_of_mem a hb)]
    rfl

theorem list_same (h : ∀ a, ReadsBack decode encode a a) (as : List α) :
    ReadsBack (Decode.list decode) (fun as => .arr (as.map encode)) as as := by
  have hlist := list fun a (_ : a ∈ as) => h a
  rwa [List.map_id'] at hlist

theorem strings (ss : List String) : ReadsBack (Decode.list Decode.string) Encode.strings ss ss :=
  list_same string ss

theorem stringMap (m : SortedMap String String) :
    ReadsBack Decode.stringMap Encode.stringMap m m := by
  refine ⟨rfl, ?_⟩
  have hentries (es : List (String × String)) :
      Decode.entries Decode.string (es.map fun e => (e.1, Json.str e.2)) = .ok es := by
    induction es with
    | nil => rfl
    | cons e rest ih =>
      rw [List.map_cons, Decode.entries, ih]
      rfl
  change SortedMap.ofList <$> Decode.entries Decode.string _ = _
  rw [hentries m.entries]
  exact congrArg Except.ok m.ofList_entries

end ReadsBack

/-! ## Fields that read back -/

theorem Encode.record_eq {settings : List (String × Option Json)}
    (h : settings.Pairwise fun f g => f.1 < g.1) : record settings = .obj (Json.present settings) :=
  Json.ofFields_of_pairwise (Json.pairwise_present h)

section Fields

variable {α : Type} {decode : Decoder Json α} {encode : α → Json} {a : Option α}
  {settings : List (String × Option Json)}

/-- A field that is written where it is set reads back, and one that is unset stays so. -/
theorem Decode.optional_present (name : String)
    (hsettings : settings.Pairwise fun f g => f.1 < g.1) {f : α → α}
    (hset : (settings.find? (·.1 = name)).bind Prod.snd = a.map encode)
    (h : ∀ x ∈ a, ReadsBack decode encode x (f x)) :
    optional decode name (Json.present settings) = .ok (a.map f) := by
  rw [optional_json, Json.setting?, Json.lookup_present (hsettings.imp String.ne_of_lt), hset]
  cases a with
  | none => rfl
  | some x =>
    obtain ⟨hnull, hread⟩ := h x rfl
    simp only [Option.map_some, Option.filter_some, hnull, Bool.not_false, if_true, hread]
    rfl

theorem Decode.optional_present_same (name : String)
    (hsettings : settings.Pairwise fun f g => f.1 < g.1)
    (hset : (settings.find? (·.1 = name)).bind Prod.snd = a.map encode)
    (h : ∀ x, ReadsBack decode encode x x) :
    optional decode name (Json.present settings) = .ok a := by
  have hread := optional_present name hsettings hset fun x _ => h x
  rwa [Option.map_id'] at hread

/-- A record whose fields are read back as a value reads back as that value. -/
theorem ReadsBack.record {a a' : α} (hsettings : settings.Pairwise fun f g => f.1 < g.1)
    (hencode : encode a = Encode.record settings)
    (hread : decode (.obj (Json.present settings)) = .ok a') : ReadsBack decode encode a a' := by
  rw [Encode.record_eq hsettings] at hencode
  exact ⟨by rw [hencode]; rfl, by rw [hencode, hread]⟩

end Fields

/-! ## Owners and managers -/

theorem OwnerReference.pairwise_settings (r : OwnerReference) :
    r.settings.Pairwise fun f g => f.1 < g.1 :=
  List.pairwise_map.1 (by decide : ["apiVersion", "blockOwnerDeletion", "controller", "kind",
    "name", "uid"].Pairwise (· < ·))

theorem OwnerReference.readsBack (r : OwnerReference) : ReadsBack decode encode r r := by
  have hsettings := r.pairwise_settings
  have htext (name : String) (s : String)
      (hset : (r.settings.find? (·.1 = name)).bind Prod.snd = (some s).map .str) :=
    Decode.optional_present_same name hsettings hset ReadsBack.string
  have hflag (name : String) (b : Option Bool)
      (hset : (r.settings.find? (·.1 = name)).bind Prod.snd = b.map .bool) :=
    Decode.optional_present_same name hsettings hset ReadsBack.boolean
  refine .record hsettings rfl ?_
  rw [decode, Decode.fields_obj]
  simp only [except_ok_bind, htext "apiVersion" r.apiVersion rfl,
    hflag "blockOwnerDeletion" r.blockOwnerDeletion rfl, hflag "controller" r.controller rfl,
    htext "kind" r.kind rfl, htext "name" r.name rfl, htext "uid" r.uid rfl]
  rfl

namespace ManagedFields

/-- The entry without the fraction of its second. -/
def cut (m : ManagedFields) : ManagedFields := { m with time := m.time.map Instant.cut }

/-- The fields are not null, as they never are in an entry that was read. -/
def Readable (m : ManagedFields) : Prop := ∀ v ∈ m.fieldsV1, v.isNull = false

theorem pairwise_settings (m : ManagedFields) : m.settings.Pairwise fun f g => f.1 < g.1 :=
  List.pairwise_map.1 (by decide : ["apiVersion", "fieldsType", "fieldsV1", "manager",
    "operation", "subresource", "time"].Pairwise (· < ·))

theorem encode_cut (m : ManagedFields) : m.cut.encode = m.encode := by
  have htime : m.cut.time.map Encode.instant = m.time.map Encode.instant :=
    (Option.map_map ..).trans (Option.map_congr fun t _ => congrArg Json.str t.text_cut)
  rw [encode, encode, settings, settings, htime]
  rfl

theorem readsBack {m : ManagedFields} (h : m.Readable) : ReadsBack decode encode m m.cut := by
  have hsettings := m.pairwise_settings
  have htext (name : String) (s : Option String)
      (hset : (m.settings.find? (·.1 = name)).bind Prod.snd = s.map .str) :=
    Decode.optional_present_same name hsettings hset ReadsBack.string
  have hfieldsV1 : Decode.optional Decode.any "fieldsV1" (Json.present m.settings) =
      .ok (m.fieldsV1.map id) :=
    Decode.optional_present "fieldsV1" hsettings Option.map_id'.symm fun v hv => ⟨h v hv, rfl⟩
  have htime := Decode.optional_present "time" hsettings
    (rfl : _ = m.time.map Encode.instant) fun t _ => .instant t
  refine .record hsettings rfl ?_
  rw [decode, Decode.fields_obj]
  simp only [except_ok_bind, htext "apiVersion" m.apiVersion rfl,
    htext "fieldsType" m.fieldsType rfl, hfieldsV1, Option.map_id, id,
    htext "manager" m.manager rfl, htext "operation" m.operation rfl,
    htext "subresource" m.subresource rfl, htime]
  rfl

end ManagedFields

/-! ## Metadata -/

namespace Metadata

/-- The metadata without the fractions of its seconds. -/
def cut (m : Metadata) : Metadata :=
  { m with
    creationTimestamp := m.creationTimestamp.map Instant.cut
    deletionTimestamp := m.deletionTimestamp.map Instant.cut
    managedFields := m.managedFields.map (·.map ManagedFields.cut) }

/-- No managed fields are null. -/
def Readable (m : Metadata) : Prop := ∀ ms ∈ m.managedFields, ∀ entry ∈ ms, entry.Readable

theorem pairwise_settings (m : Metadata) : m.settings.Pairwise fun f g => f.1 < g.1 :=
  List.pairwise_map.1 (by decide : (Prod.fst <$> (default : Metadata).settings).Pairwise (· < ·))

theorem encode_cut (m : Metadata) : m.cut.encode = m.encode := by
  have htime (time : Option Instant) :
      (time.map Instant.cut).map Encode.instant = time.map Encode.instant :=
    (Option.map_map ..).trans (Option.map_congr fun t _ => congrArg Json.str t.text_cut)
  have hmanaged : m.cut.managedFields.map (fun ms => Json.arr (ms.map ManagedFields.encode)) =
      m.managedFields.map fun ms => .arr (ms.map ManagedFields.encode) := by
    refine (Option.map_map ..).trans (Option.map_congr fun ms _ => congrArg Json.arr ?_)
    exact List.map_map.trans (List.map_congr_left fun entry _ => entry.encode_cut)
  rw [encode, encode, settings, settings, hmanaged]
  simp only [cut, htime]

theorem readsBack {m : Metadata} (h : m.Readable) : ReadsBack decode encode m m.cut := by
  have hsettings := m.pairwise_settings
  have htext (name : String) (s : Option String)
      (hset : (m.settings.find? (·.1 = name)).bind Prod.snd = s.map .str) :=
    Decode.optional_present_same name hsettings hset ReadsBack.string
  have hmap (name : String) (entries : Option (SortedMap String String))
      (hset : (m.settings.find? (·.1 = name)).bind Prod.snd = entries.map Encode.stringMap) :=
    Decode.optional_present_same name hsettings hset ReadsBack.stringMap
  have hnumber (name : String) (n : Option Int64)
      (hset : (m.settings.find? (·.1 = name)).bind Prod.snd = n.map Encode.int64) :=
    Decode.optional_present_same name hsettings hset ReadsBack.int64
  have htime (name : String) (t : Option Instant)
      (hset : (m.settings.find? (·.1 = name)).bind Prod.snd = t.map Encode.instant) :=
    Decode.optional_present name hsettings hset fun t _ => ReadsBack.instant t
  have hfinalizers := Decode.optional_present_same "finalizers" hsettings
    (rfl : _ = m.finalizers.map Encode.strings) ReadsBack.strings
  have hmanaged := Decode.optional_present "managedFields" hsettings
    (rfl : _ = m.managedFields.map _) fun ms hms =>
      ReadsBack.list fun entry hentry => ManagedFields.readsBack (h ms hms entry hentry)
  have howners := Decode.optional_present_same "ownerReferences" hsettings
    (rfl : _ = m.ownerReferences.map _) (ReadsBack.list_same OwnerReference.readsBack)
  refine .record hsettings rfl ?_
  rw [decode, Decode.fields_obj]
  simp only [except_ok_bind, hmap "annotations" m.annotations rfl,
    htime "creationTimestamp" m.creationTimestamp rfl,
    hnumber "deletionGracePeriodSeconds" m.deletionGracePeriodSeconds rfl,
    htime "deletionTimestamp" m.deletionTimestamp rfl, hfinalizers,
    htext "generateName" m.generateName rfl, hnumber "generation" m.generation rfl,
    hmap "labels" m.labels rfl, hmanaged, htext "name" m.name rfl,
    htext "namespace" m.inNamespace rfl, howners,
    htext "resourceVersion" m.resourceVersion rfl, htext "selfLink" m.selfLink rfl,
    htext "uid" m.uid rfl]
  rfl

end Metadata

/-! ## Classes -/

theorem NamespaceClassSpec.readsBack (s : NamespaceClassSpec) : ReadsBack decode encode s s := by
  obtain ⟨resources⟩ := s
  cases resources with
  | nil => exact ⟨rfl, rfl⟩
  | cons v rest =>
    refine ⟨rfl, ?_⟩
    change decode (.obj [("resources", .arr (v :: rest))] : Json) = _
    rw [decode, decodeResources_obj, Decode.given_json, Json.lookup, if_pos rfl]
    simp only [Decode.list_any]
    rfl

theorem NamespaceClassStatus.readsBack (s : NamespaceClassStatus) :
    ReadsBack decode encode s s := by
  refine ⟨rfl, ?_⟩
  change decode (.obj [("lastAppliedResources", .arr s.lastAppliedResources)] : Json) = _
  rw [decode, decodeResources_obj, Decode.given_json, Json.lookup, if_pos rfl]
  simp only [Decode.list_any]
  rfl

namespace NamespaceClass

variable {c : NamespaceClass}

/-- The class without the fractions of seconds in its metadata. -/
def cut (c : NamespaceClass) : NamespaceClass := { c with metadata := c.metadata.cut }

theorem pairwise_settings (c : NamespaceClass) : c.settings.Pairwise fun f g => f.1 < g.1 :=
  List.pairwise_map.1 (by decide : ["apiVersion", "kind", "metadata", "spec",
    "status"].Pairwise (· < ·))

theorem decode_encode (h : c.metadata.Readable) : decode c.encode = .ok c.cut := by
  have hsettings := c.pairwise_settings
  have hmetadata : Json.lookup "metadata" (Json.present c.settings) = some c.metadata.encode :=
    (Json.lookup_present (hsettings.imp String.ne_of_lt) "metadata").trans rfl
  have hspec : Json.lookup "spec" (Json.present c.settings) = some c.spec.encode :=
    (Json.lookup_present (hsettings.imp String.ne_of_lt) "spec").trans rfl
  rw [encode, Encode.record_eq hsettings, decode_obj]
  refine decodeFields_eq_ok.2 ⟨?_, ?_, ?_⟩
  · rw [Decode.given_json, hmetadata]
    exact congrArg (some <$> ·) (Metadata.readsBack h).read
  · rw [Decode.given_json, hspec]
    exact congrArg (some <$> ·) c.spec.readsBack.read
  · exact Decode.optional_present_same "status" hsettings rfl NamespaceClassStatus.readsBack

end NamespaceClass

/-! ## What was read is readable -/

theorem Decode.mem_items {α : Type} {decode : Decoder Json α} {vs : List Json} {as : List α} {a : α}
    (h : items decode vs = .ok as) (ha : a ∈ as) : ∃ v ∈ vs, decode v = .ok a := by
  induction vs generalizing as with
  | nil =>
    obtain rfl := Except.ok.inj h
    cases ha
  | cons v rest ih =>
    simp only [items, except_bind_eq_ok] at h
    obtain ⟨b, hb, others, hothers, h⟩ := h
    obtain rfl := Except.ok.inj h
    rcases List.mem_cons.1 ha with rfl | ha
    · exact ⟨v, List.mem_cons_self, hb⟩
    · obtain ⟨w, hw, hread⟩ := ih hothers ha
      exact ⟨w, List.mem_cons_of_mem v hw, hread⟩

theorem Decode.mem_list {α : Type} {decode : Decoder Json α} {v : Json} {as : List α} {a : α}
    (h : list decode v = .ok as) (ha : a ∈ as) : ∃ w, decode w = .ok a := by
  cases v with
  | arr vs =>
    obtain ⟨w, -, hread⟩ := mem_items h ha
    exact ⟨w, hread⟩
  | _ => cases h

/-- What an optional field is read as was read from what it is set to. -/
theorem Decode.of_optional {α : Type} {decode : Decoder Json α} {name : String}
    {fields : List (String × Json)} {a : α} (h : optional decode name fields = .ok (some a)) :
    ∃ v, Json.setting? name fields = some v ∧ decode v = .ok a := by
  rw [optional_json] at h
  cases hset : Json.setting? name fields with
  | none =>
    rw [hset] at h
    cases h
  | some v =>
    rw [hset] at h
    obtain ⟨b, hb, heq⟩ := except_map_eq_ok.1 h
    exact ⟨v, rfl, Option.some.inj heq ▸ hb⟩

theorem ManagedFields.readable_of_decode {v : Json} {m : ManagedFields}
    (h : decode v = .ok m) : m.Readable := by
  intro w hw
  -- Of the fields that are read one after the other only the raw value matters.
  simp only [decode, except_bind_eq_ok] at h
  obtain ⟨fields, -, _, -, _, -, fieldsV1, hfieldsV1, h⟩ := h
  obtain ⟨_, -, _, -, _, -, _, -, h⟩ := h
  obtain rfl := Except.ok.inj h
  obtain rfl : fieldsV1 = some w := hw
  obtain ⟨u, hset, hu⟩ := Decode.of_optional hfieldsV1
  obtain rfl : u = w := Except.ok.inj hu
  simpa using (Option.filter_eq_some_iff.1 hset).2

theorem Metadata.readable_of_decode {v : Json} {m : Metadata} (h : decode v = .ok m) :
    m.Readable := by
  intro ms hms entry hentry
  simp only [decode, except_bind_eq_ok] at h
  obtain ⟨fields, -, _, -, _, -, _, -, _, -, _, -, _, -, _, -, _, -, managed, hmanaged, h⟩ := h
  obtain ⟨_, -, _, -, _, -, _, -, _, -, _, -, h⟩ := h
  obtain rfl := Except.ok.inj h
  obtain rfl : managed = some ms := hms
  obtain ⟨w, -, hw⟩ := Decode.of_optional hmanaged
  obtain ⟨u, hu⟩ := Decode.mem_list hw hentry
  exact ManagedFields.readable_of_decode hu

namespace NamespaceClass

/-- The metadata of a class was read as metadata, by name or by position. -/
theorem exists_metadata_of_decode {v : Json} {c : NamespaceClass} (h : decode v = .ok c) :
    ∃ w : Json, Metadata.decode w = .ok c.metadata := by
  cases v with
  | obj fields =>
    rw [decode_obj] at h
    obtain ⟨hmetadata, -, -⟩ := decodeFields_eq_ok.1 h
    rw [Decode.given_json] at hmetadata
    split at hmetadata
    case h_1 => cases hmetadata
    case h_2 w _ =>
      obtain ⟨m, hm, heq⟩ := except_map_eq_ok.1 hmetadata
      exact ⟨w, Option.some.inj heq ▸ hm⟩
  | arr items =>
    obtain ⟨m, _, _, rfl, hm, -, -⟩ := decodeItems_eq_ok.1 h
    exact ⟨m, hm⟩
  | _ => cases h

theorem readable_of_decode {v : Json} {c : NamespaceClass} (h : decode v = .ok c) :
    c.metadata.Readable := by
  obtain ⟨w, hw⟩ := exists_metadata_of_decode h
  exact Metadata.readable_of_decode hw

theorem encode_cut (c : NamespaceClass) : c.cut.encode = c.encode := by
  rw [encode, encode, settings, settings, cut, Metadata.encode_cut]

theorem isDeleting_cut (c : NamespaceClass) : c.cut.isDeleting = c.isDeleting :=
  Option.isSome_map

end NamespaceClass

/-! ## Writing a class back -/

/-- What the call that replaces a class sends, if anything can be sent, is the class. A name that
fits into a path makes one request. -/
theorem ApiClient.replaceClass_sends (cfg : ApiConfig) (client : ApiClient)
    (serve : RequestLog → Request → Reply) (log : RequestLog) (c : NamespaceClass) :
    ∃ sent, ((client.perform cfg (.replaceClass c)).runAgainst serve log).2 = log ++ sent ∧
      (∀ e ∈ sent, e.1.method = .put ∧ e.1.body = some c.encode) ∧
      (c.nameAny ≠ "" → FitsPath c.nameAny → (classPath c.nameAny ++ "?").utf8ByteSize < 65535 →
        ∃ reply, sent = [(⟨.put, classPath c.nameAny ++ "?", some c.encode⟩, reply)]) := by
  have hput (r : Request) (hr : Collection.classes.replace? c.nameAny c.encode = some r) :
      r.method = .put ∧ r.body = some c.encode := by
    obtain ⟨-, hfor⟩ := Collection.replace?_classes.1 hr
    exact ⟨hfor.method, hfor.body⟩
  obtain ⟨sent, hlog, hall, hone⟩ := exists_sent hput client serve log
  refine ⟨sent, hlog, hall, fun hname hfits hshort => hone _ ?_⟩
  have hsent := sentAs_emptyQuery (fitsPath_classPath hfits) hshort
  exact Collection.replace?_classes.2 ⟨hname, hsent.isFor_iff.2 rfl⟩

/-- A class that was read is written as a value that is read as the same class again, but for the
fractions of seconds in its metadata: with its resources, its record and its status, if it has one,
which are those that stand in the value it was read from and in the one that is written. Its times
may be in any year. What is read again is written as the same value, so that nothing changes a
second time, and it answers the questions of the controller alike. The written value is what the
call that replaces the class sends, with one request if a path can hold its name. -/
theorem decoded_class_reads_back {v : Json} {c : NamespaceClass}
    (h : NamespaceClass.decode v = .ok c) :
    ∃ c', NamespaceClass.decode c.encode = .ok c' ∧
      c'.spec.resources = c.spec.resources ∧
      c'.status.isSome = c.status.isSome ∧
      c'.status.map (·.lastAppliedResources) = c.status.map (·.lastAppliedResources) ∧
      HoldsClass v c.spec.resources (c.status.map (·.lastAppliedResources)) ∧
      HoldsClass c.encode c.spec.resources (c.status.map (·.lastAppliedResources)) ∧
      c'.metadata = c.metadata.cut ∧
      c'.encode = c.encode ∧ NamespaceClass.decode c'.encode = .ok c' ∧
      c'.hasFinalizer = c.hasFinalizer ∧ c'.isDeleting = c.isDeleting ∧
      c'.lastApplied = c.lastApplied ∧ c'.nameAny = c.nameAny ∧
      ∀ cfg client serve log, ∃ sent,
        ((ApiClient.perform cfg client (.replaceClass c)).runAgainst serve log).2 = log ++ sent ∧
        (∀ e ∈ sent, e.1.method = .put ∧ e.1.body = some c.encode) ∧
        (c.nameAny ≠ "" → FitsPath c.nameAny → (classPath c.nameAny ++ "?").utf8ByteSize < 65535 →
          ∃ reply, sent = [(⟨.put, classPath c.nameAny ++ "?", some c.encode⟩, reply)]) := by
  have hread := NamespaceClass.decode_encode (NamespaceClass.readable_of_decode h)
  have hwritten := NamespaceClass.holds_of_decode hread
  refine ⟨c.cut, hread, rfl, rfl, rfl, NamespaceClass.holds_of_decode h, hwritten, rfl,
    c.encode_cut, ?_, rfl, c.isDeleting_cut, rfl, rfl,
    fun cfg client serve log => client.replaceClass_sends cfg serve log c⟩
  rw [c.encode_cut, hread]

/-- Metadata of a time and a name is read as that time and that name. -/
theorem Metadata.decode_created {created name : String} {t : Instant}
    (h : Instant.read created = .ok t) :
    decode (.obj [("creationTimestamp", .str created), ("name", .str name)] : Json) =
      .ok { creationTimestamp := some t, name := some name } := by
  have hcreated : Decode.optional Decode.instant "creationTimestamp"
      [("creationTimestamp", .str created), ("name", Json.str name)] = .ok (some t) := by
    rw [Decode.optional_json]
    exact congrArg (some <$> ·) (Decode.instant_str h)
  rw [decode, Decode.fields_obj]
  simp only [except_ok_bind, hcreated]
  rfl

/-- A class with a time in another zone, a null in the place of its status and a field that is
unheard of, as it is read and as it is written and put. -/
theorem decoded_class_reads_back_sample :
    let document : String → List (String × Json) → Json := fun created others => .obj <|
      [("apiVersion", .str NamespaceClass.apiVersion), ("kind", .str NamespaceClass.kind),
        ("metadata", .obj [("creationTimestamp", .str created), ("name", .str "web")]),
        ("spec", .obj [("resources", .arr [.int 0, .float (.zero true), .null])])] ++ others
    ∃ c c' t,
      NamespaceClass.decode (document "2024-03-01T01:30:00.75+02:00"
        [("status", .null), ("unheard", .null)]) = .ok c ∧
      c.metadata.creationTimestamp = some t ∧ t.nanos = 750000000 ∧
      c.encode = document "2024-02-29T23:30:00Z" [] ∧
      NamespaceClass.decode c.encode = .ok c' ∧ c'.metadata.creationTimestamp = some t.cut ∧
      t.cut.nanos = 0 ∧ c'.encode = c.encode ∧
      HoldsClass c.encode [.int 0, .float (.zero true), .null] none ∧
      ∀ cfg client serve, ∃ reply,
        ((ApiClient.perform cfg client (.replaceClass c)).runAgainst serve []).2 =
          [(⟨.put, "/apis/namespaceclass.akuity.io/v1alpha1/namespaceclasses/web?", some c.encode⟩,
            reply)] := by
  intro document
  let t : Instant :=
    ⟨⟨2024, 2, 29, by decide, by decide, by decide⟩, 23, 30, 0, 750000000, by decide, by decide,
      by decide, by decide⟩
  let c : NamespaceClass :=
    { metadata := { creationTimestamp := some t, name := some "web" }
      spec := ⟨[.int 0, .float (.zero true), .null]⟩ }
  have hread : Instant.read "2024-03-01T01:30:00.75+02:00" = .ok t :=
    except_toOption_eq_some.1 (by decide +kernel)
  have htext : t.text = "2024-02-29T23:30:00Z" := by decide +kernel
  have hdecode : NamespaceClass.decode (document "2024-03-01T01:30:00.75+02:00"
      [("status", .null), ("unheard", .null)]) = .ok c := by
    rw [NamespaceClass.decode_obj]
    refine NamespaceClass.decodeFields_eq_ok.2 ⟨?_, ?_, ?_⟩
    · rw [Decode.given_json]
      exact congrArg (some <$> ·) (Metadata.decode_created hread)
    · rfl
    · rfl
  have hmetadata : c.metadata.encode =
      .obj [("creationTimestamp", .str t.text), ("name", .str "web")] :=
    Encode.record_eq c.metadata.pairwise_settings
  have hwritten : c.encode = document t.text [] := by
    rw [NamespaceClass.encode, Encode.record_eq c.pairwise_settings, NamespaceClass.settings,
      hmetadata]
    rfl
  rw [htext] at hwritten
  obtain ⟨c', hagain, -, -, -, -, hheld, hcut, hencode, -, -, -, -, -, hsends⟩ :=
    decoded_class_reads_back hdecode
  refine ⟨c, c', t, hdecode, rfl, rfl, hwritten, hagain, by rw [hcut]; rfl, by decide, hencode,
    hheld, fun cfg client serve => ?_⟩
  obtain ⟨sent, hlog, -, hone⟩ := hsends cfg client serve []
  obtain ⟨reply, hsent⟩ := hone (by decide) (by decide +kernel) (by decide +kernel)
  have htarget : classPath c.nameAny ++ "?" =
      "/apis/namespaceclass.akuity.io/v1alpha1/namespaceclasses/web?" := by decide +kernel
  rw [htarget] at hsent
  exact ⟨reply, hlog.trans hsent⟩

end ClassReconciler
