import ClassReconciler.Proofs.ObjectFields
import ClassReconciler.Proofs.TemplateGrammar

/-!
# What an object keeps of its template

The object that a template describes inside a namespace is written as the raw value with other
metadata (`Template.ReadFrom.encode_toObject`): the name, the namespace, and those of the labels,
the annotations, the finalizers and the stem of a generated name that are set. Nothing else of the
metadata reaches the object (`Template.ReadFrom.toObject_congr`), so that what a server has stored
in the metadata of a raw value makes no difference. What is written is a template again
(`Template.ReadFrom.written`), with the same objects in all namespaces.
-/

namespace ClassReconciler

/-! ## Values that are written as they were read -/

namespace Decode

theorem eq_of_string {v : Json} {s : String} (h : string v = .ok s) : v = .str s := by
  cases v with
  | str s' =>
    obtain rfl := Except.ok.inj h
    rfl
  | _ => cases h

theorem map_str_of_items {vs : List Json} {ss : List String} (h : items string vs = .ok ss) :
    ss.map Json.str = vs := by
  induction vs generalizing ss with
  | nil =>
    obtain rfl := Except.ok.inj h
    rfl
  | cons v rest ih =>
    simp only [items, except_bind_eq_ok] at h
    obtain ⟨s, hs, others, hothers, h⟩ := h
    obtain rfl := Except.ok.inj h
    rw [List.map_cons, ih hothers, eq_of_string hs]

theorem map_str_of_entries {fields : List (String × Json)} {es : List (String × String)}
    (h : entries string fields = .ok es) : es.map (fun e => (e.1, Json.str e.2)) = fields := by
  induction fields generalizing es with
  | nil =>
    obtain rfl := Except.ok.inj h
    rfl
  | cons f rest ih =>
    obtain ⟨k, v⟩ := f
    simp only [entries, except_bind_eq_ok] at h
    obtain ⟨s, hs, others, hothers, h⟩ := h
    obtain rfl := Except.ok.inj h
    rw [List.map_cons, ih hothers, eq_of_string hs]

theorem strings_of_list {v : Json} {ss : List String} (h : list string v = .ok ss) :
    Encode.strings ss = v := by
  cases v with
  | arr vs => exact congrArg Json.arr (map_str_of_items h)
  | _ => cases h

theorem encode_of_stringMap {v : Json} {m : SortedMap String String} (hordered : v.Ordered)
    (h : stringMap v = .ok m) : Encode.stringMap m = v := by
  cases v with
  | obj fields =>
    obtain ⟨es, hes, rfl⟩ := except_map_eq_ok.1 (show SortedMap.ofList <$> entries string fields = _
      from h)
    have hfields := map_str_of_entries hes
    have hascending : Ascending es := by
      rw [Json.Ordered, ← hfields, List.pairwise_map] at hordered
      exact hordered.1.imp compareOfLessAndEq_eq_lt.2
    rw [Encode.stringMap, SortedMap.entries_ofList hascending, hfields]
  | _ => cases h

/-- An optional field is written as it was set, where its value is written as it was read. -/
theorem map_of_optional {α : Type} {decode : Decoder Json α} {encode : α → Json} {name : String}
    {fields : List (String × Json)} {a : Option α}
    (hverbatim : ∀ v a, Json.setting? name fields = some v → decode v = .ok a → encode a = v)
    (h : optional decode name fields = .ok a) : a.map encode = Json.setting? name fields := by
  rw [optional_json] at h
  cases hv : Json.setting? name fields with
  | none =>
    rw [hv] at h
    obtain rfl := Except.ok.inj h
    rfl
  | some v =>
    rw [hv] at h
    obtain ⟨b, hb, rfl⟩ := except_map_eq_ok.1 h
    rw [Option.map_some, hverbatim v b hv hb]

end Decode

/-! ## Metadata -/

namespace Metadata

/-- The fields of metadata that an object has from its template. -/
def keptFields : List String := ["annotations", "finalizers", "generateName", "labels", "name"]

/-- The fields of metadata that the server keeps. -/
def serverFields : List String :=
  ["resourceVersion", "uid", "creationTimestamp", "managedFields", "generation", "selfLink",
    "deletionTimestamp", "deletionGracePeriodSeconds", "ownerReferences"]

/-- The fields of metadata that an object does not have from its template. -/
def ownedFields : List String := "namespace" :: serverFields

/-- The fields that metadata has; others are unknown. -/
def knownFields : List String := keptFields ++ ownedFields

theorem mem_keptFields_iff {key : String} :
    key ∈ keptFields ↔ ¬(key ∈ ownedFields ∨ key ∉ knownFields) := by
  have hdisjoint : ∀ key ∈ keptFields, key ∉ ownedFields := by decide
  rw [knownFields, List.mem_append, not_or, Decidable.not_not]
  exact ⟨fun h => ⟨hdisjoint key h, .inl h⟩, fun ⟨hnot, h⟩ => h.resolve_right hnot⟩

/-- What the metadata of an object is written with: its name, its namespace, and what the template
sets of the other fields that are kept. -/
def writtenSettings (metadata : List (String × Json)) (name namespaceName : String) :
    List (String × Option Json) := [
  ("annotations", Json.setting? "annotations" metadata),
  ("finalizers", Json.setting? "finalizers" metadata),
  ("generateName", Json.setting? "generateName" metadata),
  ("labels", Json.setting? "labels" metadata),
  ("name", some (.str name)),
  ("namespace", some (.str namespaceName))]

/-- The metadata that an object is written with. -/
def writtenFields (metadata : List (String × Json)) (name namespaceName : String) :
    List (String × Json) :=
  Json.present (writtenSettings metadata name namespaceName)

variable {fields fields' metadata : List (String × Json)} {m m' : Metadata} {name n : String}

/-- The metadata has what the fields set of those that are kept. -/
structure DecodesKept (fields : List (String × Json)) (m : Metadata) : Prop where
  annotations : Decode.optional Decode.stringMap "annotations" fields = .ok m.annotations
  finalizers : Decode.optional (Decode.list Decode.string) "finalizers" fields = .ok m.finalizers
  generateName : Decode.optional Decode.string "generateName" fields = .ok m.generateName
  labels : Decode.optional Decode.stringMap "labels" fields = .ok m.labels
  name : Decode.optional Decode.string "name" fields = .ok m.name

theorem decodesKept (h : decode (.obj fields : Json) = .ok m) : DecodesKept fields m := by
  -- fifteen fields are decoded, of which five are kept
  simp only [decode, except_bind_eq_ok] at h
  obtain ⟨fields', hfields, h⟩ := h
  obtain rfl : fields = fields' := Except.ok.inj hfields
  obtain ⟨_, hannotations, _, -, _, -, _, -, _, hfinalizers, _, hgenerateName, _, -, h⟩ := h
  obtain ⟨_, hlabels, _, -, _, hname, _, -, _, -, _, -, _, -, _, -, h⟩ := h
  obtain rfl := Except.ok.inj h
  exact ⟨hannotations, hfinalizers, hgenerateName, hlabels, hname⟩

namespace DecodesKept

theorem congr (h : DecodesKept fields m)
    (hkept : ∀ key ∈ keptFields, Json.setting? key fields = Json.setting? key fields') :
    DecodesKept fields' m := by
  have hoptional : ∀ {α : Type} (decode : Decoder Json α), ∀ key ∈ keptFields,
      Decode.optional decode key fields' = Decode.optional decode key fields := by
    intro α decode key hkey
    rw [Decode.optional_json, Decode.optional_json, hkept key hkey]
  exact ⟨(hoptional _ "annotations" (by decide)).trans h.annotations,
    (hoptional _ "finalizers" (by decide)).trans h.finalizers,
    (hoptional _ "generateName" (by decide)).trans h.generateName,
    (hoptional _ "labels" (by decide)).trans h.labels,
    (hoptional _ "name" (by decide)).trans h.name⟩

/-- What is stamped on metadata leaves of it what is kept. -/
theorem stamped_eq (h : DecodesKept fields m) (h' : DecodesKept fields m') (n : String) :
    m.stamped n = m'.stamped n := by
  simp only [stamped, Except.ok.inj (h.annotations.symm.trans h'.annotations),
    Except.ok.inj (h.finalizers.symm.trans h'.finalizers),
    Except.ok.inj (h.generateName.symm.trans h'.generateName),
    Except.ok.inj (h.labels.symm.trans h'.labels), Except.ok.inj (h.name.symm.trans h'.name)]

/-- Fields without those of the server are read as stamped metadata. -/
theorem decode_eq (h : DecodesKept fields m)
    (hnamespace : Json.setting? "namespace" fields = some (.str n))
    (hserver : ∀ key ∈ serverFields, Json.setting? key fields = none) :
    decode (.obj fields : Json) = .ok (m.stamped n) := by
  have hunset : ∀ {α : Type} (decode : Decoder Json α), ∀ key ∈ serverFields,
      Decode.optional decode key fields = .ok none := by
    intro α decode key hkey
    rw [Decode.optional_json, hserver key hkey]
  have hstated : Decode.optional Decode.string "namespace" fields = .ok (some n) := by
    rw [Decode.optional_json, hnamespace]
    rfl
  have hfields : Decode.fields "ObjectMeta" (.obj fields : Json) = .ok fields := rfl
  rw [decode, hfields]
  simp (disch := decide) only [except_ok_bind, h.annotations, h.finalizers, h.generateName,
    h.labels, h.name, hstated, hunset]
  rfl

end DecodesKept

/-! ## Written metadata -/

theorem pairwise_writtenSettings :
    (writtenSettings metadata name n).Pairwise fun f g => f.1 < g.1 := by
  have hascending : ["annotations", "finalizers", "generateName", "labels", "name",
    "namespace"].Pairwise (· < ·) := by decide
  exact List.pairwise_map.1 hascending

theorem lookup_writtenFields (key : String) :
    Json.lookup key (writtenFields metadata name n) =
      ((writtenSettings metadata name n).find? (·.1 = key)).bind Prod.snd :=
  Json.lookup_present (pairwise_writtenSettings.imp String.ne_of_lt) key

/-- Written metadata is read as stamped metadata. -/
theorem decode_writtenFields (h : DecodesKept metadata m)
    (hname : Json.setting? "name" metadata = some (.str name)) :
    decode (.obj (writtenFields metadata name n) : Json) = .ok (m.stamped n) := by
  refine (h.congr fun key hkey => ?_).decode_eq ?_ fun key hkey => ?_
  · rw [Json.setting?.eq_1 key (writtenFields metadata name n), lookup_writtenFields]
    simp only [keptFields, List.mem_cons, List.not_mem_nil, or_false] at hkey
    obtain rfl | rfl | rfl | rfl | rfl := hkey
    case inr.inr.inr.inr =>
      rw [hname]
      rfl
    all_goals exact (Json.filter_setting? _ _).symm
  · rw [Json.setting?, lookup_writtenFields]
    rfl
  · rw [Json.setting?, lookup_writtenFields]
    simp only [serverFields, List.mem_cons, List.not_mem_nil, or_false] at hkey
    obtain rfl | rfl | rfl | rfl | rfl | rfl | rfl | rfl | rfl := hkey <;> rfl

/-- Stamped metadata is written with what the template sets. -/
theorem encode_stamped (h : DecodesKept metadata m) (hordered : (Json.obj metadata).Ordered)
    (hname : m.name = some name) :
    (m.stamped n).encode = .obj (writtenFields metadata name n) := by
  have hmap : ∀ key m, Decode.optional Decode.stringMap key metadata = .ok m →
      m.map Encode.stringMap = Json.setting? key metadata := fun key m =>
    Decode.map_of_optional fun v a hv ha =>
      Decode.encode_of_stringMap (Json.ordered_of_lookup hordered.2 (Json.lookup_of_setting? hv)) ha
  have hlist := Decode.map_of_optional (fun v a _ ha => Decode.strings_of_list ha) h.finalizers
  have htext := Decode.map_of_optional (fun v a _ ha => (Decode.eq_of_string ha).symm)
    h.generateName
  -- what the stamp has cleared is left out
  have hset : (m.stamped n).encode = Encode.record [
      ("annotations", m.annotations.map Encode.stringMap),
      ("finalizers", m.finalizers.map Encode.strings),
      ("generateName", m.generateName.map .str),
      ("labels", m.labels.map Encode.stringMap),
      ("name", m.name.map .str),
      ("namespace", some (.str n))] := rfl
  rw [hset, hmap _ _ h.annotations, hmap _ _ h.labels, hlist, htext, hname]
  exact Json.ofFields_of_pairwise (Json.pairwise_present pairwise_writtenSettings)

end Metadata

/-! ## Objects -/

/-- The fields beside the metadata and the type. -/
def Manifest.otherFields (fields : List (String × Json)) : List (String × Json) :=
  fields.filter fun f => f.1 ∉ "metadata" :: typeFields

namespace Manifest

theorem lookup_otherFields (key : String) (fields : List (String × Json)) :
    Json.lookup key (otherFields fields) =
      if key ∈ "metadata" :: typeFields then none else Json.lookup key fields := by
  rw [otherFields, Json.lookup_filter fun key => key ∉ "metadata" :: typeFields]
  by_cases h : key ∈ "metadata" :: typeFields <;> simp [h]

theorem ne_of_mem_otherFields {fields : List (String × Json)} {f : String × Json}
    (h : f ∈ otherFields fields) : f.1 ≠ "metadata" ∧ f.1 ≠ "apiVersion" ∧ f.1 ≠ "kind" := by
  have hnot : f.1 ∉ "metadata" :: typeFields := by simpa using (List.mem_filter.1 h).2
  simpa only [typeFields, List.mem_cons, List.not_mem_nil, or_false, not_or] using hnot

/-- The fields of a written object have different keys. -/
theorem pairwise_encoded {fields : List (String × Json)} (h : fields.Pairwise fun f g => f.1 ≠ g.1)
    (apiVersion kind metadata : Json) :
    (("apiVersion", apiVersion) :: ("kind", kind) :: ("metadata", metadata) ::
      otherFields fields).Pairwise fun f g => f.1 ≠ g.1 := by
  simp only [List.pairwise_cons, List.forall_mem_cons]
  refine ⟨⟨by decide, by decide, fun f hf => ?_⟩, ⟨by decide, fun f hf => ?_⟩, fun f hf => ?_,
    h.filter _⟩
  · exact (ne_of_mem_otherFields hf).2.1.symm
  · exact (ne_of_mem_otherFields hf).2.2.symm
  · exact (ne_of_mem_otherFields hf).1.symm

theorem otherFields_congr {fields fields' : List (String × Json)}
    (h : fields.Pairwise fun f g => f.1 < g.1) (h' : fields'.Pairwise fun f g => f.1 < g.1)
    (hsame : ∀ key, key ≠ "metadata" → Json.lookup key fields = Json.lookup key fields') :
    otherFields fields = otherFields fields' := by
  refine Json.fields_ext (h.filter _) (h'.filter _) fun key => ?_
  rw [lookup_otherFields, lookup_otherFields]
  split
  case isTrue => rfl
  case isFalse hkey => exact hsame key fun heq => hkey (heq ▸ List.mem_cons_self)

/-- An object that has its type and its other fields from an object is written as that one with its
own metadata. -/
theorem encode_eq {fields : List (String × Json)} {metadata : Json} {o : Manifest} {type : TypeMeta}
    (hordered : fields.Pairwise fun f g => f.1 < g.1) (htypes : o.types = some type)
    (hothers : o.fields = otherFields fields)
    (hapiVersion : Json.lookup "apiVersion" fields = some (.str type.apiVersion))
    (hkind : Json.lookup "kind" fields = some (.str type.kind))
    (hmetadata : Json.lookup "metadata" fields = some metadata) :
    o.encode = .obj (Json.replaceField "metadata" o.metadata.encode fields) := by
  have hset : o.encode = Json.ofFields (("apiVersion", .str type.apiVersion) ::
      ("kind", .str type.kind) :: ("metadata", o.metadata.encode) :: otherFields fields) := by
    rw [← hothers, encode, htypes]
    rfl
  rw [hset]
  -- the type and the metadata come first, so the order is known from the look-ups alone
  refine Json.ofFields_eq ?_ (Json.pairwise_replaceField _ _ hordered) fun key => ?_
  · exact pairwise_encoded (hordered.imp String.ne_of_lt) _ _ _
  · simp only [Json.lookup_replaceField, Json.lookup, lookup_otherFields]
    by_cases hone : key = "apiVersion"
    · simp [hone, hapiVersion]
    by_cases htwo : key = "kind"
    · simp [htwo, hkind]
    by_cases hthree : key = "metadata"
    · simp [hthree, hmetadata]
    · simp [hone, htwo, hthree, typeFields]

end Manifest

namespace Template

variable {fields metadata : List (String × Json)} {t : Template} {n : String}

/-- The fields of a raw value and of its metadata that a template is read from. -/
structure ReadFrom (fields metadata : List (String × Json)) (t : Template) : Prop where
  id : TemplateId.of (.obj fields) = .ok t.id
  kind : ObjectKind.of? t.id.apiVersion t.id.kind = some t.kind
  lookup : Json.lookup "metadata" fields = some (.obj metadata)
  decoded : Metadata.decode (.obj metadata : Json) = .ok t.object.metadata
  types : t.object.types = some ⟨t.id.apiVersion, t.id.kind⟩
  others : t.object.fields = Manifest.otherFields fields

theorem parse_eq_ok_iff : parse (.obj fields) = .ok t ↔ ∃ metadata, ReadFrom fields metadata t := by
  constructor
  · intro h
    obtain ⟨hid, hkind, hobject⟩ := parse_eq_ok h
    obtain ⟨fields', metadata, hfields, hapiVersion, hkind', hmetadata, -⟩ :=
      TemplateId.fields_of_of hid
    obtain rfl := Json.obj.inj hfields
    rw [Manifest.decode_obj hmetadata hapiVersion hkind', except_map_eq_ok] at hobject
    obtain ⟨m, hm, hobject⟩ := hobject
    refine ⟨metadata, hid, hkind, hmetadata, ?_, ?_, ?_⟩ <;> rw [← hobject]
    · exact hm
    · rfl
  · rintro ⟨metadata, h⟩
    obtain ⟨fields', metadata', hfields, hapiVersion, hkind, -⟩ := TemplateId.fields_of_of h.id
    obtain rfl := Json.obj.inj hfields
    refine parse_of_decode h.id h.kind ?_
    rw [Manifest.decode_obj h.lookup hapiVersion hkind, h.decoded]
    have hobject : ⟨some ⟨t.id.apiVersion, t.id.kind⟩, t.object.metadata,
        Manifest.otherFields fields⟩ = t.object := by rw [← h.types, ← h.others]
    exact congrArg Except.ok hobject

namespace ReadFrom

/-- The parts of a template are known from its raw value. -/
theorem of_parse {raw : Json} (h : parse raw = .ok t) :
    ∃ fields metadata, raw = .obj fields ∧ ReadFrom fields metadata t := by
  obtain ⟨fields, -, rfl, -⟩ := TemplateId.fields_of_of (parse_eq_ok h).1
  obtain ⟨metadata, hread⟩ := parse_eq_ok_iff.1 h
  exact ⟨fields, metadata, rfl, hread⟩

/-- The fields that state the identity. -/
theorem stated (h : ReadFrom fields metadata t) :
    Json.lookup "apiVersion" fields = some (.str t.id.apiVersion) ∧
      Json.lookup "kind" fields = some (.str t.id.kind) ∧
      Json.lookup "name" metadata = some (.str t.id.name) := by
  obtain ⟨fields', metadata', hfields, hapiVersion, hkind, hmetadata, hname⟩ :=
    TemplateId.fields_of_of h.id
  obtain rfl := Json.obj.inj hfields
  obtain rfl := Json.obj.inj (Option.some.inj (h.lookup.symm.trans hmetadata))
  exact ⟨hapiVersion, hkind, hname⟩

theorem setting?_name (h : ReadFrom fields metadata t) :
    Json.setting? "name" metadata = some (.str t.id.name) := by
  rw [Json.setting?, h.stated.2.2]
  rfl

/-- An object is written as the raw value with other metadata. -/
theorem encode_toObject (h : ReadFrom fields metadata t) (hordered : (Json.obj fields).Ordered)
    (n : String) : (t.toObject n).encode = .obj (Json.replaceField "metadata"
      (.obj (Metadata.writtenFields metadata t.id.name n)) fields) := by
  obtain ⟨hapiVersion, hkind, hname⟩ := h.stated
  have hmetadata : (t.toObject n).metadata.encode =
      .obj (Metadata.writtenFields metadata t.id.name n) :=
    Metadata.encode_stamped (Metadata.decodesKept h.decoded)
      (Json.ordered_of_lookup hordered.2 h.lookup) (Metadata.name_of_decode h.decoded hname)
  rw [← hmetadata]
  exact Manifest.encode_eq hordered.1 h.types h.others hapiVersion hkind h.lookup

/-- The written object is a template again, of the same object in every namespace. -/
theorem written (h : ReadFrom fields metadata t) (n : String) :
    ReadFrom (Json.replaceField "metadata" (.obj (Metadata.writtenFields metadata t.id.name n))
      fields) (Metadata.writtenFields metadata t.id.name n)
      { t with object := t.toObject n } := by
  obtain ⟨hapiVersion, hkind, hname⟩ := h.stated
  refine ⟨?_, h.kind, ?_, ?_, h.types, ?_⟩
  · rw [← h.id]
    have hname' : Json.lookup "name" (Metadata.writtenFields metadata t.id.name n) =
        some (.str t.id.name) := Metadata.lookup_writtenFields "name"
    simp [TemplateId.of, Json.lookup_replaceField, h.lookup, Json.get?, hname, hname']
  · rw [Json.lookup_replaceField, if_pos rfl, h.lookup]
    rfl
  · exact Metadata.decode_writtenFields (Metadata.decodesKept h.decoded) h.setting?_name
  · exact h.others.trans (Json.filter_replaceField (fun key => key ∉ "metadata" ::
      Manifest.typeFields) (by decide) _ fields).symm

end ReadFrom

/-- Two raw values differ at most in metadata that an object does not have from its template. -/
structure SameDeclared (raw raw' : Json) : Prop where
  outside : ∀ key, key ≠ "metadata" → raw.get? key = raw'.get? key
  inside : ∀ key, (raw.get? "metadata").bind (Json.get? key) ≠
    (raw'.get? "metadata").bind (Json.get? key) →
      key ∈ Metadata.ownedFields ∨ key ∉ Metadata.knownFields

theorem sameDeclared_iff {raw raw' : Json} : SameDeclared raw raw' ↔
    (∀ key, key ≠ "metadata" → raw.get? key = raw'.get? key) ∧
      ∀ key ∈ Metadata.keptFields, (raw.get? "metadata").bind (Json.get? key) =
        (raw'.get? "metadata").bind (Json.get? key) := by
  constructor
  · exact fun h => ⟨h.outside, fun key hkey =>
      Classical.not_not.1 (mt (h.inside key) (Metadata.mem_keptFields_iff.1 hkey))⟩
  · exact fun ⟨houtside, hinside⟩ => ⟨houtside, fun key hdiffer =>
      Classical.not_not.1 (mt Metadata.mem_keptFields_iff.2 (mt (hinside key) hdiffer))⟩

variable {fields' metadata' : List (String × Json)} {t' : Template}

/-- What a template does not declare makes no difference to its objects. -/
theorem ReadFrom.toObject_congr (h : ReadFrom fields metadata t)
    (h' : ReadFrom fields' metadata' t') (hordered : (Json.obj fields).Ordered)
    (hordered' : (Json.obj fields').Ordered)
    (hsame : SameDeclared (.obj fields) (.obj fields')) (n : String) :
    t'.toObject n = t.toObject n := by
  obtain ⟨houtside, hinside⟩ := sameDeclared_iff.1 hsame
  have htypes : t'.object.types = t.object.types := by
    obtain ⟨hapiVersion, hkind, -⟩ := h.stated
    obtain ⟨hapiVersion', hkind', -⟩ := h'.stated
    have hv := hapiVersion.symm.trans ((houtside "apiVersion" (by decide)).trans hapiVersion')
    have hk := hkind.symm.trans ((houtside "kind" (by decide)).trans hkind')
    rw [h.types, h'.types, Json.str.inj (Option.some.inj hv), Json.str.inj (Option.some.inj hk)]
  have hothers : t'.object.fields = t.object.fields := by
    rw [h.others, h'.others]
    exact Manifest.otherFields_congr hordered'.1 hordered.1 fun key hkey => (houtside key hkey).symm
  have hmetadata : t'.object.metadata.stamped n = t.object.metadata.stamped n := by
    refine (Metadata.decodesKept h'.decoded).stamped_eq
      ((Metadata.decodesKept h.decoded).congr fun key hkey => ?_) n
    have hlookup := hinside key hkey
    simp only [Json.get?, h.lookup, h'.lookup, Option.bind_some] at hlookup
    rw [Json.setting?, hlookup, Json.setting?]
  have hparts : ∀ t : Template, t.toObject n =
      ⟨t.object.types, t.object.metadata.stamped n, t.object.fields⟩ := fun _ => rfl
  rw [hparts, hparts, htypes, hothers, hmetadata]

end Template

/-- The object of a template is what the template declares. Raw values that differ only in metadata
which belongs to the namespace and to the server, or is unknown, have the same objects; an object is
written as the raw value with its name, its namespace and the other kept metadata in the place of
the metadata; and what is written is a template with the same identity, kind and objects. Raw values
have their keys in order, as all values that are read (`Document.ordered_of_value?`). -/
theorem toObject_keeps_declared {raw : Json} {t : Template} (hordered : raw.Ordered)
    (ht : Template.parse raw = .ok t) (n : String) :
    (∀ raw' t', raw'.Ordered → Template.parse raw' = .ok t' → Template.SameDeclared raw raw' →
      t'.toObject n = t.toObject n) ∧
    (∃ fields metadata, raw = .obj fields ∧ raw.get? "metadata" = some (.obj metadata) ∧
      (t.toObject n).encode = .obj (Json.replaceField "metadata"
        (.obj (Metadata.writtenFields metadata t.id.name n)) fields)) ∧
    ∃ u, Template.parse (t.toObject n).encode = .ok u ∧ u.id = t.id ∧ u.kind = t.kind ∧
      ∀ m, u.toObject m = t.toObject m := by
  obtain ⟨fields, metadata, rfl, hread⟩ := Template.ReadFrom.of_parse ht
  have hencode := hread.encode_toObject hordered n
  refine ⟨fun raw' t' hordered' ht' hsame => ?_, ⟨fields, metadata, rfl, hread.lookup, hencode⟩, ?_⟩
  · obtain ⟨fields', metadata', rfl, hread'⟩ := Template.ReadFrom.of_parse ht'
    exact hread.toObject_congr hread' hordered hordered' hsame n
  · refine ⟨{ t with object := t.toObject n }, ?_, rfl, rfl, fun m => rfl⟩
    rw [hencode]
    exact Template.parse_eq_ok_iff.2 ⟨_, hread.written n⟩

/-- A raw value with labels, and the same as a server has stored it in another namespace. -/
theorem toObject_keeps_declared_sample :
    let declared : List (String × Json) → Json := fun metadata =>
      .obj [("apiVersion", .str "v1"), ("data", .obj [("k", .str "v")]), ("kind", .str "ConfigMap"),
        ("metadata", .obj metadata)]
    let labels : Json := .obj [("tier", .str "gold")]
    let raw := declared [("labels", labels), ("name", .str "settings")]
    let raw' := declared [("labels", labels), ("name", .str "settings"),
      ("namespace", .str "elsewhere"), ("uid", .str "u1"), ("unheard", .null)]
    ∃ t t', Template.parse raw = .ok t ∧ Template.parse raw' = .ok t' ∧
      t'.toObject "team" = t.toObject "team" ∧
      (t'.toObject "team").encode = declared [("labels", labels), ("name", .str "settings"),
        ("namespace", .str "team")] := by
  intro declared labels raw raw'
  have hordered : raw.Ordered := by
    simp only [raw, declared, labels, Json.Ordered, Json.OrderedFields]
    decide
  have hordered' : raw'.Ordered := by
    simp only [raw', declared, labels, Json.Ordered, Json.OrderedFields]
    decide
  obtain ⟨t, ht⟩ : ∃ t, Template.parse raw = .ok t := ⟨_, rfl⟩
  obtain ⟨t', ht'⟩ : ∃ t', Template.parse raw' = .ok t' := ⟨_, rfl⟩
  obtain ⟨hsame, -⟩ := toObject_keeps_declared hordered ht "team"
  obtain ⟨-, ⟨fields, metadata, hfields, hmetadata, hencode⟩, -⟩ :=
    toObject_keeps_declared hordered' ht' "team"
  have hdeclared : Template.SameDeclared raw raw' := by
    refine Template.sameDeclared_iff.2 ⟨fun key hkey => ?_, fun key hkey => ?_⟩
    · simp [raw, raw', declared, Json.get?, Json.lookup, hkey]
    · simp only [Metadata.keptFields, List.mem_cons, List.not_mem_nil, or_false] at hkey
      obtain rfl | rfl | rfl | rfl | rfl := hkey <;> rfl
  have hid : t'.id = ⟨"v1", "ConfigMap", "settings"⟩ :=
    Except.ok.inj ((Template.parse_eq_ok ht').1.symm.trans rfl)
  obtain rfl := Json.obj.inj hfields
  obtain rfl := Json.obj.inj (Option.some.inj hmetadata)
  refine ⟨t, t', ht, ht', hsame _ t' hordered' ht' hdeclared, ?_⟩
  rw [hencode, hid]
  rfl

end ClassReconciler
