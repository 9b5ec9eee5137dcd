import ClassReconciler.Proofs.Reachable
import ClassReconciler.Template

/-!
# Where the object of a template is stored

A template has its kind and its name twice: as its identity, which is read off the raw value,
and in its object, which is decoded from it. The two agree, so that the object is written under
the key under which it is looked up and deleted (`Template.key_toObject`).
-/

namespace ClassReconciler

theorem except_bind_eq_ok {ε α β : Type} {x : Except ε α} {f : α → Except ε β} {b : β} :
    x >>= f = .ok b ↔ ∃ a, x = .ok a ∧ f a = .ok b := by
  cases x with
  | ok a => simp [bind, Except.bind]
  | error e => simp [bind, Except.bind]

theorem except_map_eq_ok {ε α β : Type} {x : Except ε α} {f : α → β} {b : β} :
    f <$> x = .ok b ↔ ∃ a, x = .ok a ∧ f a = b := by
  cases x with
  | ok a => simp [Functor.map, Except.map]
  | error e => simp [Functor.map, Except.map]

/-! ## Decoding -/

theorem Decode.given_of_lookup {α : Type} {name : String} {v : Json}
    {fields : List (String × Json)} (h : Json.lookup name fields = some v)
    (decode : Decoder Json α) : Decode.given decode name fields = some <$> decode v := by
  rw [Decode.given_json, h]

/-- What an optional field with a string holds. -/
theorem Decode.optional_string {name v : String} {fields : List (String × Json)}
    (h : Json.lookup name fields = some (.str v)) :
    Decode.optional Decode.string name fields = .ok (some v) := by
  rw [Decode.optional, Decode.given_of_lookup h]
  rfl

/-- The decoded metadata has the name that the fields hold. -/
theorem Metadata.name_of_decode {fields : List (String × Json)} {m : Metadata} {name : String}
    (h : Metadata.decode (.obj fields : Json) = .ok m)
    (hname : Json.lookup "name" fields = some (.str name)) : m.name = some name := by
  simp only [Metadata.decode, except_bind_eq_ok] at h
  obtain ⟨fields', hfields, h⟩ := h
  obtain rfl : fields = fields' := Except.ok.inj hfields
  -- the name is the tenth field
  obtain ⟨_, -, _, -, _, -, _, -, _, -, _, -, _, -, _, -, _, -, n, hn, h⟩ := h
  obtain ⟨_, -, _, -, _, -, _, -, _, -, h⟩ := h
  rw [Decode.optional_string hname] at hn
  obtain rfl := Except.ok.inj hn
  obtain rfl := Except.ok.inj h
  rfl

/-- The parts of a decoded object: its metadata, and the type that its fields state. -/
theorem Manifest.parts_of_decode {fields metadata : List (String × Json)} {o : Manifest}
    {apiVersion kind : String} (h : Manifest.decode (.obj fields : Json) = .ok o)
    (hmetadata : Json.lookup "metadata" fields = some (.obj metadata))
    (hapiVersion : Json.lookup "apiVersion" fields = some (.str apiVersion))
    (hkind : Json.lookup "kind" fields = some (.str kind)) :
    Metadata.decode (.obj metadata : Json) = .ok o.metadata ∧
      o.types = some ⟨apiVersion, kind⟩ := by
  simp only [Manifest.decode, except_bind_eq_ok] at h
  obtain ⟨all, hall, ⟨⟩, -, m, hm, stated, hstated, others, -, h⟩ := h
  obtain rfl : fields = all := Except.ok.inj hall
  have hnamed : Source.named Manifest.typeFields fields =
      [("apiVersion", .str apiVersion), ("kind", .str kind)] := by
    simp [Source.named, Manifest.typeFields, hapiVersion, hkind]
  rw [hnamed] at hstated
  obtain rfl := Except.ok.inj hstated
  rw [Decode.given_of_lookup hmetadata, except_map_eq_ok] at hm
  obtain ⟨m', hm', rfl⟩ := hm
  obtain rfl := Except.ok.inj h
  exact ⟨hm', rfl⟩

/-- What a template was read from. -/
theorem Template.parse_eq_ok {raw : Json} {t : Template} (h : Template.parse raw = .ok t) :
    TemplateId.of raw = .ok t.id ∧ ObjectKind.of? t.id.apiVersion t.id.kind = some t.kind ∧
      Manifest.decode raw = .ok t.object := by
  rw [Template.parse] at h
  split at h
  · cases h
  · split at h
    · cases h
    · split at h
      · cases h
      · obtain rfl := Except.ok.inj h
        refine ⟨?_, ?_, ?_⟩ <;> assumption

/-! ## Keys -/

/-- A field that is read as a string holds it. -/
theorem TemplateId.nonEmpty_eq_some {field : Option Json} {text : String}
    (h : TemplateId.nonEmpty field = some text) : field = some (.str text) := by
  obtain ⟨htext, -⟩ := Option.filter_eq_some_iff.1 h
  obtain ⟨v, rfl, hv⟩ := Option.bind_eq_some_iff.1 htext
  cases v with
  | str s =>
    obtain rfl := Option.some.inj hv
    rfl
  | _ => cases hv

/-- The fields that an identity is read from. -/
theorem TemplateId.fields_of_of {raw : Json} {id : TemplateId} (h : TemplateId.of raw = .ok id) :
    ∃ fields metadata, raw = .obj fields ∧
      Json.lookup "apiVersion" fields = some (.str id.apiVersion) ∧
      Json.lookup "kind" fields = some (.str id.kind) ∧
      Json.lookup "metadata" fields = some (.obj metadata) ∧
      Json.lookup "name" metadata = some (.str id.name) := by
  cases raw with
  | obj fields =>
    rw [TemplateId.of] at h
    split at h
    · cases h
    case h_2 apiVersion hapiVersion =>
    split at h
    · cases h
    case h_2 kind hkind =>
    split at h
    · cases h
    case h_2 name hname =>
    obtain rfl := Except.ok.inj h
    obtain ⟨v, hmetadata, hv⟩ := Option.bind_eq_some_iff.1 (nonEmpty_eq_some hname)
    cases v with
    | obj metadata =>
      exact ⟨fields, metadata, rfl, nonEmpty_eq_some hapiVersion, nonEmpty_eq_some hkind,
        hmetadata, hv⟩
    | _ => cases hv
  | _ => cases h

/-- The group of a kind is that of its API version. -/
theorem ObjectKind.of?_eq_some {apiVersion text : String} {kind : ObjectKind}
    (h : ObjectKind.of? apiVersion text = some kind) :
    kind.group = (splitApiVersion apiVersion).1 ∧ kind.kind = text := by
  rw [ObjectKind.of?] at h
  rw [splitApiVersion]
  split at h
  case h_1 hsplit =>
    obtain rfl := Option.some.inj h
    rw [hsplit]
    exact ⟨rfl, rfl⟩
  case h_2 hsplit =>
    split at h
    · obtain rfl := Option.some.inj h
      rw [hsplit]
      exact ⟨rfl, rfl⟩
    · cases h

namespace Template

variable {raw : Json} {t : Template}

/-- The object of a template has the type and the name of its identity. -/
theorem object_of_parse (h : Template.parse raw = .ok t) :
    t.object.types = some ⟨t.id.apiVersion, t.id.kind⟩ ∧
      t.object.metadata.name = some t.id.name := by
  obtain ⟨hid, -, hobject⟩ := parse_eq_ok h
  obtain ⟨fields, metadata, rfl, hapiVersion, hkind, hmetadata, hname⟩ :=
    TemplateId.fields_of_of hid
  obtain ⟨hdecode, htypes⟩ := Manifest.parts_of_decode hobject hmetadata hapiVersion hkind
  exact ⟨htypes, Metadata.name_of_decode hdecode hname⟩

/-- The object of a template has the name of the template. -/
theorem nameAny_toObject (h : Template.parse raw = .ok t) (n : String) :
    (t.toObject n).nameAny = t.name := by
  have hname : (t.toObject n).metadata.name = some t.id.name := (object_of_parse h).2
  rw [Manifest.nameAny, Metadata.nameAny, hname]
  rfl

/-- The object of a template is stored where the template is looked up. -/
theorem key_toObject (h : Template.parse raw = .ok t) (n : String) :
    ObjectKey.of (t.toObject n) = ObjectKey.new t.kind n t.name := by
  obtain ⟨hid, hkind, -⟩ := parse_eq_ok h
  have htypes : (t.toObject n).types = some ⟨t.id.apiVersion, t.id.kind⟩ := (object_of_parse h).1
  obtain ⟨hgroup, htext⟩ := ObjectKind.of?_eq_some hkind
  rw [ObjectKey.of, ObjectKey.new, htypes, nameAny_toObject h, hgroup, htext]
  rfl

/-- The config map that the small clusters declare is a template. -/
theorem exists_parse_sampleEntry : ∃ t, parse (Cluster.sampleEntry "new") = .ok t ∧
    ∀ n, ObjectKey.new t.kind n t.name = ⟨"", "ConfigMap", n, "new"⟩ := by
  obtain ⟨t, hparse⟩ : ∃ t, parse (Cluster.sampleEntry "new") = .ok t := ⟨_, rfl⟩
  have hof : TemplateId.of (Cluster.sampleEntry "new") = .ok ⟨"v1", "ConfigMap", "new"⟩ := rfl
  have hof? : ObjectKind.of? "v1" "ConfigMap" = some ⟨"", "v1", "ConfigMap"⟩ := rfl
  obtain ⟨hid, hkind, -⟩ := parse_eq_ok hparse
  have hid := Except.ok.inj (hid.symm.trans hof)
  rw [hid, hof?] at hkind
  refine ⟨t, hparse, fun n => ?_⟩
  rw [name, hid, ← Option.some.inj hkind]
  rfl

end Template

end ClassReconciler
