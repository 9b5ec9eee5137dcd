import ClassReconciler.Object.NamespaceClass
import ClassReconciler.Proofs.ObjectFields
import ClassReconciler.Proofs.TemplateGrammar

/-!
# Documents of classes

A class is read from the fields of an object by their look-ups
(`NamespaceClass.decodeFields_eq_ok`) or from the items of an array
(`NamespaceClass.decodeItems_eq_ok`), and its raw resources as they stand (`decodeResources_obj`).
So the class declares and records the very lists that the document holds
(`NamespaceClass.holds_of_decode`).
-/

namespace ClassReconciler

theorem Decode.items_any (vs : List Json) : items any vs = .ok vs := by
  induction vs with
  | nil => rfl
  | cons v rest ih =>
    rw [items, ih]
    rfl

/-- Raw values are read as they stand. -/
theorem Decode.list_any (vs : List Json) : list any (.arr vs : Json) = .ok vs := items_any vs

/-- Of an object only one field is looked at. -/
theorem decodeResources_obj (type field : String) (fields : List (String × Json)) :
    decodeResources type field (.obj fields : Json) =
      (·.getD []) <$> Decode.given (Decode.list Decode.any) field fields := by
  have hlayer : Decode.layer (.obj fields : Json) = .ok (.obj fields) := rfl
  rw [decodeResources, hlayer]
  simp only [except_ok_bind, Decode.once_json]
  cases Decode.given (Decode.list Decode.any) field fields <;> rfl

/-- An array holds the list as its only item. -/
theorem decodeResources_items (type field : String) (v : Json) (rest : List Json) :
    decodeResources type field (.arr (v :: rest) : Json) = (do
      let resources ← Decode.list Decode.any v
      if rest.isEmpty then pure resources else throw (excessItems (rest.length + 1))) := rfl

namespace NamespaceClass

variable {fields fields' : List (String × Json)} {c : NamespaceClass}

theorem decode_obj (fields : List (String × Json)) :
    decode (.obj fields : Json) = decodeFields fields := rfl

theorem decodeFields_eq_ok : decodeFields fields = .ok c ↔
    Decode.given Metadata.decode "metadata" fields = .ok (some c.metadata) ∧
      Decode.given NamespaceClassSpec.decode "spec" fields = .ok (some c.spec) ∧
      Decode.optional NamespaceClassStatus.decode "status" fields = .ok c.status := by
  rw [decodeFields]
  simp only [Decode.once_json, except_ok_bind, except_bind_eq_ok]
  constructor
  · rintro ⟨metadata, hmetadata, spec, hspec, status, hstatus, m, hm, s, hs, h⟩
    obtain rfl := Except.ok.inj h
    cases metadata with
    | none => cases hm
    | some metadata =>
    cases spec with
    | none => cases hs
    | some spec =>
    obtain rfl := Except.ok.inj hm
    obtain rfl := Except.ok.inj hs
    exact ⟨hmetadata, hspec, hstatus⟩
  · rintro ⟨hmetadata, hspec, hstatus⟩
    exact ⟨_, hmetadata, _, hspec, _, hstatus, _, rfl, _, rfl, rfl⟩

theorem decodeItems_eq_ok {items : List Json} : decodeItems items = .ok c ↔
    ∃ metadata spec status, items = [metadata, spec, status] ∧
      Metadata.decode metadata = .ok c.metadata ∧ NamespaceClassSpec.decode spec = .ok c.spec ∧
      Decode.nullable NamespaceClassStatus.decode status = .ok c.status := by
  constructor
  · intro h
    match items with
    | [] => cases h
    | m :: rest =>
    obtain ⟨metadata, hmetadata, h⟩ := except_bind_eq_ok.1 h
    match rest with
    | [] => cases h
    | s :: rest =>
    obtain ⟨spec, hspec, h⟩ := except_bind_eq_ok.1 h
    match rest with
    | [] => cases h
    | t :: rest =>
    obtain ⟨status, hstatus, h⟩ := except_bind_eq_ok.1 h
    match rest with
    | _ :: _ => cases h
    | [] =>
      obtain rfl := Except.ok.inj h
      exact ⟨m, s, t, rfl, hmetadata, hspec, hstatus⟩
  · rintro ⟨m, s, t, rfl, hmetadata, hspec, hstatus⟩
    simp only [decodeItems, hmetadata, hspec, hstatus, except_ok_bind]
    rfl

end NamespaceClass

/-! ## What a document holds -/

/-- A record whose only field is a list holds it under the name of the field or as the only item of
an array. Where it is left out it is empty. -/
inductive HoldsList (field : String) : Json → List Json → Prop
  | named {fields : List (String × Json)} {vs : List Json}
      (h : Json.lookup field fields = some (.arr vs)) : HoldsList field (.obj fields) vs
  | unnamed {fields : List (String × Json)} (h : Json.lookup field fields = none) :
      HoldsList field (.obj fields) []
  | listed (vs : List Json) : HoldsList field (.arr [.arr vs]) vs
  | unlisted : HoldsList field (.arr []) []

/-- The record in the place of a status, where there may be none. -/
inductive HoldsRecord : Option Json → Option (List Json) → Prop
  | absent : HoldsRecord none none
  | null : HoldsRecord (some .null) none
  | status {v : Json} {record : List Json} (h : HoldsList "lastAppliedResources" v record) :
      HoldsRecord (some v) (some record)

/-- The document of a class holds resources in its spec and a record in its status, if it has one:
under the names of both, or as the second and the third item of an array. -/
inductive HoldsClass : Json → List Json → Option (List Json) → Prop
  | named {fields : List (String × Json)} {spec : Json} {resources : List Json}
      {record : Option (List Json)} (hspec : Json.lookup "spec" fields = some spec)
      (hresources : HoldsList "resources" spec resources)
      (hrecord : HoldsRecord (Json.lookup "status" fields) record) :
      HoldsClass (.obj fields) resources record
  | listed (metadata : Json) {spec status : Json} {resources : List Json}
      {record : Option (List Json)} (hresources : HoldsList "resources" spec resources)
      (hrecord : HoldsRecord (some status) record) :
      HoldsClass (.arr [metadata, spec, status]) resources record

theorem list_any_eq_ok {v : Json} {vs : List Json} :
    Decode.list Decode.any v = .ok vs ↔ v = .arr vs := by
  constructor
  · intro h
    cases v with
    | arr items =>
      rw [Decode.list_any] at h
      rw [Except.ok.inj h]
    | _ => cases h
  · rintro rfl
    exact Decode.list_any vs

theorem holdsList_of_decode {type field : String} {v : Json} {vs : List Json}
    (h : decodeResources type field v = .ok vs) : HoldsList field v vs := by
  cases v with
  | obj fields =>
    rw [decodeResources_obj, Decode.given_json] at h
    cases hfield : Json.lookup field fields with
    | none =>
      rw [hfield] at h
      obtain rfl := Except.ok.inj h
      exact .unnamed hfield
    | some w =>
      rw [hfield] at h
      obtain ⟨_, hlist, rfl⟩ := except_map_eq_ok.1 h
      obtain ⟨ws, hws, rfl⟩ := except_map_eq_ok.1 hlist
      exact .named (hfield.trans (congrArg some (list_any_eq_ok.1 hws)))
  | arr items =>
    match items with
    | [] =>
      obtain rfl := Except.ok.inj h
      exact .unlisted
    | w :: rest =>
      rw [decodeResources_items] at h
      obtain ⟨ws, hws, h⟩ := except_bind_eq_ok.1 h
      match rest with
      | _ :: _ => cases h
      | [] =>
        obtain rfl := Except.ok.inj h
        obtain rfl := list_any_eq_ok.1 hws
        exact .listed _
  | _ => cases h

namespace NamespaceClass

variable {c : NamespaceClass}

theorem holdsRecord_of_decode {v : Json} {status : Option NamespaceClassStatus}
    (h : Decode.nullable NamespaceClassStatus.decode v = .ok status) :
    HoldsRecord (some v) (status.map (·.lastAppliedResources)) := by
  have hlayer : Decode.layer v = .ok v.layer := rfl
  rw [Decode.nullable, hlayer, except_ok_bind] at h
  split at h
  case h_1 hnull =>
    obtain rfl := Except.ok.inj h
    cases v <;> cases hnull
    exact .null
  case h_2 =>
    obtain ⟨s, hs, rfl⟩ := except_map_eq_ok.1 h
    obtain ⟨record, hrecord, rfl⟩ := except_map_eq_ok.1 hs
    exact .status (holdsList_of_decode hrecord)

theorem holdsRecord_of_optional {fields : List (String × Json)}
    {status : Option NamespaceClassStatus}
    (h : Decode.optional NamespaceClassStatus.decode "status" fields = .ok status) :
    HoldsRecord (Json.lookup "status" fields) (status.map (·.lastAppliedResources)) := by
  rw [Decode.optional, Decode.given_json] at h
  cases hfield : Json.lookup "status" fields with
  | none =>
    rw [hfield] at h
    rw [← Except.ok.inj h]
    exact .absent
  | some v =>
    rw [hfield] at h
    obtain ⟨_, hread, hjoin⟩ := except_map_eq_ok.1 h
    obtain ⟨read, hv, rfl⟩ := except_map_eq_ok.1 hread
    rw [← hjoin]
    exact holdsRecord_of_decode hv

/-- The lists of a class that was read are those that its document holds. -/
theorem holds_of_decode {v : Json} (h : decode v = .ok c) :
    HoldsClass v c.spec.resources (c.status.map (·.lastAppliedResources)) := by
  have hresources {s : Json} (h : NamespaceClassSpec.decode s = .ok c.spec) :
      HoldsList "resources" s c.spec.resources := by
    obtain ⟨resources, hlist, hspec⟩ := except_map_eq_ok.1 h
    rw [← hspec]
    exact holdsList_of_decode hlist
  cases v with
  | obj fields =>
    obtain ⟨-, hspec, hstatus⟩ := decodeFields_eq_ok.1 h
    rw [Decode.given_json] at hspec
    cases hlookup : Json.lookup "spec" fields with
    | none =>
      rw [hlookup] at hspec
      cases hspec
    | some s =>
      rw [hlookup] at hspec
      obtain ⟨spec, hs, heq⟩ := except_map_eq_ok.1 hspec
      exact .named hlookup (hresources (Option.some.inj heq ▸ hs)) (holdsRecord_of_optional hstatus)
  | arr items =>
    obtain ⟨_, _, _, rfl, -, hspec, hstatus⟩ := decodeItems_eq_ok.1 h
    exact .listed _ (hresources hspec) (holdsRecord_of_decode hstatus)
  | _ => cases h

end NamespaceClass

end ClassReconciler
