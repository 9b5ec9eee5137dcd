import ClassReconciler.Decode
import ClassReconciler.Json.Document
import ClassReconciler.Json.MergePatch

/-!
# The fields of a JSON object

An object's fields are known by look-ups: two lists in ascending key order with the same look-ups
are the same (`Json.fields_ext`), and putting fields with different keys into that order keeps the
look-ups (`Json.ofFields_eq`). Every value that is read from a document has that order throughout
(`Document.ordered_of_value?`). A field that is null counts as unset where it is optional
(`Json.setting?`), so that an optional field decodes alike from two objects in which it has the
same setting (`Decode.optional_json`).
-/

namespace ClassReconciler

/-! ## Entries put into order -/

section Entries

variable {κ α : Type} [Ord κ] [DecidableEq κ] [Std.LawfulEqOrd κ]

omit [Ord κ] [Std.LawfulEqOrd κ] in
theorem findEntry_eq_none_of_forall_ne {k : κ} {entries : List (κ × α)}
    (h : ∀ e ∈ entries, k ≠ e.1) : findEntry k entries = none := by
  induction entries with
  | nil => rfl
  | cons e rest ih =>
    obtain ⟨k', a⟩ := e
    rw [findEntry, if_neg (h _ List.mem_cons_self)]
    exact ih fun e he => h e (List.mem_cons_of_mem _ he)

/-- Inserting entries with different keys one after the other keeps the look-ups. -/
theorem findEntry_foldl_insertEntry (sorted : List (κ × α)) {entries : List (κ × α)}
    (h : entries.Pairwise fun e f => e.1 ≠ f.1) (k : κ) :
    findEntry k (entries.foldl (fun sorted e => insertEntry e.1 e.2 sorted) sorted) =
      (findEntry k entries).or (findEntry k sorted) := by
  induction entries generalizing sorted with
  | nil => rfl
  | cons e rest ih =>
    obtain ⟨k', a⟩ := e
    obtain ⟨hhead, htail⟩ := List.pairwise_cons.1 h
    rw [List.foldl_cons, ih _ htail, findEntry_insertEntry, findEntry]
    by_cases hkey : k = k'
    · subst hkey
      rw [findEntry_eq_none_of_forall_ne hhead, if_pos rfl, if_pos rfl]
      rfl
    · rw [if_neg hkey, if_neg hkey]

variable [Std.TransOrd κ]

omit [DecidableEq κ] in
theorem SortedMap.entries_foldl_insert (m : SortedMap κ α) (entries : List (κ × α)) :
    (entries.foldl (fun m e => m.insert e.1 e.2) m).entries =
      entries.foldl (fun sorted e => insertEntry e.1 e.2 sorted) m.entries := by
  induction entries generalizing m with
  | nil => rfl
  | cons e rest ih => exact ih (m.insert e.1 e.2)

/-- Entries in ascending order are the entries of the map that they make. -/
theorem SortedMap.entries_ofList {entries : List (κ × α)} (h : Ascending entries) :
    (ofList entries).entries = entries := by
  refine (ofList entries).ascending.ext h fun k => ?_
  have hdistinct : entries.Pairwise fun e f => e.1 ≠ f.1 :=
    h.imp fun {e f} hlt heq => by simp [heq] at hlt
  rw [ofList, entries_foldl_insert, findEntry_foldl_insertEntry _ hdistinct]
  exact Option.or_none

/-- A map is made of its entries. -/
theorem SortedMap.ofList_entries (m : SortedMap κ α) : ofList m.entries = m :=
  ext_find? fun k => congrArg (findEntry k) (entries_ofList m.ascending)

end Entries

namespace Json

variable {fields fields' : List (String × Json)} {key : String} {v : Json}

/-! ## Look-ups -/

theorem lookup_eq_findEntry (key : String) (fields : List (String × Json)) :
    lookup key fields = findEntry key fields := by
  induction fields with
  | nil => rfl
  | cons f rest ih => rw [lookup, findEntry, ih]

theorem ascending_iff : Ascending fields ↔ fields.Pairwise fun f g => f.1 < g.1 :=
  ⟨fun h => h.imp compareOfLessAndEq_eq_lt.1, fun h => h.imp compareOfLessAndEq_eq_lt.2⟩

/-- Fields in ascending key order with the same look-ups are the same. -/
theorem fields_ext (h : fields.Pairwise fun f g => f.1 < g.1)
    (h' : fields'.Pairwise fun f g => f.1 < g.1)
    (hlookup : ∀ key, lookup key fields = lookup key fields') : fields = fields' :=
  (ascending_iff.2 h).ext (ascending_iff.2 h') fun key => by
    rw [← lookup_eq_findEntry, ← lookup_eq_findEntry, hlookup]

/-- Leaving out fields by their keys takes away no other key. -/
theorem lookup_filter (p : String → Bool) (key : String) (fields : List (String × Json)) :
    lookup key (fields.filter (p ·.1)) = if p key then lookup key fields else none := by
  induction fields with
  | nil => simp [lookup]
  | cons f rest ih =>
    obtain ⟨k, w⟩ := f
    rw [List.filter_cons, lookup]
    by_cases hkey : key = k
    · subst hkey
      by_cases hp : p key = true
      · simp [hp, lookup]
      · simp [hp, ih]
    · by_cases hp : p k = true
      · simp [hp, lookup, hkey, ih]
      · simp [hp, hkey, ih]

/-- The fields with another value in the place of one key; the others stand as they are. -/
def replaceField (name : String) (w : Json) (fields : List (String × Json)) :
    List (String × Json) :=
  fields.map fun f => if f.1 = name then (f.1, w) else f

theorem lookup_replaceField (name : String) (w : Json) (key : String)
    (fields : List (String × Json)) : lookup key (replaceField name w fields) =
      if key = name then (lookup key fields).map fun _ => w else lookup key fields := by
  induction fields with
  | nil => simp [replaceField, lookup]
  | cons f rest ih =>
    obtain ⟨k, x⟩ := f
    rw [replaceField] at ih ⊢
    rw [List.map_cons, lookup, lookup, ih]
    by_cases hkey : key = k
    · subst hkey
      by_cases hname : key = name <;> simp [hname]
    · by_cases hname : k = name <;> simp [hname, hkey]
      simp [← hname, hkey]

theorem pairwise_replaceField {r : String → String → Prop} (name : String) (w : Json)
    (h : fields.Pairwise fun f g => r f.1 g.1) :
    (replaceField name w fields).Pairwise fun f g => r f.1 g.1 := by
  refine List.pairwise_map.2 (h.imp fun hfg => ?_)
  split <;> split <;> exact hfg

/-- Leaving out the key whose value is replaced. -/
theorem filter_replaceField (p : String → Bool) {name : String} (hname : p name = false) (w : Json)
    (fields : List (String × Json)) :
    (replaceField name w fields).filter (p ·.1) = fields.filter (p ·.1) := by
  induction fields with
  | nil => rfl
  | cons f rest ih =>
    obtain ⟨k, x⟩ := f
    rw [replaceField] at ih ⊢
    rw [List.map_cons, List.filter_cons, List.filter_cons, ih]
    by_cases hkey : k = name
    · simp [hkey, hname]
    · simp [hkey]

/-! ## Ascending order -/

theorem setField_eq_insertEntry (key : String) (v : Json) (fields : List (String × Json)) :
    setField key v fields = insertEntry key v fields := by
  induction fields with
  | nil => rfl
  | cons f rest ih =>
    obtain ⟨k, w⟩ := f
    rw [setField, insertEntry, ih, show compare key k = compareOfLessAndEq key k from rfl,
      compareOfLessAndEq]
    by_cases hlt : key < k
    · rw [if_pos hlt, if_pos hlt]
    · rw [if_neg hlt, if_neg hlt]
      by_cases heq : key = k
      · rw [if_pos heq, if_pos heq]
      · rw [if_neg heq, if_neg heq]

theorem pairwise_setField (key : String) (v : Json) (h : fields.Pairwise fun f g => f.1 < g.1) :
    (setField key v fields).Pairwise fun f g => f.1 < g.1 := by
  rw [setField_eq_insertEntry]
  exact ascending_iff.1 (ascending_iff.2 h).insertEntry

theorem pairwise_foldl_setField {sorted : List (String × Json)}
    (h : sorted.Pairwise fun f g => f.1 < g.1) (fields : List (String × Json)) :
    (fields.foldl (fun sorted f => setField f.1 f.2 sorted) sorted).Pairwise
      fun f g => f.1 < g.1 := by
  induction fields generalizing sorted with
  | nil => exact h
  | cons f rest ih => exact ih (pairwise_setField f.1 f.2 h)

/-- Putting fields with different keys into order keeps the look-ups. -/
theorem lookup_foldl_setField (sorted : List (String × Json))
    (h : fields.Pairwise fun f g => f.1 ≠ g.1) (key : String) :
    lookup key (fields.foldl (fun sorted f => setField f.1 f.2 sorted) sorted) =
      (lookup key fields).or (lookup key sorted) := by
  simp only [lookup_eq_findEntry, setField_eq_insertEntry, findEntry_foldl_insertEntry sorted h]

/-- An object is made of fields with different keys by their look-ups. -/
theorem ofFields_eq (h : fields.Pairwise fun f g => f.1 ≠ g.1)
    (h' : fields'.Pairwise fun f g => f.1 < g.1)
    (hlookup : ∀ key, lookup key fields = lookup key fields') : ofFields fields = .obj fields' := by
  refine congrArg Json.obj (fields_ext (pairwise_foldl_setField .nil fields) h' fun key => ?_)
  rw [lookup_foldl_setField [] h, ← hlookup]
  exact Option.or_none

/-! ## Fields that are set -/

variable {settings : List (String × Option Json)}

theorem pairwise_present {r : String → String → Prop}
    (h : settings.Pairwise fun f g => r f.1 g.1) :
    (present settings).Pairwise fun f g => r f.1 g.1 := by
  refine List.Pairwise.filterMap _ (fun f g hfg => ?_) h
  rintro f' hf g' hg
  obtain ⟨v, -, rfl⟩ := Option.map_eq_some_iff.1 hf
  obtain ⟨w, -, rfl⟩ := Option.map_eq_some_iff.1 hg
  exact hfg

/-- Of fields with different keys, a key is looked up to what it is set to. -/
theorem lookup_present (h : settings.Pairwise fun f g => f.1 ≠ g.1) (key : String) :
    lookup key (present settings) = (settings.find? (·.1 = key)).bind Prod.snd := by
  induction settings with
  | nil => rfl
  | cons f rest ih =>
    obtain ⟨k, value⟩ := f
    obtain ⟨hhead, htail⟩ := List.pairwise_cons.1 h
    cases value with
    | none =>
      change lookup key (present rest) = _
      rw [ih htail, List.find?_cons]
      by_cases hkey : k = key
      · subst hkey
        have hrest : rest.find? (·.1 = k) = none :=
          List.find?_eq_none.2 fun g hg => by simpa using (hhead g hg).symm
        simp [hrest]
      · simp [hkey]
    | some v =>
      change lookup key ((k, v) :: present rest) = _
      rw [lookup, ih htail, List.find?_cons]
      by_cases hkey : key = k
      · simp [hkey]
      · simp [hkey, Ne.symm hkey]

theorem ordered_of_lookup (h : OrderedFields fields) (hlookup : lookup key fields = some v) :
    v.Ordered := by
  induction fields with
  | nil => cases hlookup
  | cons f rest ih =>
    obtain ⟨k, w⟩ := f
    rw [OrderedFields] at h
    rw [lookup] at hlookup
    split at hlookup
    case isTrue => exact Option.some.inj hlookup ▸ h.1
    case isFalse => exact ih h.2 hlookup

/-- A value that is null. -/
def isNull : Json → Bool
  | .null => true
  | _ => false

/-- What a field is set to; a field that is null is not set. -/
def setting? (key : String) (fields : List (String × Json)) : Option Json :=
  (lookup key fields).filter fun v => !v.isNull

theorem filter_setting? (key : String) (fields : List (String × Json)) :
    ((setting? key fields).filter fun v => !v.isNull) = setting? key fields := by
  rw [setting?, Option.filter_filter]
  simp only [Bool.and_self]

theorem lookup_of_setting? (h : setting? key fields = some v) : lookup key fields = some v :=
  (Option.filter_eq_some_iff.1 h).1

end Json

/-! ## Values that are read -/

namespace Json

theorem orderedFields_setField {key : String} {v : Json} {fields : List (String × Json)}
    (hv : v.Ordered) (h : OrderedFields fields) : OrderedFields (setField key v fields) := by
  induction fields with
  | nil => exact ⟨hv, trivial⟩
  | cons f rest ih =>
    obtain ⟨k, w⟩ := f
    rw [setField]
    split
    · exact ⟨hv, h⟩
    · split
      · exact ⟨hv, h.2⟩
      · exact ⟨h.1, ih h.2⟩

theorem orderedFields_foldl_setField {sorted fields : List (String × Json)}
    (hsorted : OrderedFields sorted) (h : OrderedFields fields) :
    OrderedFields (fields.foldl (fun sorted f => setField f.1 f.2 sorted) sorted) := by
  induction fields generalizing sorted with
  | nil => exact hsorted
  | cons f rest ih => exact ih (orderedFields_setField h.1 hsorted) h.2

theorem ordered_ofFields {fields : List (String × Json)} (h : OrderedFields fields) :
    (ofFields fields).Ordered :=
  ⟨pairwise_foldl_setField .nil fields, orderedFields_foldl_setField trivial h⟩

end Json

namespace Document

mutual

/-- Every value that is read from a document has its keys in order. -/
theorem ordered_of_value? : ∀ {d : Document} {v : Json}, d.value? = some v → v.Ordered
  | .null, _, h | .bool _, _, h | .int _, _, h | .float _, _, h | .str _, _, h => by
    obtain rfl := Option.some.inj h
    trivial
  | .arr items, _, h => by
    obtain ⟨vs, hvs, rfl⟩ := Option.map_eq_some_iff.1 h
    exact orderedItems_of_valueItems? hvs
  | .obj fields, _, h => by
    obtain ⟨values, hvalues, rfl⟩ := Option.map_eq_some_iff.1 h
    exact Json.ordered_ofFields (orderedFields_of_valueFields? hvalues)

theorem orderedItems_of_valueItems? :
    ∀ {items : List Document} {vs : List Json}, valueItems? items = some vs →
      Json.OrderedItems vs
  | [], _, h => by
    obtain rfl := Option.some.inj h
    trivial
  | d :: rest, _, h => by
    obtain ⟨v, hv, h⟩ := Option.bind_eq_some_iff.1 h
    obtain ⟨vs, hvs, h⟩ := Option.bind_eq_some_iff.1 h
    obtain rfl := Option.some.inj h
    exact ⟨ordered_of_value? hv, orderedItems_of_valueItems? hvs⟩

theorem orderedFields_of_valueFields? :
    ∀ {fields : List (Option String × Document)} {values : List (String × Json)},
      valueFields? fields = some values → Json.OrderedFields values
  | [], _, h => by
    obtain rfl := Option.some.inj h
    trivial
  | (key, d) :: rest, _, h => by
    obtain ⟨k, -, h⟩ := Option.bind_eq_some_iff.1 h
    obtain ⟨v, hv, h⟩ := Option.bind_eq_some_iff.1 h
    obtain ⟨values, hvalues, h⟩ := Option.bind_eq_some_iff.1 h
    obtain rfl := Option.some.inj h
    exact ⟨ordered_of_value? hv, orderedFields_of_valueFields? hvalues⟩

end

end Document

theorem Decode.nullable_of_not_null {α : Type} (decode : Decoder Json α) {v : Json}
    (h : v.isNull = false) : nullable decode v = some <$> decode v := by
  cases v <;> first | rfl | cases h

/-- An optional field is decoded from what it is set to. -/
theorem Decode.optional_json {α : Type} (decode : Decoder Json α) (name : String)
    (fields : List (String × Json)) : optional decode name fields =
      match Json.setting? name fields with
      | none => .ok none
      | some v => some <$> decode v := by
  rw [optional, given_json, Json.setting?]
  cases Json.lookup name fields with
  | none => rfl
  | some v =>
    cases hv : v.isNull with
    | true => cases v <;> first | rfl | cases hv
    | false =>
      simp only [nullable_of_not_null decode hv, Option.filter_some, hv, Bool.not_false, if_true]
      cases decode v <;> rfl

end ClassReconciler
