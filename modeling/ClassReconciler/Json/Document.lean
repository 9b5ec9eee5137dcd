import ClassReconciler.Json

/-!
# Documents

What a JSON text writes, before it is known which parts of it are looked at. An object keeps
its fields in the order of the text, with every occurrence of a key. A part that is well
written but has no value is `unreadable`; it does no harm where nothing looks at it.

A document whose parts can all be read has a value (`Document.value?`), and every value is
written by a document (`Json.document`) from which it reads back (`value?_document`).
-/

namespace ClassReconciler

/-- What a text writes. An object's key is none where it cannot be read. -/
inductive Document where
  | null
  | bool (b : Bool)
  | int (n : Int)
  | float (x : Binary64)
  | str (s : String)
  | arr (items : List Document)
  | obj (fields : List (Option String × Document))
  | unreadable
deriving Inhabited

namespace Document

mutual

/-- The value of a document all of whose parts can be read; of a repeated key the last
occurrence counts. -/
def value? : Document → Option Json
  | .null => some .null
  | .bool b => some (.bool b)
  | .int n => some (.int n)
  | .float x => some (.float x)
  | .str s => some (.str s)
  | .arr items => (valueItems? items).map .arr
  | .obj fields => (valueFields? fields).map Json.ofFields
  | .unreadable => none

def valueItems? : List Document → Option (List Json)
  | [] => some []
  | d :: rest => do
    let v ← value? d
    let vs ← valueItems? rest
    pure (v :: vs)

def valueFields? : List (Option String × Document) → Option (List (String × Json))
  | [] => some []
  | (key, d) :: rest => do
    let k ← key
    let v ← value? d
    let fields ← valueFields? rest
    pure ((k, v) :: fields)

end

end Document

namespace Json

mutual

/-- The document that writes a value. -/
def document : Json → Document
  | .null => .null
  | .bool b => .bool b
  | .int n => .int n
  | .float x => .float x
  | .str s => .str s
  | .arr items => .arr (documentItems items)
  | .obj fields => .obj (documentFields fields)

def documentItems : List Json → List Document
  | [] => []
  | v :: rest => document v :: documentItems rest

def documentFields : List (String × Json) → List (Option String × Document)
  | [] => []
  | (k, v) :: rest => (some k, document v) :: documentFields rest

end

/-! ## Reading back -/

theorem setField_of_lt {fields : List (String × Json)} {key : String} {value : Json}
    (h : ∀ f ∈ fields, f.1 < key) : setField key value fields = fields ++ [(key, value)] := by
  induction fields with
  | nil => rfl
  | cons f rest ih =>
    have hf : f.1 < key := h f (.head _)
    have hne : key ≠ f.1 := fun he => String.lt_irrefl f.1 (he ▸ hf)
    simp [setField, String.lt_asymm hf, hne, ih fun g hg => h g (.tail _ hg)]

theorem foldl_setField (sorted : List (String × Json)) {fields : List (String × Json)}
    (h : (sorted ++ fields).Pairwise fun f g => f.1 < g.1) :
    fields.foldl (fun sorted f => setField f.1 f.2 sorted) sorted = sorted ++ fields := by
  induction fields generalizing sorted with
  | nil => simp
  | cons f rest ih =>
    have hlt : ∀ g ∈ sorted, g.1 < f.1 := fun g hg =>
      (List.pairwise_append.1 h).2.2 g hg f (.head _)
    rw [List.foldl_cons, setField_of_lt hlt, ih _ (by simpa using h)]
    simp

/-- Fields in strictly ascending key order are an object's fields as they stand. -/
theorem ofFields_of_pairwise {fields : List (String × Json)}
    (h : fields.Pairwise fun f g => f.1 < g.1) : ofFields fields = .obj fields := by
  simpa [ofFields] using foldl_setField [] (by simpa using h)

mutual

theorem value?_document : ∀ {v : Json}, v.Ordered → v.document.value? = some v
  | .null, _ => rfl
  | .bool _, _ => rfl
  | .int _, _ => rfl
  | .float _, _ => rfl
  | .str _, _ => rfl
  | .arr _, h => by
    simp [document, Document.value?, valueItems?_documentItems (by simpa [Ordered] using h)]
  | .obj _, h => by
    simp only [Ordered] at h
    simp [document, Document.value?, valueFields?_documentFields h.2, ofFields_of_pairwise h.1]

theorem valueItems?_documentItems :
    ∀ {items : List Json}, OrderedItems items →
      Document.valueItems? (documentItems items) = some items
  | [], _ => rfl
  | _ :: _, h => by
    simp only [OrderedItems] at h
    simp [documentItems, Document.valueItems?, value?_document h.1,
      valueItems?_documentItems h.2]

theorem valueFields?_documentFields :
    ∀ {fields : List (String × Json)}, OrderedFields fields →
      Document.valueFields? (documentFields fields) = some fields
  | [], _ => rfl
  | (_, _) :: _, h => by
    simp only [OrderedFields] at h
    simp [documentFields, Document.valueFields?, value?_document h.1,
      valueFields?_documentFields h.2]

end

end Json

end ClassReconciler
