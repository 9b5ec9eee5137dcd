import ClassReconciler.Json.Document

/-!
# Sources of typed values

Typed values are decoded from JSON values and from documents alike. A `Source` shows the
outermost layer of what it holds, as far as it can be read. In a value a field has one
occurrence at most (`named_json`); in a document a field may have several, which come in the
order of the text.
-/

namespace ClassReconciler

/-- The outermost layer of a value, with parts of type `V` below it. -/
inductive Layer (V : Type) where
  | null
  | bool (b : Bool)
  | int (n : Int)
  | float (x : Binary64)
  | str (s : String)
  | arr (items : List V)
  | obj (fields : List (String × V))

/-- What typed values can be decoded from. -/
class Source (V : Type) where
  /-- The outermost layer, where it can be read. -/
  layer? : V → Option (Layer V)
  /-- The whole as a JSON value, where all of it can be read. -/
  value? : V → Option Json
  /-- The occurrences of the fields with some names, given in ascending order. -/
  named : List String → List (String × V) → List (String × V)

namespace Json

def layer : Json → Layer Json
  | .null => .null
  | .bool b => .bool b
  | .int n => .int n
  | .float x => .float x
  | .str s => .str s
  | .arr items => .arr items
  | .obj fields => .obj fields

instance : Source Json where
  layer? v := some v.layer
  value? := some
  named names fields := names.filterMap fun name => (lookup name fields).map (name, ·)

end Json

namespace Document

/-- The fields of an object whose keys can all be read. -/
def readableFields? : List (Option String × Document) → Option (List (String × Document))
  | [] => some []
  | (key, d) :: rest => do
    let k ← key
    let fields ← readableFields? rest
    pure ((k, d) :: fields)

/-- The outermost layer. The keys of an object are part of it. -/
def layer? : Document → Option (Layer Document)
  | .null => some .null
  | .bool b => some (.bool b)
  | .int n => some (.int n)
  | .float x => some (.float x)
  | .str s => some (.str s)
  | .arr items => some (.arr items)
  | .obj fields => (readableFields? fields).map .obj
  | .unreadable => none

instance : Source Document where
  layer?
  value?
  named names fields := fields.filter fun f => f.1 ∈ names

end Document

theorem named_json (name : String) (fields : List (String × Json)) :
    Source.named [name] fields = ((Json.lookup name fields).map (name, ·)).toList := by
  cases h : Json.lookup name fields <;> simp [Source.named, h]

end ClassReconciler
