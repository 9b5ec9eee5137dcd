import ClassReconciler.Decimal.Binary64

/-!
# JSON values

Integers and floating point numbers are different values, also where they are equal as
numbers. An object is the list of its fields; `Json.ofFields` puts them into ascending key
order and keeps the last value of a key, which is the form that reading text and encoding an
object produce. `Json.Ordered` says that a value has that form throughout.

Two values are compared with `==`, which compares floating point numbers by value, so that
the two zeros are equal; it is reflexive (`Json.beq_refl`).
-/

namespace ClassReconciler

/-- A JSON value. -/
inductive Json where
  | null
  | bool (b : Bool)
  | int (n : Int)
  | float (x : Binary64)
  | str (s : String)
  | arr (items : List Json)
  | obj (fields : List (String × Json))
deriving Inhabited

namespace Json

/-! ## Objects -/

/-- The value of a key in a list of fields. -/
def lookup (key : String) : List (String × Json) → Option Json
  | [] => none
  | (k, v) :: rest => if key = k then some v else lookup key rest

/-- Sets a key among fields in ascending key order. -/
def setField (key : String) (value : Json) : List (String × Json) → List (String × Json)
  | [] => [(key, value)]
  | (k, v) :: rest =>
    if key < k then (key, value) :: (k, v) :: rest
    else if key = k then (key, value) :: rest
    else (k, v) :: setField key value rest

/-- The object with the given fields: in ascending key order, the last value of a key. -/
def ofFields (fields : List (String × Json)) : Json :=
  .obj (fields.foldl (fun sorted f => setField f.1 f.2 sorted) [])

/-- The value of a key, where the value is an object that has it. -/
def get? (key : String) : Json → Option Json
  | .obj fields => lookup key fields
  | _ => none

def asString? : Json → Option String
  | .str s => some s
  | _ => none

/-- The fields of an object that leaves out what is unset. -/
def present (fields : List (String × Option Json)) : List (String × Json) :=
  fields.filterMap fun (k, v) => v.map (k, ·)

mutual

/-- The value's objects all have their keys in strictly ascending order. -/
def Ordered : Json → Prop
  | .arr items => OrderedItems items
  | .obj fields => fields.Pairwise (fun f g => f.1 < g.1) ∧ OrderedFields fields
  | _ => True

def OrderedItems : List Json → Prop
  | [] => True
  | v :: rest => v.Ordered ∧ OrderedItems rest

def OrderedFields : List (String × Json) → Prop
  | [] => True
  | (_, v) :: rest => v.Ordered ∧ OrderedFields rest

end

/-! ## Equality -/

mutual

/-- Equality of values, with numbers of a kind compared by value. -/
def same : Json → Json → Bool
  | .null, .null => true
  | .bool a, .bool b => a == b
  | .int a, .int b => a == b
  | .float a, .float b => a == b
  | .str a, .str b => a == b
  | .arr a, .arr b => sameItems a b
  | .obj a, .obj b => sameFields a b
  | _, _ => false

def sameItems : List Json → List Json → Bool
  | [], [] => true
  | a :: as, b :: bs => same a b && sameItems as bs
  | _, _ => false

def sameFields : List (String × Json) → List (String × Json) → Bool
  | [], [] => true
  | (k, a) :: as, (l, b) :: bs => k == l && same a b && sameFields as bs
  | _, _ => false

end

instance : BEq Json := ⟨same⟩

mutual

theorem same_refl : ∀ v : Json, same v v = true
  | .null => by simp [same]
  | .bool _ => by simp [same]
  | .int _ => by simp [same]
  | .float x => by simp [same, Binary64.beq_refl]
  | .str _ => by simp [same]
  | .arr items => by simp [same, sameItems_refl items]
  | .obj fields => by simp [same, sameFields_refl fields]

theorem sameItems_refl : ∀ items : List Json, sameItems items items = true
  | [] => by simp [sameItems]
  | v :: rest => by simp [sameItems, same_refl v, sameItems_refl rest]

theorem sameFields_refl : ∀ fields : List (String × Json), sameFields fields fields = true
  | [] => by simp [sameFields]
  | (_, v) :: rest => by simp [sameFields, same_refl v, sameFields_refl rest]

end

@[simp] theorem beq_refl (v : Json) : (v == v) = true := same_refl v

instance : ReflBEq Json := ⟨beq_refl _⟩

end Json

end ClassReconciler
