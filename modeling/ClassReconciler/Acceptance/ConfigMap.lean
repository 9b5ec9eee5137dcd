import ClassReconciler.Api.Exchange

/-!
# Config maps

The objects that acceptance tests declare and look for: a config map whose data has one
value.
-/

namespace ClassReconciler

/-- A config map, of which only the data is looked at. -/
structure ConfigMap where
  data : Option (SortedMap String String)

namespace ConfigMap

/-- A character of the base 64 alphabet by its number. -/
def base64Digit? (c : Char) : Option Nat :=
  if c.isUpper then some (c.toNat - 'A'.toNat)
  else if c.isLower then some (c.toNat - 'a'.toNat + 26)
  else if c.isDigit then some (c.toNat - '0'.toNat + 52)
  else if c = '+' then some 62
  else if c = '/' then some 63
  else none

/-- The text writes bytes in base 64: whole groups of four characters, the last one padded,
and no bits left over. -/
def isBase64 : List Char → Bool
  | [] => true
  | [a, b, '=', '='] => (base64Digit? a).isSome && (base64Digit? b).any (· % 16 = 0)
  | [a, b, c, '='] =>
    (base64Digit? a).isSome && (base64Digit? b).isSome && (base64Digit? c).any (· % 4 = 0)
  | a :: b :: c :: d :: rest => [a, b, c, d].all (fun x => (base64Digit? x).isSome) && isBase64 rest
  | _ => false

/-- Bytes written in base 64. -/
def binary [Source V] : Decoder V Unit := fun v => do
  let s ← Decode.string v
  if isBase64 s.toList then pure () else throw (.invalidValue (.str s) "a base64-encoded string")

def decode [Source V] : Decoder V ConfigMap := fun v => do
  let fields ← Decode.fields "ConfigMap" v
  Decode.typed "v1" "ConfigMap" fields
  let binaryData ← Decode.optional (Decode.fields "a map") "binaryData" fields
  let _ ← Decode.entries (Decode.nullable binary) (binaryData.getD [])
  let data ← Decode.optional Decode.stringMap "data" fields
  let _ ← Decode.optional Decode.boolean "immutable" fields
  let _ ← Decode.optional Metadata.decode "metadata" fields
  pure ⟨data⟩

/-- The value under the key that the tests use. -/
def value? (m : ConfigMap) : Option String := m.data.bind (·.find? "value")

/-- A config map as a class declares it. -/
def declared (name value : String) : Json :=
  Json.ofFields [
    ("apiVersion", .str "v1"),
    ("kind", .str "ConfigMap"),
    ("metadata", .obj [("name", .str name)]),
    ("data", .obj [("value", .str value)])]

end ConfigMap

end ClassReconciler
