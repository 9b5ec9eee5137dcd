import ClassReconciler.Json.Printer
import ClassReconciler.Json.Source
import ClassReconciler.SortedMap
import ClassReconciler.Text.Quoted
import ClassReconciler.Time.Reader

/-!
# Decoding

Typed values are read out of JSON values and documents field by field, in ascending order of
the field names, and the first thing that is wrong is the error. `DecodeError.message` is its
wording. Every occurrence of a field must decode, and the last one counts; some records refuse
a second occurrence (`Decode.once`). In a JSON value there is one occurrence at most, and a
field is what looking it up gives (`Decode.given_json`).
-/

namespace ClassReconciler

/-- What was found where something else was expected. -/
inductive Found where
  | null
  | bool (b : Bool)
  | int (n : Int)
  | float (x : Binary64)
  | str (s : String)
  | sequence
  | map

def Layer.found : Layer V → Found
  | .null => .null
  | .bool b => .bool b
  | .int n => .int n
  | .float x => .float x
  | .str s => .str s
  | .arr _ => .sequence
  | .obj _ => .map

/-- Why something is not of the wanted form. -/
inductive DecodeError where
  | invalidType (found : Found) (expected : String)
  | invalidValue (found : Found) (expected : String)
  | invalidLength (length : Nat) (expected : String)
  | missingField (name : String)
  | repeatedField (name : String)
  | time (error : TimeError)
  | unreadable

def Found.text : Found → String
  | .null => "null"
  | .bool b => "boolean `" ++ (if b then "true" else "false") ++ "`"
  | .int n => "integer `" ++ toString n ++ "`"
  | .float x => "floating point `" ++ x.text Json.numberStyle ++ "`"
  | .str s => "string " ++ quoted s
  | .sequence => "sequence"
  | .map => "map"

def DecodeError.message : DecodeError → String
  | .invalidType found expected => "invalid type: " ++ found.text ++ ", expected " ++ expected
  | .invalidValue found expected => "invalid value: " ++ found.text ++ ", expected " ++ expected
  | .invalidLength length expected =>
    "invalid length " ++ toString length ++ ", expected " ++ expected
  | .missingField name => "missing field `" ++ name ++ "`"
  | .repeatedField name => "duplicate field `" ++ name ++ "`"
  | .time e => e.message
  | .unreadable => "unreadable value"

/-- Reads a value of one type out of another. -/
abbrev Decoder (V α : Type) : Type := V → Except DecodeError α

namespace Decode

variable {V α : Type} [Source V]

/-! ## Simple values -/

/-- The outermost layer. -/
def layer : Decoder V (Layer V) := fun v =>
  match Source.layer? v with
  | some l => .ok l
  | none => .error .unreadable

/-- The whole as a JSON value. -/
def any : Decoder V Json := fun v =>
  match Source.value? v with
  | some v => .ok v
  | none => .error .unreadable

def string : Decoder V String := fun v => do
  match ← layer v with
  | .str s => .ok s
  | l => .error (.invalidType l.found "a string")

def boolean : Decoder V Bool := fun v => do
  match ← layer v with
  | .bool b => .ok b
  | l => .error (.invalidType l.found "a boolean")

/-- An integer from a range, which has a name. -/
def integer (least most : Int) (name : String) : Decoder V Int := fun v => do
  match ← layer v with
  | .int n => if least ≤ n ∧ n ≤ most then .ok n else .error (.invalidValue (.int n) name)
  | l => .error (.invalidType l.found name)

/-- An integer of 64 bits with a sign. -/
def int64 : Decoder V Int64 := fun v =>
  Int64.ofInt <$> integer Int64.minValue.toInt Int64.maxValue.toInt "i64" v

/-- An integer of 32 bits with a sign. -/
def int32 : Decoder V Int32 := fun v =>
  Int32.ofInt <$> integer Int32.minValue.toInt Int32.maxValue.toInt "i32" v

def word16 : Decoder V UInt16 := fun v =>
  (UInt16.ofNat ·.toNat) <$> integer 0 (UInt16.size - 1) "u16" v

def word32 : Decoder V UInt32 := fun v =>
  (UInt32.ofNat ·.toNat) <$> integer 0 (UInt32.size - 1) "u32" v

def instant : Decoder V Instant := fun v => do
  match ← layer v with
  | .str s => (Instant.read s).mapError .time
  | l => .error (.invalidType l.found "an RFC 3339 formatted date and time string")

/-- A string of which only one value is allowed. -/
def constant (expected : String) : Decoder V Unit := fun v => do
  let s ← string v
  if s = expected then pure () else throw (.invalidValue (.str s) expected)

/-! ## Lists and maps -/

def items (decode : Decoder V α) : List V → Except DecodeError (List α)
  | [] => .ok []
  | v :: rest => do
    let a ← decode v
    let as ← items decode rest
    pure (a :: as)

def list (decode : Decoder V α) : Decoder V (List α) := fun v => do
  match ← layer v with
  | .arr vs => items decode vs
  | l => .error (.invalidType l.found "a sequence")

def entries (decode : Decoder V α) : List (String × V) → Except DecodeError (List (String × α))
  | [] => .ok []
  | (k, v) :: rest => do
    let a ← decode v
    let as ← entries decode rest
    pure ((k, a) :: as)

/-- The fields of an object. -/
def fields (expected : String) : Decoder V (List (String × V)) := fun v => do
  match ← layer v with
  | .obj fields => .ok fields
  | l => .error (.invalidType l.found expected)

def stringMap : Decoder V (SortedMap String String) := fun v => do
  let fields ← fields "a map" v
  SortedMap.ofList <$> entries string fields

/-! ## Fields -/

/-- A value that may be null. -/
def nullable (decode : Decoder V α) : Decoder V (Option α) := fun v => do
  match ← layer v with
  | .null => .ok none
  | _ => some <$> decode v

/-- Decodes the occurrences of a field; the last one counts. -/
def occurrences (decode : Decoder V α) : List (String × V) → Except DecodeError (Option α)
  | [] => .ok none
  | (_, v) :: rest => do
    let a ← decode v
    let last ← occurrences decode rest
    pure (last.or (some a))

/-- A field that may be absent, but not null. -/
def given (decode : Decoder V α) (name : String) (fields : List (String × V)) :
    Except DecodeError (Option α) :=
  occurrences decode (Source.named [name] fields)

/-- A field that may be absent or null. -/
def optional (decode : Decoder V α) (name : String) (fields : List (String × V)) :
    Except DecodeError (Option α) :=
  Option.join <$> given (nullable decode) name fields

/-- A field that may be absent or null and then has a value of its own. -/
def orDefault (decode : Decoder V α) (default : α) (name : String) (fields : List (String × V)) :
    Except DecodeError α :=
  (·.getD default) <$> optional decode name fields

/-- Checks fields that may be absent, but not null. -/
def checkGiven (decode : Decoder V α) (fields : List (String × V)) :
    List String → Except DecodeError Unit
  | [] => .ok ()
  | name :: rest => do
    let _ ← given decode name fields
    checkGiven decode fields rest

/-- Checks fields that may be absent or null. -/
def checkOptional (decode : Decoder V α) (fields : List (String × V)) :
    List String → Except DecodeError Unit
  | [] => .ok ()
  | name :: rest => do
    let _ ← optional decode name fields
    checkOptional decode fields rest

/-- Refuses a second occurrence of a field with one of the names. -/
def once (fields : List (String × V)) : List String → Except DecodeError Unit
  | [] => .ok ()
  | name :: rest =>
    match Source.named [name] fields with
    | _ :: _ :: _ => .error (.repeatedField name)
    | _ => once fields rest

/-- What a required field holds; a missing one is an error of its own. -/
def required (name : String) : Option α → Except DecodeError α
  | some a => .ok a
  | none => .error (.missingField name)

/-- Checks the API version and kind of an object, which may be absent. -/
def typed (apiVersion kind : String) (fields : List (String × V)) : Except DecodeError Unit := do
  let _ ← given (constant apiVersion) "apiVersion" fields
  let _ ← given (constant kind) "kind" fields

/-! ## Fields of JSON values -/

theorem given_json (decode : Decoder Json α) (name : String) (fields : List (String × Json)) :
    given decode name fields =
      match Json.lookup name fields with
      | none => .ok none
      | some v => some <$> decode v := by
  rw [given, named_json]
  cases Json.lookup name fields with
  | none => rfl
  | some v => cases h : decode v <;> simp [occurrences, h] <;> rfl

theorem once_json (fields : List (String × Json)) (names : List String) :
    once fields names = .ok () := by
  induction names with
  | nil => rfl
  | cons name rest ih =>
    rw [once, named_json]
    cases Json.lookup name fields <;> simpa using ih

end Decode

namespace Encode

def strings (ss : List String) : Json := .arr (ss.map .str)

def stringMap (m : SortedMap String String) : Json := .obj (m.entries.map fun (k, v) => (k, .str v))

def int64 (n : Int64) : Json := .int n.toInt

def instant (t : Instant) : Json := .str t.text

/-- An object with the fields that are set. -/
def record (fields : List (String × Option Json)) : Json := Json.ofFields (Json.present fields)

end Encode

end ClassReconciler
