import ClassReconciler.Json
import ClassReconciler.Decimal.Shortest

/-!
# Writing JSON and YAML text

`Json.text` writes a value on one line without blanks. `Json.yaml` writes a document in YAML
block style, a list item at the indentation of the key that holds the list.
-/

namespace ClassReconciler

namespace Json

/-- Floating point numbers are written positionally from `0.00001` up to sixteen digits
before the point, and greater powers of ten have a plus sign. -/
def numberStyle : NumberStyle := ⟨-5, 16, true⟩

def hexDigit (n : Nat) : Char := (Nat.toDigits 16 n).headD '0'

/-- A character inside a quoted string. -/
def escape (c : Char) : List Char :=
  match c with
  | '"' => ['\\', '"']
  | '\\' => ['\\', '\\']
  | '\n' => ['\\', 'n']
  | '\r' => ['\\', 'r']
  | '\t' => ['\\', 't']
  | '\x08' => ['\\', 'b']
  | '\x0c' => ['\\', 'f']
  | c =>
    if c.toNat < 0x20 then ['\\', 'u', '0', '0', hexDigit (c.toNat / 16), hexDigit (c.toNat % 16)]
    else [c]

def quote (s : String) : String := String.ofList ('"' :: s.toList.flatMap escape ++ ['"'])

mutual

/-- The value on one line, without blanks. -/
def text : Json → String
  | .null => "null"
  | .bool b => if b then "true" else "false"
  | .int n => toString n
  | .float x => x.text numberStyle
  | .str s => quote s
  | .arr items => "[" ++ itemsText items ++ "]"
  | .obj fields => "\x7b" ++ fieldsText fields ++ "\x7d"

def itemsText : List Json → String
  | [] => ""
  | [v] => v.text
  | v :: rest => v.text ++ "," ++ itemsText rest

def fieldsText : List (String × Json) → String
  | [] => ""
  | [(k, v)] => quote k ++ ":" ++ v.text
  | (k, v) :: rest => quote k ++ ":" ++ v.text ++ "," ++ fieldsText rest

end

/-! ## YAML -/

/-- Text that is written as a plain scalar: it starts with a letter, has no mark that YAML
could read as something else, and is no word of YAML. -/
def isPlainScalar (s : String) : Bool :=
  match s.toList with
  | [] => false
  | c :: _ =>
    c.isAlpha && s.toList.all (fun c => c ∉ ['#', ':', '\n', '"']) &&
      s ∉ ["true", "false", "null", "yes", "no", "on", "off"]

/-- A value that fits behind a key on the same line. -/
def yamlInline? : Json → Option String
  | .null => some "null"
  | .bool b => some (if b then "true" else "false")
  | .int n => some (toString n)
  | .float x => some (x.text numberStyle)
  | .str s => some (if isPlainScalar s then s else quote s)
  | .arr [] => some "[]"
  | .obj [] => some "\x7b\x7d"
  | _ => none

def isArray : Json → Bool
  | .arr _ => true
  | _ => false

def indented (lines : List String) : List String := lines.map ("  " ++ ·)

/-- Puts a dash before the first line and indents the others to match. -/
def listItem : List String → List String
  | [] => []
  | first :: rest => ("- " ++ first) :: indented rest

mutual

/-- The lines of a value in block style. -/
def yamlLines : Json → List String
  | .arr (v :: rest) => yamlItems (v :: rest)
  | .obj (f :: rest) => yamlFields (f :: rest)
  | v => [(yamlInline? v).getD ""]

def yamlItems : List Json → List String
  | [] => []
  | v :: rest => listItem (yamlLines v) ++ yamlItems rest

def yamlFields : List (String × Json) → List String
  | [] => []
  | (k, v) :: rest =>
    (match yamlInline? v with
      | some scalar => [k ++ ": " ++ scalar]
      | none => (k ++ ":") :: if isArray v then yamlLines v else indented (yamlLines v)) ++
    yamlFields rest

end

/-- The value as a YAML document. -/
def yaml (v : Json) : String := String.join (v.yamlLines.map (· ++ "\n"))

end Json

end ClassReconciler
