import ClassReconciler.Decimal.Numeral
import ClassReconciler.Json.Document

/-!
# Reading JSON text

Text is cut into tokens, and the tokens are folded over a stack of open arrays and objects.
`Document.ofText?` gives the document of a text, or none where it is not well written. A
number out of range, a string with half of a surrogate pair and a container inside 127 others
are unreadable parts of a document. `Json.ofText?` gives the value of a text that has no such
parts.
-/

namespace ClassReconciler

namespace Document

/-! ## Numbers -/

/-- The floating point number that a numeral stands for, unreadable where it is out of range. -/
def ofNumeral (negative : Bool) (x : Numeral) : Document :=
  match x.value? negative with
  | some x => .float x
  | none => .unreadable

/-- An integer in 64 bits, signed or not; beyond that range, and for a negative zero, a
floating point number. -/
def ofInteger (negative : Bool) (digits : List Char) : Document :=
  let n := digitsValue digits
  if negative then
    if 0 < n ∧ n ≤ UInt64.size / 2 then .int (-n) else ofNumeral true (.ofWhole digits)
  else if n < UInt64.size then .int n
  else ofNumeral false (.ofWhole digits)

/-- The exponent part of a number, which is empty or `e`, a sign and digits. -/
def exponent? : List Char → Option Int
  | [] => some 0
  | e :: cs =>
    if e ≠ 'e' ∧ e ≠ 'E' then none
    else
      let (sign, digits) : Int × List Char :=
        match cs with
        | '-' :: ds => (-1, ds)
        | '+' :: ds => (1, ds)
        | ds => (1, ds)
      if isDigits digits then some (sign * digitsValue digits) else none

/-- A number without its sign: an integer part with no leading zero, then a fraction and an
exponent, each of them optional. -/
def unsignedNumber? (negative : Bool) (cs : List Char) : Option Document :=
  let whole := cs.takeWhile Char.isDigit
  let rest := cs.dropWhile Char.isDigit
  if whole.isEmpty ∨ (whole.length ≠ 1 ∧ whole.head? = some '0') then none
  else
    let x := Numeral.ofWhole whole
    match rest with
    | [] => some (ofInteger negative whole)
    | '.' :: rest =>
      let fraction := rest.takeWhile Char.isDigit
      if fraction.isEmpty then none
      else do
        let e ← exponent? (rest.dropWhile Char.isDigit)
        pure (ofNumeral negative ((x.appendFraction fraction).scale e))
    | rest => do
      let e ← exponent? rest
      pure (ofNumeral negative (x.scale e))

/-- The value of a word: a name or a number. -/
def ofWord? : List Char → Option Document
  | ['n', 'u', 'l', 'l'] => some .null
  | ['t', 'r', 'u', 'e'] => some (.bool true)
  | ['f', 'a', 'l', 's', 'e'] => some (.bool false)
  | '-' :: cs => unsignedNumber? true cs
  | cs => unsignedNumber? false cs

/-! ## Tokens -/

/-- The characters of a string so far, last first; none once it cannot be read. -/
abbrev OpenText : Type := Option (List Char)

inductive Token where
  | openArray
  | closeArray
  | openObject
  | closeObject
  | comma
  | colon
  | word (d : Document)
  | text (s : Option String)

/-- The number that four hexadecimal digits write. -/
def hexUnit? (a b c d : Char) : Option Nat := do
  let a ← hexDigit? a
  let b ← hexDigit? b
  let c ← hexDigit? c
  let d ← hexDigit? d
  pure (((a * 16 + b) * 16 + c) * 16 + d)

def isHighSurrogate (n : Nat) : Bool := 0xD800 ≤ n && n < 0xDC00

def isLowSurrogate (n : Nat) : Bool := 0xDC00 ≤ n && n < 0xE000

/-- The second half of a surrogate pair, where a text goes on with one. -/
def lowSurrogate? : List Char → Option Nat
  | '\\' :: 'u' :: a :: b :: c :: d :: _ => (hexUnit? a b c d).filter isLowSurrogate
  | _ => none

/-- The character that a letter after a backslash stands for. -/
def escaped? : Char → Option Char
  | '"' => some '"'
  | '\\' => some '\\'
  | '/' => some '/'
  | 'b' => some '\x08'
  | 'f' => some '\x0c'
  | 'n' => some '\n'
  | 'r' => some '\r'
  | 't' => some '\t'
  | _ => none

/-- A character that a word ends at. -/
def isDelimiter (c : Char) : Bool :=
  c ∈ [' ', '\t', '\n', '\r', '[', ']', '\x7b', '\x7d', ',', ':', '"']

/-- The tokens of a text, inside a string where one is open. -/
def tokens? (open? : Option OpenText) (cs : List Char) : Option (List Token) :=
  match open?, cs with
  | none, [] => some []
  | none, c :: rest =>
    match c with
    | ' ' | '\t' | '\n' | '\r' => tokens? none rest
    | '[' => (tokens? none rest).map (.openArray :: ·)
    | ']' => (tokens? none rest).map (.closeArray :: ·)
    | '\x7b' => (tokens? none rest).map (.openObject :: ·)
    | '\x7d' => (tokens? none rest).map (.closeObject :: ·)
    | ',' => (tokens? none rest).map (.comma :: ·)
    | ':' => (tokens? none rest).map (.colon :: ·)
    | '"' => tokens? (some (some [])) rest
    | c =>
      match ofWord? (c :: rest.takeWhile (!isDelimiter ·)) with
      | none => none
      | some d => (tokens? none (rest.dropWhile (!isDelimiter ·))).map (.word d :: ·)
  | some _, [] => none
  | some text, '"' :: rest =>
    (tokens? none rest).map (.text (text.map fun cs => String.ofList cs.reverse) :: ·)
  | some text, '\\' :: 'u' :: a :: b :: c :: d :: rest =>
    match hexUnit? a b c d with
    | none => none
    | some unit =>
      if isHighSurrogate unit then
        match lowSurrogate? rest with
        | some low =>
          let code := 0x10000 + (unit - 0xD800) * 0x400 + (low - 0xDC00)
          tokens? (some (text.map (Char.ofNat code :: ·))) (rest.drop 6)
        | none => tokens? (some none) rest
      else if isLowSurrogate unit then tokens? (some none) rest
      else tokens? (some (text.map (Char.ofNat unit :: ·))) rest
  | some text, '\\' :: c :: rest =>
    match escaped? c with
    | none => none
    | some c => tokens? (some (text.map (c :: ·))) rest
  | some text, c :: rest =>
    if c = '\\' ∨ c.toNat < 0x20 then none else tokens? (some (text.map (c :: ·))) rest
termination_by cs.length
decreasing_by
  all_goals simp only [List.length_cons, List.length_drop]
  all_goals first
    | omega
    | exact Nat.lt_succ_of_le (List.dropWhile_sublist _).length_le

/-! ## Containers -/

/-- An array or object that is still open, what it holds so far last first. -/
inductive Frame where
  | items (done : List Document)
  | fields (done : List (Option String × Document)) (key : Option String)

/-- What may come next. -/
inductive Expected where
  | value
  | valueOrEnd
  | key
  | keyOrEnd
  | colon (key : Option String)
  | separator
  | nothing (document : Document)

/-- What may come next, the fields of the innermost open object before its next key, and the
open containers around. -/
structure ReadState where
  expected : Expected
  fields : List (Option String × Document)
  stack : List Frame

/-- Most containers that may be open inside one another for the innermost one to be read. -/
def maxDepth : Nat := 127

/-- Puts a finished part into the innermost open container. -/
def place (d : Document) : List Frame → ReadState
  | [] => ⟨.nothing d, [], []⟩
  | .items done :: stack => ⟨.separator, [], .items (d :: done) :: stack⟩
  | .fields done key :: stack => ⟨.separator, (key, d) :: done, .fields done key :: stack⟩

/-- Puts a finished container into the one around it. -/
def close (d : Document) (stack : List Frame) : ReadState :=
  place (if stack.length < maxDepth then d else .unreadable) stack

def textDocument : Option String → Document
  | some s => .str s
  | none => .unreadable

/-- One token's effect. -/
def ReadState.step (s : ReadState) (t : Token) : Option ReadState :=
  match s.expected, t, s.stack with
  | .value, .word d, stack | .valueOrEnd, .word d, stack => some (place d stack)
  | .value, .text k, stack | .valueOrEnd, .text k, stack => some (place (textDocument k) stack)
  | .value, .openArray, stack | .valueOrEnd, .openArray, stack =>
    some ⟨.valueOrEnd, [], .items [] :: stack⟩
  | .value, .openObject, stack | .valueOrEnd, .openObject, stack =>
    some ⟨.keyOrEnd, [], .fields [] none :: stack⟩
  | .valueOrEnd, .closeArray, .items done :: stack => some (close (.arr done.reverse) stack)
  | .separator, .closeArray, .items done :: stack => some (close (.arr done.reverse) stack)
  | .separator, .comma, .items done :: stack => some ⟨.value, [], .items done :: stack⟩
  | .separator, .comma, stack => some ⟨.key, s.fields, stack⟩
  | .keyOrEnd, .closeObject, .fields .. :: stack | .separator, .closeObject, .fields .. :: stack =>
    some (close (.obj s.fields.reverse) stack)
  | .key, .text k, stack | .keyOrEnd, .text k, stack => some ⟨.colon k, s.fields, stack⟩
  | .colon k, .colon, .fields .. :: stack => some ⟨.value, [], .fields s.fields k :: stack⟩
  | _, _, _ => none

/-- The document of a text. -/
def ofText? (text : String) : Option Document := do
  let tokens ← tokens? none text.toList
  let s ← tokens.foldlM ReadState.step ⟨.value, [], []⟩
  match s.expected with
  | .nothing d => pure d
  | _ => none

end Document

/-- The value that a text writes. -/
def Json.ofText? (text : String) : Option Json := (Document.ofText? text).bind Document.value?

end ClassReconciler
