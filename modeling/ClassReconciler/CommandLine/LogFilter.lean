import ClassReconciler.Text.Alphanumeric
import ClassReconciler.Text.Blank
import ClassReconciler.Text.Digit
import ClassReconciler.Text.Split

/-!
# Log filters

A log filter is a list of directives between commas. A directive is a target, a span between
brackets with a field between braces, and a level after an equals sign, of which all but one
may be missing; what stands alone is a level or a target. A field is any text up to the first
closing brace, but not the empty one.

Where a level stands is counted in bytes from the first character that is no blank, but what
stands there is looked up from the start of the directive. So a directive with a level has no
blanks around it.
-/

namespace ClassReconciler

namespace LogFilter

/-! ## Levels -/

/-- A level: a number from 0 to 5 or a name in any case. -/
def isLevel (cs : List Char) : Bool :=
  let digits := skipPlus cs
  (isDigits digits && digitsValue digits ≤ 5) ||
    String.ofList (cs.map Char.toLower) ∈ ["", "error", "warn", "info", "debug", "trace", "off"]

/-- The characters behind a number of bytes. -/
def dropBytes : Nat → List Char → List Char
  | 0, cs => cs
  | _, [] => []
  | n, c :: cs => dropBytes (n - c.utf8Size) cs

/-! ## Directives -/

/-- What of a directive is being read; a level with the position at which it starts. -/
inductive Part where
  | start
  | name
  | span
  | fieldStart
  | field
  | fieldEnd
  | target
  | level (first : Nat)

/-- A character that a target starts with. -/
def startsName (c : Char) : Bool := c ∈ ['-', ':', '_'] || isAlphanumeric c

/-- The part behind the character at a position, or none where it cannot stand there. -/
def Part.next (position : Nat) (p : Part) (c : Char) : Option Part :=
  match p with
  | .start => if c = '[' then some .span else if startsName c then some .name else none
  | .name => some (if c = '=' then .level (position + 1) else if c = '[' then .span else .name)
  | .span =>
    some (if c = ']' then .target else if c = '\x7b' then .fieldStart else .span)
  | .fieldStart => if c = '\x7d' then none else some .field
  | .field => some (if c = '\x7d' then .fieldEnd else .field)
  | .fieldEnd => if c = ']' then some .target else none
  | .target => if c = '=' then some (.level (position + 1)) else none
  | .level _ => some p

/-- The part behind the characters that start at a position. -/
def Part.read? (position : Nat) (p : Part) : List Char → Option Part
  | [] => some p
  | c :: cs => do
    let p ← p.next position c
    p.read? (position + c.utf8Size) cs

/-- A directive may end in the part. -/
def Part.isEnd (directive : List Char) : Part → Bool
  | .name | .target => true
  | .level first => isLevel (dropBytes first directive)
  | _ => false

def isDirective (cs : List Char) : Bool :=
  let trimmed := (skipBlanks (skipBlanks cs).reverse).reverse
  (Part.start.read? 0 trimmed).any (Part.isEnd cs)

/-- The text is a list of directives; nothing may stand between two commas. -/
def isWritten (s : String) : Bool :=
  (splitAll ',' s.toList).all fun directive => directive.isEmpty || isDirective directive

end LogFilter

end ClassReconciler
