import ClassReconciler.Text.Digit

/-!
# Socket addresses

An address is written as four decimal numbers, or between brackets as eight groups of
hexadecimal digits; behind it stand a colon and the number of the socket, which has 16 bits.
Groups of zeros may be left out once, the last two groups may be written as four decimal
numbers, and a scope may follow the groups.
-/

namespace ClassReconciler

namespace SocketAddress

/-- The rest of a text behind something that stands at its front, with its value. -/
abbrev Reader (α : Type) := List Char → Option (α × List Char)

def char (c : Char) : Reader Unit
  | [] => none
  | d :: rest => if c = d then some ((), rest) else none

/-- The digits of a number below a bound; there is at least one. -/
def number (bound : Nat) : Reader (List Char) := fun cs =>
  let digits := cs.takeWhile Char.isDigit
  if digits.isEmpty ∨ bound ≤ digitsValue digits then none
  else some (digits, cs.drop digits.length)

/-- One of the four numbers of an address, without zeros in front. -/
def octet : Reader Unit := fun cs => do
  let (digits, rest) ← number 256 cs
  if digits.head? = some '0' ∧ digits.length ≠ 1 then none else some ((), rest)

def fourNumbers : Reader Unit := fun cs => do
  let ((), cs) ← octet cs
  let ((), cs) ← char '.' cs
  let ((), cs) ← octet cs
  let ((), cs) ← char '.' cs
  let ((), cs) ← octet cs
  let ((), cs) ← char '.' cs
  octet cs

/-- A group of at most four hexadecimal digits. -/
def hexGroup : Reader Unit := fun cs => do
  let digits := (cs.take 4).takeWhile (hexDigit? · |>.isSome)
  if digits.isEmpty then none else some ((), cs.drop digits.length)

/-- Groups with colons between them, at most `most` of them: how many there are, and whether
the last two are written as four numbers. -/
def groups (read : Nat) : Nat → List Char → Nat × Bool × List Char
  | 0, cs => (read, false, cs)
  | most + 1, cs =>
    let separated (item : Reader Unit) : Option (List Char) :=
      if read = 0 then (item cs).map Prod.snd
      else do
        let ((), cs) ← char ':' cs
        (item cs).map Prod.snd
    match if 0 < most then separated fourNumbers else none with
    | some rest => (read + 2, true, rest)
    | none =>
      match separated hexGroup with
      | some rest => groups (read + 1) most rest
      | none => (read, false, cs)

/-- Eight groups, or fewer with two colons in place of the missing ones. -/
def eightGroups : Reader Unit := fun cs => do
  let (head, numbers, cs) := groups 0 8 cs
  if head = 8 then some ((), cs)
  else if numbers then none
  else
    let ((), cs) ← char ':' cs
    let ((), cs) ← char ':' cs
    let (_, _, cs) := groups 0 (7 - head) cs
    some ((), cs)

/-- A colon and the number of the socket. -/
def socketNumber : Reader Unit := fun cs => do
  let ((), cs) ← char ':' cs
  let (_, cs) ← number UInt16.size cs
  some ((), cs)

/-- A scope, which may be missing. -/
def scope (cs : List Char) : List Char :=
  ((do
    let ((), cs) ← char '%' cs
    let (_, cs) ← number UInt32.size cs
    some cs) : Option (List Char)).getD cs

def bracketed : Reader Unit := fun cs => do
  let ((), cs) ← char '[' cs
  let ((), cs) ← eightGroups cs
  let ((), cs) ← char ']' (scope cs)
  socketNumber cs

def isWritten (s : String) : Bool :=
  let plain : Reader Unit := fun cs => do
    let ((), cs) ← fourNumbers cs
    socketNumber cs
  match (plain s.toList).or (bracketed s.toList) with
  | some ((), []) => true
  | _ => false

end SocketAddress

end ClassReconciler
