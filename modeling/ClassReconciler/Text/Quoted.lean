import ClassReconciler.Text.Unprintable

/-!
# Quoted text

Text between double quotes with every character that cannot be seen written out, as messages
show the values they complain about.
-/

namespace ClassReconciler

/-- A character inside quoted text: a quote and a backslash after a backslash, four control
characters by a letter or digit, the other unprintable ones by their number. -/
def quotedChar (c : Char) : List Char :=
  match c with
  | '"' => ['\\', '"']
  | '\\' => ['\\', '\\']
  | '\n' => ['\\', 'n']
  | '\r' => ['\\', 'r']
  | '\t' => ['\\', 't']
  | '\x00' => ['\\', '0']
  | c =>
    if isUnprintable c then ['\\', 'u', '\x7b'] ++ Nat.toDigits 16 c.toNat ++ ['\x7d'] else [c]

def quoted (s : String) : String :=
  String.ofList ('"' :: s.toList.flatMap quotedChar ++ ['"'])

end ClassReconciler
