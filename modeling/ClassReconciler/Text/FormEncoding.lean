import ClassReconciler.Text.Split

/-!
# Form encoding

The encoding of query parameters: letters, digits and `*-._` stay, a space becomes a plus
sign, every other byte of the text in UTF-8 a percent sign and two hexadecimal digits. What was
encoded is read back byte by byte (`formBytes_formEncoded`).
-/

namespace ClassReconciler

def isFormSafe (c : Char) : Bool := c.isAlphanum || c ∈ ['*', '-', '.', '_']

def upperHex (n : Nat) : Char := ((Nat.toDigits 16 n).headD '0').toUpper

def percentEncoded (b : UInt8) : List Char :=
  ['%', upperHex (b.toNat / 16), upperHex (b.toNat % 16)]

def formChar (c : Char) : List Char :=
  if isFormSafe c then [c]
  else if c = ' ' then ['+']
  else (String.utf8EncodeChar c).flatMap percentEncoded

def formEncoded (s : String) : String := String.ofList (s.toList.flatMap formChar)

/-! ## Queries -/

/-- A query of parameters, each behind an ampersand. -/
def formQuery (params : List (String × String)) : String :=
  String.join (params.map fun (k, v) => "&" ++ formEncoded k ++ "=" ++ formEncoded v)

/-! ## Reading -/

/-- The value of a hexadecimal digit. -/
def hexValue (c : Char) : UInt8 :=
  if c.isDigit then UInt8.ofNat (c.toNat - '0'.toNat)
  else UInt8.ofNat (c.toUpper.toNat - 'A'.toNat + 10)

/-- The bytes that a form encoding stands for. -/
def formBytes : List Char → List UInt8
  | [] => []
  | '%' :: high :: low :: rest => (hexValue high * 16 + hexValue low) :: formBytes rest
  | '+' :: rest => 0x20 :: formBytes rest
  | c :: rest => String.utf8EncodeChar c ++ formBytes rest

theorem formBytes_percentEncoded (b : UInt8) (rest : List Char) :
    formBytes (percentEncoded b ++ rest) = b :: formBytes rest := by
  have h : ∀ n : Fin 256, hexValue (upperHex (n / 16)) * 16 + hexValue (upperHex (n % 16)) =
      UInt8.ofNat n := by decide +kernel
  have h := h ⟨b.toNat, b.toNat_lt⟩
  rw [UInt8.ofNat_toNat] at h
  simp [percentEncoded, formBytes, h]

theorem formBytes_flatMap_percentEncoded (bs : List UInt8) (rest : List Char) :
    formBytes (bs.flatMap percentEncoded ++ rest) = bs ++ formBytes rest := by
  induction bs with
  | nil => rfl
  | cons b bs ih => simp [List.append_assoc, formBytes_percentEncoded, ih]

theorem formBytes_formChar (c : Char) (rest : List Char) :
    formBytes (formChar c ++ rest) = String.utf8EncodeChar c ++ formBytes rest := by
  unfold formChar
  split
  · rename_i h
    have hp : c ≠ '%' := by rintro rfl; exact absurd h (by decide)
    have hs : c ≠ '+' := by rintro rfl; exact absurd h (by decide)
    rw [List.singleton_append, formBytes]
    · exact fun _ _ _ h => absurd h hp
    · exact hs
  · split
    · rename_i h
      subst h
      rfl
    · exact formBytes_flatMap_percentEncoded _ _

/-- What was encoded is read back, byte by byte. -/
theorem formBytes_formEncoded (s : String) :
    formBytes (formEncoded s).toList = s.toList.flatMap String.utf8EncodeChar := by
  rw [formEncoded, String.toList_ofList]
  induction s.toList with
  | nil => rfl
  | cons c cs ih => rw [List.flatMap_cons, formBytes_formChar, ih, List.flatMap_cons]

/-- The text that a form encoding stands for, where its bytes are UTF-8. -/
def formDecoded? (cs : List Char) : Option String := String.fromUTF8? ⟨(formBytes cs).toArray⟩

/-- The decoded value of a parameter of a query. -/
def formValue? (name : String) (query : List Char) : Option String :=
  (splitAll '&' query).findSome? fun param => do
    let (key, value) ← splitFirst '=' param
    if formDecoded? key = some name then formDecoded? value else none

end ClassReconciler
