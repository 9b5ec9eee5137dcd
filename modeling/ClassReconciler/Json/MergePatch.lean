import ClassReconciler.Json

/-!
# Merge patches

What a server makes of a document and a merge patch: an object in the patch is merged into
the document field by field, a null takes a field away, and every other value, an array too,
replaces what was there. A null inside an array is an element like any other.
-/

namespace ClassReconciler

namespace Json

/-- The fields of a value, which are none where it is no object. -/
def fieldList : Json → List (String × Json)
  | .obj fields => fields
  | _ => []

mutual

/-- The document after a merge patch. -/
def mergePatch (document : Json) : Json → Json
  | .obj patch => .obj (mergeFields document.fieldList patch)
  | v => v

/-- Fields after the fields of a merge patch. -/
def mergeFields (fields : List (String × Json)) : List (String × Json) → List (String × Json)
  | [] => fields
  | (key, .null) :: rest => mergeFields (fields.filter (·.1 ≠ key)) rest
  | (key, v) :: rest =>
    mergeFields (setField key (mergePatch ((lookup key fields).getD .null) v) fields) rest

end

/-- A value that is neither an object nor null replaces the field. -/
theorem mergePatch_arr (document : Json) (items : List Json) :
    mergePatch document (.arr items) = .arr items := by
  simp [mergePatch]

theorem lookup_setField (key key' : String) (v : Json) (fields : List (String × Json)) :
    lookup key' (setField key v fields) = if key' = key then some v else lookup key' fields := by
  induction fields with
  | nil => simp [setField, lookup]
  | cons f rest ih =>
    obtain ⟨k, w⟩ := f
    by_cases hlt : key < k
    · simp [setField, hlt, lookup]
    · by_cases heq : key = k
      · subst heq
        rw [setField, if_neg hlt, if_pos rfl]
        by_cases h : key' = key <;> simp [lookup, h]
      · by_cases h : key' = k
        · subst h
          simp [setField, hlt, heq, lookup, Ne.symm heq]
        · simp [setField, hlt, heq, lookup, h, ih]

end Json

end ClassReconciler
