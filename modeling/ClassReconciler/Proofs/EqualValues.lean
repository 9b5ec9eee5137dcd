import Mathlib.Data.List.Forall2
import ClassReconciler.Proofs.Revision
import ClassReconciler.Proofs.TemplateKey

/-!
# Equal values are the same templates

A record that equals the stored one is not written, and equality of values does not tell the two
zeros apart, so that what stays stored is not always what would have been written. The two name
the same templates all the same: an identity is made of strings, on which equal values agree
(`TemplateId.of_congr`), and decoding succeeds for both of two equal values or for neither
(`Manifest.agrees_decode`). `Template.ids_congr` says so of whole records.
-/

namespace ClassReconciler

/-! ## Parts of equal values -/

namespace Json

/-- The fields have the same key and equal values. -/
def SameField (f g : String × Json) : Prop := f.1 = g.1 ∧ same f.2 g.2 = true

theorem forall₂_of_sameItems {items items' : List Json} (h : sameItems items items' = true) :
    List.Forall₂ (fun v w => same v w = true) items items' := by
  induction items generalizing items' with
  | nil => cases items' with
    | nil => exact .nil
    | cons => simp [sameItems] at h
  | cons v rest ih => cases items' with
    | nil => simp [sameItems] at h
    | cons w rest' =>
      rw [sameItems, Bool.and_eq_true] at h
      exact .cons h.1 (ih h.2)

theorem forall₂_of_sameFields {fields fields' : List (String × Json)}
    (h : sameFields fields fields' = true) : List.Forall₂ SameField fields fields' := by
  induction fields generalizing fields' with
  | nil => cases fields' with
    | nil => exact .nil
    | cons => simp [sameFields] at h
  | cons f rest ih => cases fields' with
    | nil => simp [sameFields] at h
    | cons g rest' =>
      rw [sameFields, Bool.and_eq_true, Bool.and_eq_true, beq_iff_eq] at h
      exact .cons h.1 (ih h.2)

variable {fields fields' : List (String × Json)}

theorem lookup_congr (h : List.Forall₂ SameField fields fields') (key : String) :
    Option.Rel (fun v w => same v w = true) (lookup key fields) (lookup key fields') := by
  induction h with
  | nil => exact .none
  | @cons f g _ _ hfield _ ih =>
    obtain ⟨hkey, hvalue⟩ := hfield
    rw [lookup, lookup, hkey]
    split
    · exact .some hvalue
    · exact ih

theorem named_congr (h : List.Forall₂ SameField fields fields') (names : List String) :
    List.Forall₂ SameField (Source.named names fields) (Source.named names fields') := by
  induction names with
  | nil => exact .nil
  | cons name rest ih =>
    have hlookup := lookup_congr h name
    simp only [Source.named, List.filterMap_cons] at ih ⊢
    cases hf : lookup name fields <;> cases hg : lookup name fields' <;> rw [hf, hg] at hlookup
    · exact ih
    · cases hlookup
    · cases hlookup
    · cases hlookup with
      | some hvalue => exact .cons ⟨rfl, hvalue⟩ ih

end Json

/-! ## Decoding equal values -/

/-- Both fail, or both succeed with related values. -/
def Agree {ε α β : Type} (R : α → β → Prop) : Except ε α → Except ε β → Prop
  | .ok a, .ok b => R a b
  | .error _, .error _ => True
  | _, _ => False

namespace Agree

variable {ε α β γ δ : Type} {R : α → β → Prop} {S : γ → δ → Prop} {x : Except ε α}
  {y : Except ε β}

theorem bind {f : α → Except ε γ} {g : β → Except ε δ} (h : Agree R x y)
    (hfg : ∀ a b, R a b → Agree S (f a) (g b)) : Agree S (x >>= f) (y >>= g) := by
  cases x with
  | error _ => cases y with
    | error _ => trivial
    | ok _ => exact h.elim
  | ok a => cases y with
    | error _ => exact h.elim
    | ok b => exact hfg a b h

theorem map {f : α → γ} {g : β → δ} (h : Agree R x y) (hfg : ∀ a b, R a b → S (f a) (g b)) :
    Agree S (f <$> x) (g <$> y) := by
  cases x with
  | error _ => cases y with
    | error _ => trivial
    | ok _ => exact h.elim
  | ok a => cases y with
    | error _ => exact h.elim
    | ok b => exact hfg a b h

theorem refl (x : Except ε α) : Agree (fun _ _ => True) x x := by
  cases x <;> trivial

end Agree

/-- Both of two equal values are decoded, or neither is. -/
def Agrees {α : Type} (decode : Decoder Json α) : Prop :=
  ∀ {v w : Json}, Json.same v w = true → Agree (fun _ _ => True) (decode v) (decode w)

namespace Decode

variable {α : Type} {decode : Decoder Json α}

theorem agrees_any : Agrees (any : Decoder Json Json) := fun _ => trivial

theorem agrees_string : Agrees (string : Decoder Json String) := by
  intro v w h
  cases v <;> cases w <;> trivial

theorem agrees_boolean : Agrees (boolean : Decoder Json Bool) := by
  intro v w h
  cases v <;> cases w <;> trivial

theorem agrees_instant : Agrees (instant : Decoder Json Instant) := by
  intro v w h
  cases v <;> cases w
  case str.str s t =>
    obtain rfl : s = t := by simpa [Json.same] using h
    exact Agree.refl _
  all_goals trivial

theorem agrees_int64 : Agrees (int64 : Decoder Json Int64) := by
  intro v w h
  cases v <;> cases w
  case int.int m n =>
    obtain rfl : m = n := by simpa [Json.same] using h
    exact Agree.refl _
  all_goals trivial

theorem items_agree (hdecode : Agrees decode) {vs ws : List Json}
    (h : List.Forall₂ (fun v w => Json.same v w = true) vs ws) :
    Agree (fun _ _ => True) (items decode vs) (items decode ws) := by
  induction h with
  | nil => trivial
  | cons hv _ ih => exact (hdecode hv).bind fun _ _ _ => ih.bind fun _ _ _ => trivial

theorem agrees_list (hdecode : Agrees decode) : Agrees (list decode) := by
  intro v w h
  cases v <;> cases w
  case arr.arr vs ws =>
    exact items_agree hdecode (Json.forall₂_of_sameItems (by simpa [Json.same] using h))
  all_goals trivial

theorem entries_agree (hdecode : Agrees decode) {fs gs : List (String × Json)}
    (h : List.Forall₂ Json.SameField fs gs) :
    Agree (fun _ _ => True) (entries decode fs) (entries decode gs) := by
  induction h with
  | nil => trivial
  | cons hf _ ih => exact (hdecode hf.2).bind fun _ _ _ => ih.bind fun _ _ _ => trivial

/-- Equal objects have equal fields. -/
theorem fields_agree (expected : String) {v w : Json} (h : Json.same v w = true) :
    Agree (List.Forall₂ Json.SameField) (fields expected v) (fields expected w) := by
  cases v <;> cases w
  case obj.obj fs gs => exact Json.forall₂_of_sameFields (by simpa [Json.same] using h)
  all_goals trivial

theorem agrees_stringMap : Agrees (stringMap : Decoder Json (SortedMap String String)) :=
  fun h => (fields_agree "a map" h).bind fun _ _ hfields =>
    (entries_agree agrees_string hfields).map fun _ _ _ => trivial

theorem agrees_nullable (hdecode : Agrees decode) : Agrees (nullable decode) := by
  intro v w h
  have hsome : Agree (fun _ _ => True) (some <$> decode v) (some <$> decode w) :=
    (hdecode h).map fun _ _ _ => trivial
  cases v <;> cases w <;> first | exact hsome | trivial

section Fields

variable {fs gs : List (String × Json)} (h : List.Forall₂ Json.SameField fs gs)
include h

theorem given_agree (hdecode : Agrees decode) (name : String) :
    Agree (fun _ _ => True) (given decode name fs) (given decode name gs) := by
  rw [given_json, given_json]
  have hlookup := Json.lookup_congr h name
  cases hf : Json.lookup name fs <;> cases hg : Json.lookup name gs <;> rw [hf, hg] at hlookup
  · trivial
  · cases hlookup
  · cases hlookup
  · cases hlookup with
    | some hvalue => exact (hdecode hvalue).map fun _ _ _ => trivial

theorem optional_agree (hdecode : Agrees decode) (name : String) :
    Agree (fun _ _ => True) (optional decode name fs) (optional decode name gs) :=
  (given_agree h (agrees_nullable hdecode) name).map fun _ _ _ => trivial

end Fields

end Decode

open Decode in
theorem OwnerReference.agrees_decode : Agrees (OwnerReference.decode : Decoder Json _) := by
  intro v w h
  refine (fields_agree "OwnerReference" h).bind fun _ _ h => ?_
  refine (optional_agree h agrees_string _).bind fun _ _ _ => ?_
  refine (optional_agree h agrees_boolean _).bind fun _ _ _ => ?_
  refine (optional_agree h agrees_boolean _).bind fun _ _ _ => ?_
  refine (optional_agree h agrees_string _).bind fun _ _ _ => ?_
  refine (optional_agree h agrees_string _).bind fun _ _ _ => ?_
  exact (optional_agree h agrees_string _).bind fun _ _ _ => trivial

open Decode in
theorem ManagedFields.agrees_decode : Agrees (ManagedFields.decode : Decoder Json _) := by
  intro v w h
  refine (fields_agree "ManagedFieldsEntry" h).bind fun _ _ h => ?_
  refine (optional_agree h agrees_string _).bind fun _ _ _ => ?_
  refine (optional_agree h agrees_string _).bind fun _ _ _ => ?_
  refine (optional_agree h agrees_any _).bind fun _ _ _ => ?_
  refine (optional_agree h agrees_string _).bind fun _ _ _ => ?_
  refine (optional_agree h agrees_string _).bind fun _ _ _ => ?_
  refine (optional_agree h agrees_string _).bind fun _ _ _ => ?_
  exact (optional_agree h agrees_instant _).bind fun _ _ _ => trivial

open Decode in
theorem Metadata.agrees_decode : Agrees (Metadata.decode : Decoder Json _) := by
  intro v w h
  refine (fields_agree "ObjectMeta" h).bind fun _ _ h => ?_
  refine (optional_agree h agrees_stringMap _).bind fun _ _ _ => ?_
  refine (optional_agree h agrees_instant _).bind fun _ _ _ => ?_
  refine (optional_agree h agrees_int64 _).bind fun _ _ _ => ?_
  refine (optional_agree h agrees_instant _).bind fun _ _ _ => ?_
  refine (optional_agree h (agrees_list agrees_string) _).bind fun _ _ _ => ?_
  refine (optional_agree h agrees_string _).bind fun _ _ _ => ?_
  refine (optional_agree h agrees_int64 _).bind fun _ _ _ => ?_
  refine (optional_agree h agrees_stringMap _).bind fun _ _ _ => ?_
  refine (optional_agree h (agrees_list ManagedFields.agrees_decode) _).bind fun _ _ _ => ?_
  refine (optional_agree h agrees_string _).bind fun _ _ _ => ?_
  refine (optional_agree h agrees_string _).bind fun _ _ _ => ?_
  refine (optional_agree h (agrees_list OwnerReference.agrees_decode) _).bind fun _ _ _ => ?_
  refine (optional_agree h agrees_string _).bind fun _ _ _ => ?_
  refine (optional_agree h agrees_string _).bind fun _ _ _ => ?_
  exact (optional_agree h agrees_string _).bind fun _ _ _ => trivial

open Decode in
theorem Manifest.agrees_decode : Agrees (Manifest.decode : Decoder Json Manifest) := by
  intro v w h
  refine (fields_agree "struct DynamicObject" h).bind fun fs gs h => ?_
  rw [once_json, once_json]
  refine (given_agree h Metadata.agrees_decode _).bind fun _ _ _ => ?_
  refine (entries_agree agrees_any (Json.named_congr h typeFields)).bind fun _ _ _ => ?_
  have hothers : List.Forall₂ Json.SameField (fs.filter fun f => f.1 ∉ "metadata" :: typeFields)
      (gs.filter fun f => f.1 ∉ "metadata" :: typeFields) :=
    List.rel_filter (fun f g hfield => by simp only [hfield.1]) h
  exact (entries_agree agrees_any hothers).bind fun _ _ _ => trivial

/-! ## Templates of equal values -/

theorem TemplateId.nonEmpty_congr {field field' : Option Json}
    (h : Option.Rel (fun v w => Json.same v w = true) field field') :
    nonEmpty field = nonEmpty field' := by
  cases h with
  | none => rfl
  | @some v w hvalue =>
    cases v <;> cases w
    case str.str s t =>
      obtain rfl : s = t := by simpa [Json.same] using hvalue
      rfl
    all_goals first | rfl | simp [Json.same] at hvalue

theorem TemplateId.get?_name_congr {field field' : Option Json}
    (h : Option.Rel (fun v w => Json.same v w = true) field field') :
    Option.Rel (fun v w => Json.same v w = true) (field.bind (Json.get? "name"))
      (field'.bind (Json.get? "name")) := by
  cases h with
  | none => exact .none
  | @some v w hvalue =>
    cases v <;> cases w
    case obj.obj fields fields' =>
      have hfields := Json.forall₂_of_sameFields (by simpa [Json.same] using hvalue)
      exact Json.lookup_congr hfields "name"
    all_goals first | exact .none | simp [Json.same] at hvalue

/-- Equal values have the same identity, or lack it for the same reason. -/
theorem TemplateId.of_congr {raw raw' : Json} (h : Json.same raw raw' = true) :
    TemplateId.of raw = TemplateId.of raw' := by
  cases raw <;> cases raw'
  case obj.obj fields fields' =>
    have hfields := Json.forall₂_of_sameFields (by simpa [Json.same] using h)
    rw [TemplateId.of, TemplateId.of, nonEmpty_congr (Json.lookup_congr hfields "apiVersion"),
      nonEmpty_congr (Json.lookup_congr hfields "kind"),
      nonEmpty_congr (get?_name_congr (Json.lookup_congr hfields "metadata"))]
  all_goals first | rfl | simp [Json.same] at h

/-- Of equal values, both are templates of one identity or neither is a template. -/
theorem Template.parse?_congr {raw raw' : Json} (h : Json.same raw raw' = true) :
    (Template.parse? raw).map Template.id = (Template.parse? raw').map Template.id := by
  have hdecode := Manifest.agrees_decode h
  rw [parse?, parse?, parse, parse, TemplateId.of_congr h]
  cases TemplateId.of raw' with
  | error _ => rfl
  | ok id =>
    simp only
    cases ObjectKind.of? id.apiVersion id.kind with
    | none => rfl
    | some kind =>
      simp only
      cases hd : Manifest.decode raw <;> cases hd' : Manifest.decode raw' <;>
        rw [hd, hd'] at hdecode <;> first | rfl | exact hdecode.elim

/-- Equal lists hold templates of the same identities. -/
theorem Template.ids_congr {raws raws' : List Json} (h : (raws == raws') = true) :
    (Template.parseAll raws).map Template.id = (Template.parseAll raws').map Template.id := by
  induction raws generalizing raws' with
  | nil => cases raws' with
    | nil => rfl
    | cons => simp at h
  | cons raw rest ih => cases raws' with
    | nil => simp at h
    | cons raw' rest' =>
      rw [List.cons_beq_cons, Bool.and_eq_true] at h
      have hfirst := Template.parse?_congr h.1
      have ih := ih h.2
      rw [parseAll, parseAll, List.map_filterMap, List.map_filterMap] at ih ⊢
      rw [List.filterMap_cons, List.filterMap_cons, hfirst, ih]

end ClassReconciler
