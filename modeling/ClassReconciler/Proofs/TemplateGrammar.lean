import ClassReconciler.Proofs.TemplateKey

/-!
# What a template is

A raw resource is a template if it keeps six rules, and otherwise the first rule that it breaks is
the error (`Template.parse_cases`). The rules are about the raw value alone: what it is, which of
its fields are texts, how its API version is written, and whether its metadata can be decoded.

The identity, the kind and the object of a template are read off the value in different ways and
agree: an API version is made of the group and the version of its kind
(`ObjectKind.apiVersion_of_of?`), and an object states the type of the identity, whose name it has.
-/

namespace ClassReconciler

/-! ## API versions -/

/-- A text without a slash, or with one slash and something on both sides of it. -/
def IsApiVersion (apiVersion : String) : Prop :=
  '/' ∉ apiVersion.toList ∨ ∃ group version : String, group ≠ "" ∧ version ≠ "" ∧
    '/' ∉ group.toList ∧ '/' ∉ version.toList ∧ apiVersion = group ++ "/" ++ version

/-- The API version of a kind. -/
def ObjectKind.apiVersion (kind : ObjectKind) : String :=
  if kind.group = "" then kind.version else kind.group ++ "/" ++ kind.version

theorem ofList_append_slash (before after : List Char) :
    String.ofList (before ++ '/' :: after) =
      String.ofList before ++ "/" ++ String.ofList after := by
  apply String.toList_injective
  simp

namespace ObjectKind

theorem apiVersion_of_of? {apiVersion text : String} {kind : ObjectKind}
    (h : of? apiVersion text = some kind) : kind.apiVersion = apiVersion := by
  rw [of?] at h
  split at h
  case h_1 =>
    obtain rfl := Option.some.inj h
    rfl
  case h_2 before after hsplit =>
    obtain ⟨htext, -⟩ := splitFirst_eq_some.1 hsplit
    split at h
    case isFalse => cases h
    case isTrue hparts =>
    obtain rfl := Option.some.inj h
    have hgroup : String.ofList before ≠ "" := fun hempty =>
      hparts.1 (by simpa using congrArg String.toList hempty)
    rw [ObjectKind.apiVersion, if_neg hgroup, ← ofList_append_slash, ← htext, String.ofList_toList]

/-- An API version names a kind if it is well written. -/
theorem isSome_of? {apiVersion : String} (text : String) :
    (∃ kind, of? apiVersion text = some kind) ↔ IsApiVersion apiVersion := by
  rw [of?]
  cases hsplit : splitFirst '/' apiVersion.toList with
  | none => exact ⟨fun _ => .inl (splitFirst_eq_none.1 hsplit), fun _ => ⟨_, rfl⟩⟩
  | some parts =>
    obtain ⟨before, after⟩ := parts
    obtain ⟨htext, hbefore⟩ := splitFirst_eq_some.1 hsplit
    constructor
    · rintro ⟨kind, h⟩
      simp only at h
      split at h
      case isFalse => cases h
      case isTrue hparts =>
      refine .inr ⟨String.ofList before, String.ofList after, ?_, ?_, ?_, ?_, ?_⟩
      · exact fun h => hparts.1 (by simpa using congrArg String.toList h)
      · exact fun h => hparts.2.1 (by simpa using congrArg String.toList h)
      · rwa [String.toList_ofList]
      · rw [String.toList_ofList]
        exact hparts.2.2
      · rw [← ofList_append_slash, ← htext, String.ofList_toList]
    · rintro (hnone | ⟨group, version, hgroup, hversion, hfirst, hrest, happend⟩)
      · exact absurd (htext ▸ List.mem_append_right _ List.mem_cons_self) hnone
      · have hparts : splitFirst '/' apiVersion.toList = some (group.toList, version.toList) :=
          splitFirst_eq_some.2 ⟨by simp [happend], hfirst⟩
        obtain ⟨rfl, rfl⟩ := Prod.mk.inj (Option.some.inj (hsplit.symm.trans hparts))
        exact ⟨_, if_pos ⟨by simpa using hgroup, by simpa using hversion, hrest⟩⟩

end ObjectKind

/-! ## Rules -/

/-- The field is a text, which is not empty. -/
def IsText (field : Option Json) : Prop := ∃ s : String, s ≠ "" ∧ field = some (.str s)

/-- What a raw resource has to keep to be a template. -/
inductive TemplateRule where
  | isObject
  | hasApiVersion
  | hasKind
  | hasName
  | apiVersionForm
  | metadataDecodes
deriving DecidableEq

namespace TemplateRule

/-- The place of a rule in the order in which the rules are looked at. -/
def place : TemplateRule → Nat
  | .isObject => 0
  | .hasApiVersion => 1
  | .hasKind => 2
  | .hasName => 3
  | .apiVersionForm => 4
  | .metadataDecodes => 5

def Kept (raw : Json) : TemplateRule → Prop
  | .isObject => ∃ fields, raw = .obj fields
  | .hasApiVersion => IsText (raw.get? "apiVersion")
  | .hasKind => IsText (raw.get? "kind")
  | .hasName => IsText ((raw.get? "metadata").bind (Json.get? "name"))
  | .apiVersionForm => ∃ s, raw.get? "apiVersion" = some (.str s) ∧ IsApiVersion s
  | .metadataDecodes => ∃ v m, raw.get? "metadata" = some v ∧ Metadata.decode v = .ok m

/-- The error that reports that the rule is broken. -/
def Reports (raw : Json) (e : TemplateError) : TemplateRule → Prop
  | .isObject => e = .notAnObject
  | .hasApiVersion => e = .missingField "apiVersion"
  | .hasKind => e = .missingField "kind"
  | .hasName => e = .missingField "metadata.name"
  | .apiVersionForm => ∃ s, raw.get? "apiVersion" = some (.str s) ∧ e = .invalidApiVersion s
  | .metadataDecodes => ∃ v d, raw.get? "metadata" = some v ∧ Metadata.decode v = .error d ∧
      e = .decode d

/-- The rule is broken, and those before it are kept. -/
def IsFirstBroken (raw : Json) (r : TemplateRule) : Prop :=
  ¬ r.Kept raw ∧ ∀ q : TemplateRule, q.place < r.place → q.Kept raw

/-- No two rules are the first that is broken. -/
theorem IsFirstBroken.unique {raw : Json} {q r : TemplateRule} (hq : q.IsFirstBroken raw)
    (hr : r.IsFirstBroken raw) : q = r := by
  rcases Nat.lt_trichotomy q.place r.place with h | h | h
  · exact absurd (hr.2 q h) hq.1
  · cases q <;> cases r <;> first | rfl | cases h
  · exact absurd (hq.2 r h) hr.1

/-- A rule reports one error. -/
theorem Reports.unique {raw : Json} {e e' : TemplateError} {r : TemplateRule} (h : r.Reports raw e)
    (h' : r.Reports raw e') : e = e' := by
  cases r with
  | apiVersionForm =>
    obtain ⟨s, hs, rfl⟩ := h
    obtain ⟨s', hs', rfl⟩ := h'
    obtain rfl : s = s' := by simpa using hs.symm.trans hs'
    rfl
  | metadataDecodes =>
    obtain ⟨v, d, hv, hd, rfl⟩ := h
    obtain ⟨v', d', hv', hd', rfl⟩ := h'
    obtain rfl := Option.some.inj (hv.symm.trans hv')
    obtain rfl := Except.error.inj (hd.symm.trans hd')
    rfl
  | _ => exact Eq.trans h (Eq.symm h')

end TemplateRule

/-! ## Reading by the rules -/

theorem TemplateId.nonEmpty_eq_some_iff {field : Option Json} {s : String} :
    nonEmpty field = some s ↔ s ≠ "" ∧ field = some (.str s) := by
  constructor
  · intro h
    obtain ⟨-, hs⟩ := Option.filter_eq_some_iff.1 h
    exact ⟨by simpa using hs, nonEmpty_eq_some h⟩
  · rintro ⟨hs, rfl⟩
    exact Option.filter_eq_some_iff.2 ⟨rfl, by simpa using hs⟩

theorem TemplateId.nonEmpty_eq_none_iff {field : Option Json} :
    nonEmpty field = none ↔ ¬ IsText field := by
  rw [Option.eq_none_iff_forall_ne_some]
  exact ⟨fun h ⟨s, hs⟩ => h s (nonEmpty_eq_some_iff.2 hs),
    fun h s hs => h ⟨s, nonEmpty_eq_some_iff.1 hs⟩⟩

theorem except_ok_bind {ε α β : Type} (a : α) (f : α → Except ε β) :
    (Except.ok a : Except ε α) >>= f = f a := rfl

theorem Decode.entries_any (fields : List (String × Json)) : entries any fields = .ok fields := by
  induction fields with
  | nil => rfl
  | cons f rest ih =>
    rw [entries, ih]
    rfl

/-- An object whose type is stated is read as that type, its decoded metadata, and the other fields
as they stand. -/
theorem Manifest.decode_obj {fields : List (String × Json)} {metadata : Json}
    {apiVersion kind : String} (hmetadata : Json.lookup "metadata" fields = some metadata)
    (hapiVersion : Json.lookup "apiVersion" fields = some (.str apiVersion))
    (hkind : Json.lookup "kind" fields = some (.str kind)) :
    Manifest.decode (.obj fields : Json) = (fun m =>
      (⟨some ⟨apiVersion, kind⟩, m, fields.filter fun f => f.1 ∉ "metadata" :: typeFields⟩ :
        Manifest)) <$> Metadata.decode metadata := by
  have hnamed : Source.named typeFields fields =
      [("apiVersion", .str apiVersion), ("kind", .str kind)] := by
    simp [Source.named, typeFields, hapiVersion, hkind]
  have hfields : Decode.fields "struct DynamicObject" (.obj fields : Json) = .ok fields := rfl
  rw [Manifest.decode, hfields]
  simp only [except_ok_bind, hnamed, Decode.once_json, Decode.given_of_lookup hmetadata,
    Decode.entries_any]
  cases Metadata.decode metadata <;> rfl

open TemplateRule in
/-- A raw resource has an identity and keeps the first four rules, or its error is that of the
first of them that it breaks. -/
theorem TemplateId.of_cases (raw : Json) :
    (∃ id, of raw = .ok id ∧ raw.get? "apiVersion" = some (.str id.apiVersion) ∧
      ∀ r : TemplateRule, r.place < 4 → r.Kept raw) ∨
    ∃ (r : TemplateRule) (e : TemplateError),
      of raw = .error e ∧ r.IsFirstBroken raw ∧ r.Reports raw e := by
  by_cases hobject : isObject.Kept raw
  case neg =>
    refine .inr ⟨.isObject, .notAnObject, ?_, ⟨hobject, fun q hq => absurd hq (Nat.not_lt_zero _)⟩,
      rfl⟩
    cases raw with
    | obj fields => exact absurd ⟨fields, rfl⟩ hobject
    | _ => rfl
  have hobject' := hobject
  obtain ⟨fields, rfl⟩ := hobject'
  rw [of]
  cases hversion : nonEmpty (Json.lookup "apiVersion" fields) with
  | none =>
    refine .inr ⟨.hasApiVersion, _, rfl, ⟨nonEmpty_eq_none_iff.1 hversion, fun q hq => ?_⟩, rfl⟩
    cases q <;> first | assumption | exact absurd hq (by decide)
  | some apiVersion =>
  have hversion := nonEmpty_eq_some_iff.1 hversion
  have hasVersion : hasApiVersion.Kept (.obj fields) := ⟨apiVersion, hversion⟩
  cases hkind : nonEmpty (Json.lookup "kind" fields) with
  | none =>
    refine .inr ⟨.hasKind, _, rfl, ⟨nonEmpty_eq_none_iff.1 hkind, fun q hq => ?_⟩, rfl⟩
    cases q <;> first | assumption | exact absurd hq (by decide)
  | some kind =>
  have hasKind : hasKind.Kept (.obj fields) := ⟨kind, nonEmpty_eq_some_iff.1 hkind⟩
  cases hname : nonEmpty ((Json.lookup "metadata" fields).bind (Json.get? "name")) with
  | none =>
    refine .inr ⟨.hasName, _, rfl, ⟨nonEmpty_eq_none_iff.1 hname, fun q hq => ?_⟩, rfl⟩
    cases q <;> first | assumption | exact absurd hq (by decide)
  | some name =>
  have hasName : hasName.Kept (.obj fields) := ⟨name, nonEmpty_eq_some_iff.1 hname⟩
  refine .inl ⟨⟨apiVersion, kind, name⟩, rfl, hversion.2, fun r hr => ?_⟩
  cases r <;> first | assumption | exact absurd hr (by decide)

theorem Template.parse_of_decode {raw : Json} {id : TemplateId} {kind : ObjectKind} {o : Manifest}
    (hid : TemplateId.of raw = .ok id) (hkind : ObjectKind.of? id.apiVersion id.kind = some kind)
    (ho : Manifest.decode raw = .ok o) : parse raw = .ok ⟨id, kind, o⟩ := by
  simp only [parse, hid, hkind, ho]

open TemplateRule in
/-- A raw resource is a template and keeps all rules, or its error is that of the first rule that
it breaks. -/
theorem Template.parse_cases (raw : Json) :
    (∃ t, parse raw = .ok t ∧ ∀ r : TemplateRule, r.Kept raw) ∨
    ∃ (r : TemplateRule) (e : TemplateError),
      parse raw = .error e ∧ r.IsFirstBroken raw ∧ r.Reports raw e := by
  obtain ⟨id, hid, hversion, hkept⟩ | ⟨r, e, he, hbroken⟩ := TemplateId.of_cases raw
  case inr => exact .inr ⟨r, e, by rw [parse, he], hbroken⟩
  obtain ⟨fields, metadata, rfl, hfields⟩ := TemplateId.fields_of_of hid
  obtain ⟨hapiVersion, hkind, hmetadata, -⟩ := hfields
  cases hform : ObjectKind.of? id.apiVersion id.kind with
  | none =>
    refine .inr ⟨.apiVersionForm, .invalidApiVersion id.apiVersion, ?_, ⟨?_, hkept⟩,
      id.apiVersion, hversion, rfl⟩
    · simp only [parse, hid, hform]
    · rintro ⟨s, hs, hwritten⟩
      obtain rfl : id.apiVersion = s := by simpa using hversion.symm.trans hs
      obtain ⟨kind, hsome⟩ := (ObjectKind.isSome_of? id.kind).2 hwritten
      cases hform.symm.trans hsome
  | some kind =>
  have hwritten : apiVersionForm.Kept (.obj fields) :=
    ⟨id.apiVersion, hversion, (ObjectKind.isSome_of? id.kind).1 ⟨kind, hform⟩⟩
  have hdecode := Manifest.decode_obj hmetadata hapiVersion hkind
  cases hm : Metadata.decode (.obj metadata : Json) with
  | error d =>
    rw [hm] at hdecode
    refine .inr ⟨.metadataDecodes, .decode d, ?_, ⟨?_, fun q hq => ?_⟩, _, d, hmetadata, hm, rfl⟩
    · simp only [parse, hid, hform, hdecode]
      rfl
    · rintro ⟨v, m, hv, hok⟩
      obtain rfl := Option.some.inj (hmetadata.symm.trans hv)
      cases hm.symm.trans hok
    · cases q <;> first | assumption | exact hkept _ (by decide) | exact absurd hq (by decide)
  | ok m =>
    rw [hm] at hdecode
    have hdecodes : metadataDecodes.Kept (.obj fields) := ⟨_, m, hmetadata, hm⟩
    refine .inl ⟨_, parse_of_decode hid hform hdecode, fun r => ?_⟩
    cases r <;> first | assumption | exact hkept _ (by decide)

/-- A raw resource is a template exactly if it keeps all rules, and otherwise its error is that of
the first rule that it breaks. A template has one identity, however it is read: it is that of the
raw value, its kind is that of its API version and kind, and its object inside any namespace states
that type, has that name, is in that namespace, and is stored under the key of the template. -/
theorem parse_follows_rules (raw : Json) :
    ((∃ t, Template.parse raw = .ok t) ↔ ∀ r : TemplateRule, r.Kept raw) ∧
    (∀ e, Template.parse raw = .error e ↔
      ∃ r : TemplateRule, r.IsFirstBroken raw ∧ r.Reports raw e) ∧
    ∀ t, Template.parse raw = .ok t →
      TemplateId.of raw = .ok t.id ∧ t.kind.kind = t.id.kind ∧ t.id.apiVersion = t.kind.apiVersion ∧
      ∀ n, (t.toObject n).types = some ⟨t.id.apiVersion, t.id.kind⟩ ∧
        (t.toObject n).nameAny = t.id.name ∧ (t.toObject n).metadata.inNamespace = some n ∧
        ObjectKey.of (t.toObject n) = ObjectKey.new t.kind n t.name := by
  refine ⟨⟨?_, fun hkept => ?_⟩, fun e => ⟨fun he => ?_, ?_⟩, fun t ht => ?_⟩
  · rintro ⟨t, ht⟩
    obtain ⟨-, -, hkept⟩ | ⟨-, e, he, -⟩ := Template.parse_cases raw
    · exact hkept
    · cases ht.symm.trans he
  · obtain ⟨t, ht, -⟩ | ⟨r, -, -, hbroken, -⟩ := Template.parse_cases raw
    · exact ⟨t, ht⟩
    · exact absurd (hkept r) hbroken.1
  · obtain ⟨t, ht, -⟩ | ⟨r, e', he', hbroken, hreports⟩ := Template.parse_cases raw
    · cases ht.symm.trans he
    · obtain rfl := Except.error.inj (he.symm.trans he')
      exact ⟨r, hbroken, hreports⟩
  · rintro ⟨r, hbroken, hreports⟩
    obtain ⟨-, -, hkept⟩ | ⟨r', e', he', hbroken', hreports'⟩ := Template.parse_cases raw
    · exact absurd (hkept r) hbroken.1
    · obtain rfl := hbroken.unique hbroken'
      rw [he', hreports.unique hreports']
  · obtain ⟨hid, hkind, -⟩ := Template.parse_eq_ok ht
    obtain ⟨htypes, -⟩ := Template.object_of_parse ht
    exact ⟨hid, (ObjectKind.of?_eq_some hkind).2, (ObjectKind.apiVersion_of_of? hkind).symm,
      fun n => ⟨htypes, Template.nameAny_toObject ht n, rfl, Template.key_toObject ht n⟩⟩

/-- A resource that keeps all rules, with a group and a foreign namespace. -/
theorem parse_follows_rules_sample :
    let raw : Json := .obj [("apiVersion", .str "apps/v1"), ("kind", .str "Deployment"),
      ("metadata", .obj [("name", .str "web"), ("namespace", .str "elsewhere")])]
    ∃ t, Template.parse raw = .ok t ∧ t.kind.apiVersion = "apps/v1" ∧
      ObjectKey.of (t.toObject "team") = ⟨"apps", "Deployment", "team", "web"⟩ := by
  intro raw
  obtain ⟨t, ht⟩ : ∃ t, Template.parse raw = .ok t := ⟨_, rfl⟩
  obtain ⟨-, -, hagree⟩ := parse_follows_rules raw
  obtain ⟨hid, -, hversion, hobject⟩ := hagree t ht
  have hof : TemplateId.of raw = .ok ⟨"apps/v1", "Deployment", "web"⟩ := rfl
  have hof? : ObjectKind.of? "apps/v1" "Deployment" = some ⟨"apps", "v1", "Deployment"⟩ := by
    decide +kernel
  have hid := Except.ok.inj (hid.symm.trans hof)
  have hkind := (Template.parse_eq_ok ht).2.1
  rw [hid, hof?] at hkind
  refine ⟨t, ht, by rw [← hversion, hid], ?_⟩
  rw [(hobject "team").2.2.2, Template.name, hid, ← Option.some.inj hkind]
  rfl

end ClassReconciler
