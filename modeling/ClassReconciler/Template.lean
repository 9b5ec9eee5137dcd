import ClassReconciler.Object.Manifest

/-!
# Templates

A class declares its resources as raw JSON values. A value's identity is its API version,
kind and name, which can often be read where the rest of the value does not decode. A value
that parses is a template, from which the object of any namespace is made: all that a server
keeps about an object is cleared from its metadata, and the namespace is set.
-/

namespace ClassReconciler

/-- Why a raw resource is no template. -/
inductive TemplateError where
  | notAnObject
  | missingField (name : String)
  | invalidApiVersion (apiVersion : String)
  | decode (error : DecodeError)

def TemplateError.message : TemplateError → String
  | .notAnObject => "embedded resource must be a JSON object"
  | .missingField name => "embedded resource is missing " ++ name
  | .invalidApiVersion apiVersion => "invalid apiVersion " ++ quoted apiVersion
  | .decode e => "failed to decode embedded resource: " ++ e.message

/-! ## Identities -/

/-- The object that a template stands for, whatever the namespace. -/
structure TemplateId where
  apiVersion : String
  kind : String
  name : String
deriving DecidableEq, Inhabited

namespace TemplateId

/-- Identities are ordered by API version, then kind, then name. -/
instance : Ord TemplateId :=
  ⟨compareLex (compareOn apiVersion) (compareLex (compareOn kind) (compareOn name))⟩

instance : Std.TransOrd TemplateId :=
  inferInstanceAs <| Std.TransCmp
    (compareLex (compareOn apiVersion) (compareLex (compareOn kind) (compareOn name)))

instance : Std.LawfulEqOrd TemplateId where
  eq_of_compare {a b} h := by
    obtain ⟨h₁, h⟩ := Ordering.then_eq_eq.1 h
    obtain ⟨h₂, h₃⟩ := Ordering.then_eq_eq.1 h
    rw [compareOn, Std.LawfulEqCmp.compare_eq_iff_eq] at h₁ h₂ h₃
    cases a
    cases b
    simp_all

/-- A field that is a string and not empty. -/
def nonEmpty (field : Option Json) : Option String :=
  (field.bind Json.asString?).filter (· ≠ "")

/-- The identity of a raw resource. -/
def of (raw : Json) : Except TemplateError TemplateId :=
  match raw with
  | .obj fields =>
    match nonEmpty (Json.lookup "apiVersion" fields) with
    | none => .error (.missingField "apiVersion")
    | some apiVersion =>
      match nonEmpty (Json.lookup "kind" fields) with
      | none => .error (.missingField "kind")
      | some kind =>
        match nonEmpty ((Json.lookup "metadata" fields).bind (Json.get? "name")) with
        | none => .error (.missingField "metadata.name")
        | some name => .ok ⟨apiVersion, kind, name⟩
  | _ => .error .notAnObject

def text (id : TemplateId) : String := id.apiVersion ++ "/" ++ id.kind ++ " " ++ id.name

/-- The identities of a list, in ascending order and each of them once. -/
def sorted (ids : List TemplateId) : List TemplateId :=
  (SortedMap.ofList (ids.map fun id => (id, ()))).keys

end TemplateId

/-! ## Kinds -/

/-- The kind that an API version and a kind name: without a slash the version stands alone,
else there is one slash with the group before it and the version after it. -/
def ObjectKind.of? (apiVersion kind : String) : Option ObjectKind :=
  match splitFirst '/' apiVersion.toList with
  | none => some ⟨"", apiVersion, kind⟩
  | some (group, version) =>
    if group ≠ [] ∧ version ≠ [] ∧ '/' ∉ version then
      some ⟨String.ofList group, String.ofList version, kind⟩
    else none

/-! ## Templates -/

/-- A raw resource that can be applied into any namespace. -/
structure Template where
  id : TemplateId
  kind : ObjectKind
  object : Manifest
deriving BEq, Inhabited

/-- The metadata of an object made for a namespace: what a server keeps is cleared. -/
def Metadata.stamped (m : Metadata) (namespaceName : String) : Metadata :=
  { m with
    inNamespace := some namespaceName
    resourceVersion := none
    uid := none
    creationTimestamp := none
    managedFields := none
    generation := none
    selfLink := none
    deletionTimestamp := none
    deletionGracePeriodSeconds := none
    ownerReferences := none }

namespace Template

/-- The template that a raw resource writes. -/
def parse (raw : Json) : Except TemplateError Template :=
  match TemplateId.of raw with
  | .error e => .error e
  | .ok id =>
    match ObjectKind.of? id.apiVersion id.kind with
    | none => .error (.invalidApiVersion id.apiVersion)
    | some kind =>
      match Manifest.decode raw with
      | .error e => .error (.decode e)
      | .ok object => .ok ⟨id, kind, object⟩

/-- The template of a raw resource, where it is one. -/
def parse? (raw : Json) : Option Template := (parse raw).toOption

/-- The templates among raw resources, in order. -/
def parseAll (raws : List Json) : List Template := raws.filterMap parse?

def name (t : Template) : String := t.id.name

/-- The object that the template describes inside a namespace. -/
def toObject (t : Template) (namespaceName : String) : Manifest :=
  { t.object with metadata := t.object.metadata.stamped namespaceName }

end Template

end ClassReconciler
