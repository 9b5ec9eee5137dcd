import ClassReconciler.Object.Metadata
import ClassReconciler.Text.Split

/-!
# Objects of any kind

A manifest is an object whose kind is known only from its own fields: its type, its metadata
and all other fields as they were given. The type is kept if both its fields are strings; else
what states it is given up as far as it was read.
-/

namespace ClassReconciler

/-- The group and the version of an API version: what stands before and after its first
slash. Without a slash there is no group. -/
def splitApiVersion (apiVersion : String) : String × String :=
  match splitFirst '/' apiVersion.toList with
  | some (group, version) => (String.ofList group, String.ofList version)
  | none => ("", apiVersion)

/-- The API group, version and kind of an object. -/
structure ObjectKind where
  group : String
  version : String
  kind : String
deriving DecidableEq, Inhabited

/-- The type that an object states for itself. -/
structure TypeMeta where
  apiVersion : String
  kind : String
deriving DecidableEq

/-- An object of any kind. -/
structure Manifest where
  types : Option TypeMeta
  metadata : Metadata
  fields : List (String × Json)
deriving BEq, Inhabited

namespace Manifest

/-- The fields that state a type. -/
def typeFields : List String := ["apiVersion", "kind"]

/-- Reads a type off the fields that state it, in their order, and gives those that are left.
The reading ends at a field that is no string or comes for the second time. -/
def takeTypes (apiVersion kind : Option String) :
    List (String × Json) → Option TypeMeta × List (String × Json)
  | [] => (do pure ⟨← apiVersion, ← kind⟩, [])
  | (name, .str s) :: rest =>
    if name = "apiVersion" ∧ apiVersion = none then takeTypes (some s) kind rest
    else if name = "kind" ∧ kind = none then takeTypes apiVersion (some s) rest
    else (none, rest)
  | _ :: rest => (none, rest)

def decode [Source V] : Decoder V Manifest := fun v => do
  let all ← Decode.fields "struct DynamicObject" v
  Decode.once all ["metadata"]
  let metadata ← Decode.given Metadata.decode "metadata" all
  let stated ← Decode.entries Decode.any (Source.named typeFields all)
  let others ← Decode.entries Decode.any (all.filter fun f => f.1 ∉ "metadata" :: typeFields)
  let (types, left) := takeTypes none none stated
  pure ⟨types, metadata.getD {}, left ++ others⟩

def encode (o : Manifest) : Json :=
  let types : List (String × Json) :=
    match o.types with
    | some t => [("apiVersion", .str t.apiVersion), ("kind", .str t.kind)]
    | none => []
  Json.ofFields (types ++ ("metadata", o.metadata.encode) :: o.fields)

def nameAny (o : Manifest) : String := o.metadata.nameAny

/-- The namespace of the object, empty where it is unset. -/
def namespaceName (o : Manifest) : String := o.metadata.inNamespace.getD ""

/-- The object with another version. -/
def withVersion (o : Manifest) (version : Option String) : Manifest :=
  { o with metadata := { o.metadata with resourceVersion := version } }

end Manifest

end ClassReconciler
