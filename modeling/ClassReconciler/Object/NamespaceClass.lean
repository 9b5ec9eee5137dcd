import ClassReconciler.Object.Labels
import ClassReconciler.Object.Metadata

/-!
# Namespace classes

A class declares raw resources for the namespaces that name it, and its status records the
resources that were last applied. The controller's finalizer holds a class that is being
deleted; adding and removing it leaves all other finalizers alone.

A class, its spec and its status are also read from arrays, which hold their fields by
position. As objects they refuse a second occurrence of a field.
-/

namespace ClassReconciler

structure NamespaceClassSpec where
  resources : List Json := []
deriving BEq, Inhabited

structure NamespaceClassStatus where
  lastAppliedResources : List Json := []
deriving BEq, Inhabited

/-- A class of namespaces. -/
structure NamespaceClass where
  metadata : Metadata := {}
  spec : NamespaceClassSpec := {}
  status : Option NamespaceClassStatus := none
deriving BEq, Inhabited

/-! ## Decoding -/

/-- An array that holds more than the fields of a record. -/
def excessItems (length : Nat) : DecodeError := .invalidLength length "fewer elements in array"

/-- A record whose only field is a list of raw values, empty where it is absent. -/
def decodeResources [Source V] (type field : String) : Decoder V (List Json) := fun v => do
  match ← Decode.layer v with
  | .obj fields => do
    Decode.once fields [field]
    let resources ← Decode.given (Decode.list Decode.any) field fields
    pure (resources.getD [])
  | .arr [] => pure []
  | .arr (v :: rest) => do
    let resources ← Decode.list Decode.any v
    if rest.isEmpty then pure resources else throw (excessItems (rest.length + 1))
  | l => throw (.invalidType l.found type)

def NamespaceClassSpec.decode [Source V] : Decoder V NamespaceClassSpec := fun v =>
  NamespaceClassSpec.mk <$> decodeResources "struct NamespaceClassSpec" "resources" v

def NamespaceClassStatus.decode [Source V] : Decoder V NamespaceClassStatus := fun v =>
  NamespaceClassStatus.mk <$>
    decodeResources "struct NamespaceClassStatus" "lastAppliedResources" v

namespace NamespaceClass

/-- A class held by its fields. -/
def decodeFields [Source V] (fields : List (String × V)) : Except DecodeError NamespaceClass := do
  Decode.once fields ["metadata", "spec", "status"]
  let metadata ← Decode.given Metadata.decode "metadata" fields
  let spec ← Decode.given NamespaceClassSpec.decode "spec" fields
  let status ← Decode.optional NamespaceClassStatus.decode "status" fields
  let metadata ← Decode.required "metadata" metadata
  let spec ← Decode.required "spec" spec
  pure ⟨metadata, spec, status⟩

/-- A class held by position: its metadata, its spec and its status. -/
def decodeItems [Source V] (items : List V) : Except DecodeError NamespaceClass := do
  let short (n : Nat) := DecodeError.invalidLength n "struct NamespaceClass with 3 elements"
  match items with
  | [] => throw (short 0)
  | m :: items =>
    let metadata ← Metadata.decode m
    match items with
    | [] => throw (short 1)
    | s :: items =>
      let spec ← NamespaceClassSpec.decode s
      match items with
      | [] => throw (short 2)
      | s :: items =>
        let status ← Decode.nullable NamespaceClassStatus.decode s
        if items.isEmpty then pure ⟨metadata, spec, status⟩
        else throw (excessItems (items.length + 3))

def decode [Source V] : Decoder V NamespaceClass := fun v => do
  match ← Decode.layer v with
  | .obj fields => decodeFields fields
  | .arr items => decodeItems items
  | l => throw (.invalidType l.found "struct NamespaceClass")

end NamespaceClass

/-! ## Encoding -/

/-- The spec leaves out an empty list of resources. -/
def NamespaceClassSpec.encode (s : NamespaceClassSpec) : Json :=
  Encode.record [("resources", if s.resources.isEmpty then none else some (.arr s.resources))]

/-- The status always holds its list, so that a merge patch can empty it. -/
def NamespaceClassStatus.encode (s : NamespaceClassStatus) : Json :=
  Encode.record [("lastAppliedResources", some (.arr s.lastAppliedResources))]

namespace NamespaceClass

def apiVersion : String := "namespaceclass.akuity.io/v1alpha1"

def kind : String := "NamespaceClass"

/-- What the fields are set to. -/
def settings (c : NamespaceClass) : List (String × Option Json) := [
  ("apiVersion", some (.str apiVersion)),
  ("kind", some (.str kind)),
  ("metadata", some c.metadata.encode),
  ("spec", some c.spec.encode),
  ("status", c.status.map NamespaceClassStatus.encode)]

def encode (c : NamespaceClass) : Json := Encode.record c.settings

/-! ## Status and finalizers -/

def nameAny (c : NamespaceClass) : String := c.metadata.nameAny

/-- The class is marked for deletion. -/
def isDeleting (c : NamespaceClass) : Bool := c.metadata.isDeleting

/-- The resources that were last applied; none where there is no status. -/
def lastApplied (c : NamespaceClass) : List Json :=
  match c.status with
  | some s => s.lastAppliedResources
  | none => []

/-- The finalizers, unset ones read as none. -/
def finalizers (c : NamespaceClass) : List String := c.metadata.finalizers.getD []

def withFinalizers (c : NamespaceClass) (fs : List String) : NamespaceClass :=
  { c with metadata := { c.metadata with finalizers := some fs } }

/-- The controller's finalizer is on the class. -/
def hasFinalizer (c : NamespaceClass) : Bool := c.finalizers.contains classFinalizer

/-- Adds the controller's finalizer behind the others, where it is not there yet. The flag
says whether the class was changed. -/
def addFinalizer (c : NamespaceClass) : Bool × NamespaceClass :=
  if c.hasFinalizer then (false, c)
  else (true, c.withFinalizers (c.finalizers ++ [classFinalizer]))

/-- Removes every copy of the controller's finalizer. The flag says whether the class was
changed. -/
def removeFinalizer (c : NamespaceClass) : Bool × NamespaceClass :=
  if c.hasFinalizer then (true, c.withFinalizers (c.finalizers.filter (· ≠ classFinalizer)))
  else (false, c)

end NamespaceClass

end ClassReconciler
