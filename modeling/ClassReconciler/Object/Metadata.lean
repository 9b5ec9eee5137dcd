import ClassReconciler.Decode

/-!
# Object metadata

What every object of a cluster carries: its name, its labels and annotations, its
finalizers, and what the server keeps about it. Every field may be unset, and an empty list
or map that was given counts as set. `Metadata.decode` drops fields that it does not know;
`Metadata.encode` writes the fields that are set.
-/

namespace ClassReconciler

/-! ## Owners and managers -/

/-- An object that owns another one. -/
structure OwnerReference where
  apiVersion : String
  kind : String
  name : String
  uid : String
  controller : Option Bool
  blockOwnerDeletion : Option Bool
deriving DecidableEq

namespace OwnerReference

def decode [Source V] : Decoder V OwnerReference := fun v => do
  let fields ← Decode.fields "OwnerReference" v
  let apiVersion ← Decode.optional Decode.string "apiVersion" fields
  let blockOwnerDeletion ← Decode.optional Decode.boolean "blockOwnerDeletion" fields
  let controller ← Decode.optional Decode.boolean "controller" fields
  let kind ← Decode.optional Decode.string "kind" fields
  let name ← Decode.optional Decode.string "name" fields
  let uid ← Decode.optional Decode.string "uid" fields
  pure ⟨apiVersion.getD "", kind.getD "", name.getD "", uid.getD "", controller,
    blockOwnerDeletion⟩

/-- What the fields are set to. -/
def settings (r : OwnerReference) : List (String × Option Json) := [
  ("apiVersion", some (.str r.apiVersion)),
  ("blockOwnerDeletion", r.blockOwnerDeletion.map .bool),
  ("controller", r.controller.map .bool),
  ("kind", some (.str r.kind)),
  ("name", some (.str r.name)),
  ("uid", some (.str r.uid))]

def encode (r : OwnerReference) : Json := Encode.record r.settings

end OwnerReference

/-- The fields of an object that one of its writers manages. -/
structure ManagedFields where
  apiVersion : Option String
  fieldsType : Option String
  fieldsV1 : Option Json
  manager : Option String
  operation : Option String
  subresource : Option String
  time : Option Instant
deriving BEq

namespace ManagedFields

def decode [Source V] : Decoder V ManagedFields := fun v => do
  let fields ← Decode.fields "ManagedFieldsEntry" v
  let apiVersion ← Decode.optional Decode.string "apiVersion" fields
  let fieldsType ← Decode.optional Decode.string "fieldsType" fields
  let fieldsV1 ← Decode.optional Decode.any "fieldsV1" fields
  let manager ← Decode.optional Decode.string "manager" fields
  let operation ← Decode.optional Decode.string "operation" fields
  let subresource ← Decode.optional Decode.string "subresource" fields
  let time ← Decode.optional Decode.instant "time" fields
  pure ⟨apiVersion, fieldsType, fieldsV1, manager, operation, subresource, time⟩

/-- What the fields are set to. -/
def settings (m : ManagedFields) : List (String × Option Json) := [
  ("apiVersion", m.apiVersion.map .str),
  ("fieldsType", m.fieldsType.map .str),
  ("fieldsV1", m.fieldsV1),
  ("manager", m.manager.map .str),
  ("operation", m.operation.map .str),
  ("subresource", m.subresource.map .str),
  ("time", m.time.map Encode.instant)]

def encode (m : ManagedFields) : Json := Encode.record m.settings

end ManagedFields

/-! ## Metadata -/

/-- The metadata of an object. -/
structure Metadata where
  annotations : Option (SortedMap String String) := none
  creationTimestamp : Option Instant := none
  deletionGracePeriodSeconds : Option Int64 := none
  deletionTimestamp : Option Instant := none
  finalizers : Option (List String) := none
  generateName : Option String := none
  generation : Option Int64 := none
  labels : Option (SortedMap String String) := none
  managedFields : Option (List ManagedFields) := none
  name : Option String := none
  inNamespace : Option String := none
  ownerReferences : Option (List OwnerReference) := none
  resourceVersion : Option String := none
  selfLink : Option String := none
  uid : Option String := none
deriving BEq, Inhabited

namespace Metadata

def decode [Source V] : Decoder V Metadata := fun v => do
  let fields ← Decode.fields "ObjectMeta" v
  let annotations ← Decode.optional Decode.stringMap "annotations" fields
  let creationTimestamp ← Decode.optional Decode.instant "creationTimestamp" fields
  let deletionGracePeriodSeconds ←
    Decode.optional Decode.int64 "deletionGracePeriodSeconds" fields
  let deletionTimestamp ← Decode.optional Decode.instant "deletionTimestamp" fields
  let finalizers ← Decode.optional (Decode.list Decode.string) "finalizers" fields
  let generateName ← Decode.optional Decode.string "generateName" fields
  let generation ← Decode.optional Decode.int64 "generation" fields
  let labels ← Decode.optional Decode.stringMap "labels" fields
  let managedFields ← Decode.optional (Decode.list ManagedFields.decode) "managedFields" fields
  let name ← Decode.optional Decode.string "name" fields
  let inNamespace ← Decode.optional Decode.string "namespace" fields
  let ownerReferences ← Decode.optional (Decode.list OwnerReference.decode) "ownerReferences" fields
  let resourceVersion ← Decode.optional Decode.string "resourceVersion" fields
  let selfLink ← Decode.optional Decode.string "selfLink" fields
  let uid ← Decode.optional Decode.string "uid" fields
  pure { annotations, creationTimestamp, deletionGracePeriodSeconds, deletionTimestamp,
         finalizers, generateName, generation, labels, managedFields, name, inNamespace,
         ownerReferences, resourceVersion, selfLink, uid }

/-- What the fields are set to. -/
def settings (m : Metadata) : List (String × Option Json) := [
  ("annotations", m.annotations.map Encode.stringMap),
  ("creationTimestamp", m.creationTimestamp.map Encode.instant),
  ("deletionGracePeriodSeconds", m.deletionGracePeriodSeconds.map Encode.int64),
  ("deletionTimestamp", m.deletionTimestamp.map Encode.instant),
  ("finalizers", m.finalizers.map Encode.strings),
  ("generateName", m.generateName.map .str),
  ("generation", m.generation.map Encode.int64),
  ("labels", m.labels.map Encode.stringMap),
  ("managedFields", m.managedFields.map fun ms => .arr (ms.map ManagedFields.encode)),
  ("name", m.name.map .str),
  ("namespace", m.inNamespace.map .str),
  ("ownerReferences", m.ownerReferences.map fun rs => .arr (rs.map OwnerReference.encode)),
  ("resourceVersion", m.resourceVersion.map .str),
  ("selfLink", m.selfLink.map .str),
  ("uid", m.uid.map .str)]

def encode (m : Metadata) : Json := Encode.record m.settings

/-- The name, or else the stem that the server makes a name from, or else nothing. -/
def nameAny (m : Metadata) : String := (m.name.or m.generateName).getD ""

def labelValue? (m : Metadata) (key : String) : Option String := m.labels.bind (·.find? key)

def annotationValue? (m : Metadata) (key : String) : Option String :=
  m.annotations.bind (·.find? key)

/-- The object is marked for deletion. -/
def isDeleting (m : Metadata) : Bool := m.deletionTimestamp.isSome

end Metadata

end ClassReconciler
