import ClassReconciler.Object.Labels
import ClassReconciler.Object.Metadata

/-!
# Namespaces

A namespace names its class by a label and opts into deletions by annotations, of which only
the exact value `true` counts.
-/

namespace ClassReconciler

/-- A condition in the status of a namespace. -/
structure NamespaceCondition where
  lastTransitionTime : Option Instant
  message : Option String
  reason : Option String
  status : String
  type : String
deriving DecidableEq

namespace NamespaceCondition

def decode [Source V] : Decoder V NamespaceCondition := fun v => do
  let fields ← Decode.fields "NamespaceCondition" v
  let lastTransitionTime ← Decode.optional Decode.instant "lastTransitionTime" fields
  let message ← Decode.optional Decode.string "message" fields
  let reason ← Decode.optional Decode.string "reason" fields
  let status ← Decode.optional Decode.string "status" fields
  let type ← Decode.optional Decode.string "type" fields
  pure ⟨lastTransitionTime, message, reason, status.getD "", type.getD ""⟩

def encode (c : NamespaceCondition) : Json :=
  Encode.record [
    ("lastTransitionTime", c.lastTransitionTime.map Encode.instant),
    ("message", c.message.map .str),
    ("reason", c.reason.map .str),
    ("status", some (.str c.status)),
    ("type", some (.str c.type))]

end NamespaceCondition

structure NamespaceSpec where
  finalizers : Option (List String) := none
deriving DecidableEq

structure NamespaceStatus where
  conditions : Option (List NamespaceCondition)
  phase : Option String
deriving DecidableEq

/-- A namespace of the cluster. -/
structure Namespace where
  metadata : Metadata := {}
  spec : Option NamespaceSpec := none
  status : Option NamespaceStatus := none
deriving BEq, Inhabited

namespace NamespaceSpec

def decode [Source V] : Decoder V NamespaceSpec := fun v => do
  let fields ← Decode.fields "NamespaceSpec" v
  let finalizers ← Decode.optional (Decode.list Decode.string) "finalizers" fields
  pure ⟨finalizers⟩

def encode (s : NamespaceSpec) : Json :=
  Encode.record [("finalizers", s.finalizers.map Encode.strings)]

end NamespaceSpec

namespace NamespaceStatus

def decode [Source V] : Decoder V NamespaceStatus := fun v => do
  let fields ← Decode.fields "NamespaceStatus" v
  let conditions ← Decode.optional (Decode.list NamespaceCondition.decode) "conditions" fields
  let phase ← Decode.optional Decode.string "phase" fields
  pure ⟨conditions, phase⟩

def encode (s : NamespaceStatus) : Json :=
  Encode.record [
    ("conditions", s.conditions.map fun cs => .arr (cs.map NamespaceCondition.encode)),
    ("phase", s.phase.map .str)]

end NamespaceStatus

namespace Namespace

def decode [Source V] : Decoder V Namespace := fun v => do
  let fields ← Decode.fields "Namespace" v
  Decode.typed "v1" "Namespace" fields
  let metadata ← Decode.optional Metadata.decode "metadata" fields
  let spec ← Decode.optional NamespaceSpec.decode "spec" fields
  let status ← Decode.optional NamespaceStatus.decode "status" fields
  pure ⟨metadata.getD {}, spec, status⟩

def encode (ns : Namespace) : Json :=
  Encode.record [
    ("apiVersion", some (.str "v1")),
    ("kind", some (.str "Namespace")),
    ("metadata", some ns.metadata.encode),
    ("spec", ns.spec.map NamespaceSpec.encode),
    ("status", ns.status.map NamespaceStatus.encode)]

def nameAny (ns : Namespace) : String := ns.metadata.nameAny

/-- The class that the namespace names; an empty name is none. -/
def className? (ns : Namespace) : Option String :=
  (ns.metadata.labelValue? classLabel).filter (· ≠ "")

/-- Only the exact value `true` opts in. -/
def optsInto (ns : Namespace) (key : String) : Bool :=
  ns.metadata.annotationValue? key == some "true"

/-- Everything of the class may be deleted here when the class is deleted. -/
def cleanupEnabled (ns : Namespace) : Bool := ns.optsInto cleanupKey

/-- What the class no longer declares may be deleted here. -/
def cleanupObsoleteEnabled (ns : Namespace) : Bool := ns.optsInto cleanupObsoleteKey

end Namespace

end ClassReconciler
