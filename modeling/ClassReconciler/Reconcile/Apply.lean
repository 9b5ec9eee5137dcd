import ClassReconciler.Store
import ClassReconciler.Template

/-!
# Applying templates

A template is applied into a namespace by reading its object there and then creating or
replacing it; a replacement carries the version that was read. A list of raw resources is
applied in order, and an entry that fails is recorded and passed over.
-/

namespace ClassReconciler

/-- How an object was written. -/
inductive Upserted where
  | created
  | updated
deriving DecidableEq

/-- Why an entry was not applied. -/
inductive ApplyError where
  | template (error : TemplateError)
  | store (error : StoreError)

/-- An entry that was not applied: its position in the list, and its identity where the entry
is a template. -/
structure ApplyFailure where
  index : Nat
  id : Option TemplateId
  error : ApplyError

/-- What became of the entries of a list, each part in the order of the list. -/
structure ApplyReport where
  created : List TemplateId := []
  updated : List TemplateId := []
  failed : List ApplyFailure := []

namespace ApplyReport

def isComplete (r : ApplyReport) : Bool := r.failed.isEmpty

def append (r s : ApplyReport) : ApplyReport :=
  ⟨r.created ++ s.created, r.updated ++ s.updated, r.failed ++ s.failed⟩

end ApplyReport

/-- Creates the template's object in a namespace, or replaces the one that is there. -/
def upsert (t : Template) (namespaceName : String) : Action (Except StoreError Upserted) := do
  let object := t.toObject namespaceName
  match ← Action.call (.getObject t.kind namespaceName t.name) with
  | .error e => pure (.error e)
  | .ok none => do
    let written ← Action.call (.createObject t.kind object)
    pure (written.map fun _ => .created)
  | .ok (some (existing : Manifest)) => do
    let written ← Action.call
      (.replaceObject t.kind (object.withVersion existing.metadata.resourceVersion))
    pure (written.map fun _ => .updated)

/-- Applies the entry at a position. -/
def applyEntry (index : Nat) (raw : Json) (namespaceName : String) : Action ApplyReport :=
  match Template.parse raw with
  | .error e => pure { failed := [⟨index, none, .template e⟩] }
  | .ok t => do
    match ← upsert t namespaceName with
    | .ok .created => pure { created := [t.id] }
    | .ok .updated => pure { updated := [t.id] }
    | .error e => pure { failed := [⟨index, some t.id, .store e⟩] }

/-- Applies entries in order, the first of them at position `index`. -/
def applyFrom (index : Nat) (raws : List Json) (namespaceName : String) : Action ApplyReport :=
  match raws with
  | [] => pure {}
  | raw :: rest => do
    let first ← applyEntry index raw namespaceName
    let others ← applyFrom (index + 1) rest namespaceName
    pure (first.append others)

/-- Applies every raw resource of a list into a namespace. -/
def applyAll (raws : List Json) (namespaceName : String) : Action ApplyReport :=
  applyFrom 0 raws namespaceName

end ClassReconciler
