import ClassReconciler.Reconcile.Apply
import ClassReconciler.Reconcile.Cleanup
import ClassReconciler.Reconcile.Key
import ClassReconciler.Reconcile.Outcome
import ClassReconciler.Template.Diff

/-!
# The reconciler

`reconcile key` brings the cluster in line for one namespace or one class. A namespace has
its class applied into it. A class is given the finalizer, applied into every namespace that
names it, has its removed resources deleted where namespaces opted in, and has what was
applied recorded in its status. A class that is being deleted has its namespaces cleaned up
and its finalizer removed.
-/

namespace ClassReconciler

/-- A computation that can end with an error of the reconcile. -/
abbrev ReconcileAction (α : Type) : Type := ExceptT ReconcileError Action α

/-- A store call whose failure ends the reconcile. -/
def callOrFail (c : StoreCall) : ReconcileAction c.Answer :=
  ExceptT.mk do
    let result ← Action.call c
    pure (result.mapError .store)

/-! ## Namespaces -/

/-- The warning to a namespace whose class does not exist. -/
def missingWarning (ns : Namespace) (className : String) (reason : WarningReason) : Warning where
  about := ns
  reason := reason
  note := "Namespace references missing NamespaceClass '" ++ className ++ "'"

/-- Applies the namespace's class into it. -/
def reconcileNamespace (ns : Namespace) : ReconcileAction Outcome := do
  match ns.className? with
  | none => pure .unlabeled
  | some className =>
    match ← callOrFail (.getClass className) with
    | none =>
      Action.warn (missingWarning ns className .missingClass)
      throw (.missingClass ns.nameAny className)
    | some (c : NamespaceClass) =>
      if c.isDeleting then pure (.classDeleting className)
      else
        let report ← applyAll c.spec.resources ns.nameAny
        pure (.inNamespace className report.failed.length)

/-- Warns each of the namespaces that name a class which does not exist. -/
def warnEach (className : String) : List Namespace → Action Unit
  | [] => pure ()
  | ns :: rest => do
    Action.warn (missingWarning ns className .orphanedClass)
    warnEach className rest

/-- Warns every namespace that still names the class. -/
def reconcileOrphans (className : String) : ReconcileAction Outcome := do
  let (namespaces : List Namespace) ← callOrFail (.namespacesForClass className)
  warnEach className namespaces
  pure (.orphaned namespaces.length)

/-! ## Classes -/

/-- The entries of a class that were applied and are declared no longer, each with its raw
value. An entry that does not decode still claims its identity, so that breaking an entry
does not remove it. -/
structure Revision where
  /-- Entries whose identity cannot be read. -/
  unidentified : Nat
  /-- Recorded templates that no entry claims, in the order of the record. -/
  removed : List (Template × Json)

namespace Revision

/-- The identities that the entries of a list claim. -/
def claimedIds (raws : List Json) : List TemplateId :=
  raws.filterMap fun raw => (TemplateId.of raw).toOption

/-- The recorded entries that are templates, each with its raw value. -/
def recorded (raws : List Json) : List (Template × Json) :=
  raws.filterMap fun raw => (Template.parse? raw).map (·, raw)

/-- What changed from the record of a class to its declaration. -/
def of (c : NamespaceClass) : Revision :=
  let current := claimedIds c.spec.resources
  let previous := recorded c.lastApplied
  let gone := Diff.removedIds (previous.map fun r => r.1.id) current
  { unidentified := c.spec.resources.length - current.length
    removed := previous.filter fun r => r.1.id ∈ gone }

def templates (r : Revision) : List Template := r.removed.map Prod.fst

/-- Nothing is pruned while an entry could be any of the removed ones. -/
def prunes (r : Revision) : Bool := r.unidentified == 0

/-- The removed identities that have to stay on the record before anything is pruned. -/
def deferred (r : Revision) : List TemplateId :=
  if r.prunes then [] else r.templates.map Template.id

/-- The record of what is applied: the declared resources, then the removed ones that are
still to be deleted somewhere. -/
def record (r : Revision) (declared : List Json) (retained : List TemplateId) : List Json :=
  declared ++ (r.removed.filter fun t => t.1.id ∈ retained).map Prod.snd

end Revision

/-- What became of a class in its namespaces. -/
structure Tally where
  failed : Nat := 0
  pruned : Nat := 0
  retained : List TemplateId := []

def Tally.add (t : Tally) (applied : ApplyReport) (pruned : PruneReport) : Tally where
  failed := t.failed + applied.failed.length + pruned.failed.length
  pruned := t.pruned + pruned.deleted.length
  retained := t.retained ++ pruned.failed.map Prod.fst

/-- Applies a class into one namespace and prunes what was removed from it. -/
def updateNamespace (resources : List Json) (revision : Revision) (ns : Namespace) :
    Action (ApplyReport × PruneReport) := do
  let applied ← applyAll resources ns.nameAny
  let pruned ← if revision.prunes then pruneObsolete ns revision.templates else pure {}
  pure (applied, pruned)

/-- Updates namespaces in order, adding up what became of them. -/
def updateEach (resources : List Json) (revision : Revision) (tally : Tally) :
    List Namespace → Action Tally
  | [] => pure tally
  | ns :: rest => do
    let (applied, pruned) ← updateNamespace resources revision ns
    updateEach resources revision (tally.add applied pruned) rest

/-- The class with the finalizer, which is written where it was not there yet. -/
def ensureFinalizer (c : NamespaceClass) : ReconcileAction NamespaceClass :=
  match c.addFinalizer with
  | (true, c) => callOrFail (.replaceClass c)
  | (false, _) => pure c

/-- Writes the record of a class where it differs from the stored one. -/
def writeRecord (c : NamespaceClass) (record : List Json) : ReconcileAction Unit :=
  if c.lastApplied == record then pure ()
  else do
    let _ ← callOrFail (.replaceClassStatus { c with status := some ⟨record⟩ })
    pure ()

/-- Applies a class into every namespace that names it. -/
def applyClass (c : NamespaceClass) : ReconcileAction Outcome := do
  let name := c.nameAny
  let c ← ensureFinalizer c
  let revision := Revision.of c
  let (namespaces : List Namespace) ← callOrFail (.namespacesForClass name)
  let tally ← updateEach c.spec.resources revision { retained := revision.deferred } namespaces
  writeRecord c (revision.record c.spec.resources tally.retained)
  pure (.applied namespaces.length tally.failed tally.pruned)

/-- Cleans up after a class that is being deleted and then removes the finalizer. -/
def finalizeClass (c : NamespaceClass) : ReconcileAction Outcome := do
  let name := c.nameAny
  let (namespaces : List Namespace) ← callOrFail (.namespacesForClass name)
  let report ← finalizeNamespaces c namespaces
  if report.isComplete then
    let _ ← callOrFail (.replaceClass c.removeFinalizer.2)
    pure (.finalized report.cleaned.length report.orphaned.length)
  else throw (.cleanup name report.failed.length)

def reconcileClass (c : NamespaceClass) : ReconcileAction Outcome :=
  if !c.isDeleting then applyClass c
  else if c.hasFinalizer then finalizeClass c
  else pure .deleted

/-- Reconciles the class of a name, which may be missing. -/
def reconcileClassNamed (name : String) : ReconcileAction Outcome := do
  match ← callOrFail (.getClass name) with
  | some (c : NamespaceClass) => reconcileClass c
  | none => reconcileOrphans name

/-! ## Keys -/

/-- Reconciles the object that a key names. -/
def reconcile (key : Key) : ReconcileAction Outcome := do
  if key.kind = some .ofClass then reconcileClassNamed key.name
  else
    match ← callOrFail (.getNamespace key.name) with
    | some (ns : Namespace) => reconcileNamespace ns
    | none => if key.kind = some .inNamespace then pure .gone else reconcileClassNamed key.name

end ClassReconciler
