import ClassReconciler.Store
import ClassReconciler.Template

/-!
# Deleting what a class no longer requires

Nothing is deleted from a namespace that did not opt in: to the deletion of obsolete
resources for a class that is still there, or to cleanup for a class that is being deleted.
Every deletion is attempted, also after others have failed. An object that does not exist
counts as deleted.
-/

namespace ClassReconciler

/-- Deletes a template's object from a namespace. -/
def deleteTemplate (t : Template) (namespaceName : String) : Action (Except StoreError Unit) := do
  let deleted ← Action.call (.deleteObject t.kind namespaceName t.name)
  pure (deleted.map fun _ => ())

/-- Deletes the objects of templates in order; gives for each whether that failed. -/
def deleteEach (templates : List Template) (namespaceName : String) :
    Action (List (TemplateId × Option StoreError)) :=
  match templates with
  | [] => pure []
  | t :: rest => do
    let deleted ← deleteTemplate t namespaceName
    let others ← deleteEach rest namespaceName
    let error? : Option StoreError :=
      match deleted with
      | .ok () => none
      | .error e => some e
    pure ((t.id, error?) :: others)

/-! ## Obsolete resources -/

/-- What became of the obsolete resources of a namespace. -/
structure PruneReport where
  deleted : List TemplateId := []
  failed : List (TemplateId × StoreError) := []

/-- Deletes the objects of removed templates, where the namespace opts into that. -/
def pruneObsolete (ns : Namespace) (removed : List Template) : Action PruneReport :=
  if removed.isEmpty || !ns.cleanupObsoleteEnabled then pure {}
  else do
    let results ← deleteEach removed ns.nameAny
    pure {
      deleted := results.filterMap fun r => if r.2.isNone then some r.1 else none
      failed := results.filterMap fun r => r.2.map (r.1, ·) }

/-! ## Deleted classes -/

/-- A deletion that failed. -/
structure DeleteFailure where
  namespaceName : String
  id : TemplateId
  error : StoreError

/-- What became of the namespaces of a class that is being deleted: those that opted into
cleanup, those that were left alone and warned, and the deletions that failed. -/
structure FinalizeReport where
  cleaned : List String := []
  orphaned : List String := []
  failed : List DeleteFailure := []

namespace FinalizeReport

def isComplete (r : FinalizeReport) : Bool := r.failed.isEmpty

def append (r s : FinalizeReport) : FinalizeReport :=
  ⟨r.cleaned ++ s.cleaned, r.orphaned ++ s.orphaned, r.failed ++ s.failed⟩

end FinalizeReport

/-- Keeps the first template of every identity that is not among those seen. -/
def firstOfEachId (seen : List TemplateId) : List Template → List Template
  | [] => []
  | t :: rest =>
    if t.id ∈ seen then firstOfEachId seen rest else t :: firstOfEachId (t.id :: seen) rest

/-- The templates that a class declares or has last applied, each identity once. -/
def declaredTemplates (c : NamespaceClass) : List Template :=
  firstOfEachId [] (Template.parseAll (c.spec.resources ++ c.lastApplied))

/-- The warning to a namespace whose class is deleted without cleanup. -/
def orphanedWarning (ns : Namespace) (className : String) : Warning where
  about := ns
  reason := .orphanedClass
  note := "Namespace references deleted NamespaceClass '" ++ className ++
    "' but does not have cleanup enabled"

/-- Cleans one namespace, or warns it where it did not opt in. -/
def finalizeNamespace (className : String) (templates : List Template) (ns : Namespace) :
    Action FinalizeReport :=
  if ns.cleanupEnabled then do
    let results ← deleteEach templates ns.nameAny
    pure {
      cleaned := [ns.nameAny]
      failed := results.filterMap fun r => r.2.map (⟨ns.nameAny, r.1, ·⟩) }
  else do
    Action.warn (orphanedWarning ns className)
    pure { orphaned := [ns.nameAny] }

/-- Cleans or warns every namespace in order. -/
def finalizeEach (className : String) (templates : List Template) :
    List Namespace → Action FinalizeReport
  | [] => pure {}
  | ns :: rest => do
    let first ← finalizeNamespace className templates ns
    let others ← finalizeEach className templates rest
    pure (first.append others)

/-- Handles the deletion of a class in the namespaces that name it. -/
def finalizeNamespaces (c : NamespaceClass) (namespaces : List Namespace) :
    Action FinalizeReport :=
  finalizeEach c.nameAny (declaredTemplates c) namespaces

end ClassReconciler
