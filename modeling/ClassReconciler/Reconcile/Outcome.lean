import ClassReconciler.Store

/-!
# Outcomes

How a reconcile ends: with one of eight outcomes or with an error. Every error goes away by
trying again later, since each attempt reads the cluster anew.
-/

namespace ClassReconciler

/-- The way a reconcile went. -/
inductive Outcome where
  /-- The namespace names no class. -/
  | unlabeled
  /-- The class was applied into the namespace. -/
  | inNamespace (className : String) (failed : Nat)
  /-- The namespace's class is being deleted, so that nothing was applied. -/
  | classDeleting (className : String)
  /-- Neither a namespace nor a class has the name. -/
  | orphaned (namespaces : Nat)
  /-- The class was applied into every namespace that names it. -/
  | applied (namespaces failed pruned : Nat)
  /-- The class's namespaces were handled and its finalizer was removed. -/
  | finalized (cleaned orphaned : Nat)
  /-- The class is being deleted and does not hold the finalizer. -/
  | deleted
  /-- The namespace does not exist. -/
  | gone
deriving DecidableEq

/-- Why a reconcile failed. -/
inductive ReconcileError where
  | store (error : StoreError)
  | missingClass (namespaceName className : String)
  | cleanup (className : String) (failed : Nat)
  | cancelled
deriving DecidableEq

/-- How a reconcile ends. -/
abbrev ReconcileResult : Type := Except ReconcileError Outcome

def Outcome.label : Outcome → String
  | .unlabeled => "unlabeled"
  | .inNamespace .. => "namespace"
  | .classDeleting _ => "class_deleting"
  | .orphaned _ => "orphaned"
  | .applied .. => "applied"
  | .finalized .. => "finalized"
  | .deleted => "deleted"
  | .gone => "gone"

namespace ReconcileError

def label : ReconcileError → String
  | .store (.conflict _) => "conflict"
  | .store .timeout => "timeout"
  | .store _ => "store"
  | .missingClass .. => "missing_class"
  | .cleanup .. => "cleanup"
  | .cancelled => "cancelled"

def message : ReconcileError → String
  | .store e => e.message
  | .missingClass namespaceName className =>
    "namespace " ++ namespaceName ++ " references missing NamespaceClass " ++ className
  | .cleanup className failed =>
    "failed to delete " ++ toString failed ++ " resources for NamespaceClass " ++ className
  | .cancelled => "reconciliation cancelled"

/-- The key may be tried again. -/
def isRetryable : ReconcileError → Bool := fun _ => true

end ReconcileError

end ClassReconciler
