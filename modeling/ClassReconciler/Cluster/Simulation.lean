import ClassReconciler.Cluster.Cluster
import ClassReconciler.Controller.Controller
import ClassReconciler.Reconcile.Reconciler

/-!
# Simulated runs

Actions are run against a cluster in memory while faults make calls fail, every call and
warning is recorded, and a run may be cancelled at one of its calls. A call that fails by a
fault and a call at which the run is cancelled have no effect on the cluster.
-/

namespace ClassReconciler

/-- The kinds of calls. -/
inductive CallKind where
  | getNamespace
  | getClass
  | namespacesForClass
  | replaceClass
  | replaceClassStatus
  | getObject
  | createObject
  | replaceObject
  | deleteObject
deriving DecidableEq

namespace StoreCall

def kind : StoreCall → CallKind
  | .getNamespace _ => .getNamespace
  | .getClass _ => .getClass
  | .namespacesForClass _ => .namespacesForClass
  | .replaceClass _ => .replaceClass
  | .replaceClassStatus _ => .replaceClassStatus
  | .getObject .. => .getObject
  | .createObject .. => .createObject
  | .replaceObject .. => .replaceObject
  | .deleteObject .. => .deleteObject

/-- The name of what the call is about; for a list, the class's. -/
def subject : StoreCall → String
  | .getNamespace name | .getClass name | .namespacesForClass name => name
  | .replaceClass c | .replaceClassStatus c => c.nameAny
  | .getObject _ _ name | .deleteObject _ _ name => name
  | .createObject _ o | .replaceObject _ o => o.nameAny

/-- The namespace of the object that the call is about, empty for calls without one. -/
def subjectNamespace : StoreCall → String
  | .getObject _ ns _ | .deleteObject _ ns _ => ns
  | .createObject _ o | .replaceObject _ o => o.namespaceName
  | _ => ""

/-- The call writes or deletes an object. -/
def writesObject : StoreCall → Bool
  | .createObject .. | .replaceObject .. | .deleteObject .. => true
  | _ => false

end StoreCall

/-! ## Faults -/

/-- An error that calls are answered with: which calls, how many of them are spared first,
and how many are hit after that, all of them where no number is given. -/
structure Fault where
  /-- The kind of the calls, or none for all calls. -/
  call : Option CallKind
  name : Option String := none
  namespaceName : Option String := none
  skip : Nat := 0
  times : Option Nat := none
  error : StoreError

namespace Fault

def applies (f : Fault) (c : StoreCall) : Bool :=
  f.call.all (· == c.kind) && f.name.all (· == c.subject) &&
    f.namespaceName.all (· == c.subjectNamespace)

/-- The faults that refuse every write to the objects of some names. -/
def refusing (error : String → StoreError) (names : List String) : List Fault :=
  names.flatMap fun name =>
    [CallKind.createObject, .replaceObject, .deleteObject].map fun call =>
      { call := some call, name := some name, error := error name }

/-- The error of the first fault that hits a call, and the faults as they are afterwards. -/
def take (c : StoreCall) : List Fault → Option StoreError × List Fault
  | [] => (none, [])
  | f :: rest =>
    if f.times = some 0 ∨ !f.applies c then
      let (e, rest) := take c rest
      (e, f :: rest)
    else if 0 < f.skip then
      let (e, rest) := take c rest
      (e, { f with skip := f.skip - 1 } :: rest)
    else (some f.error, { f with times := f.times.map (· - 1) } :: rest)

/-- The error of the faults that refuse writes: they hit the writes to objects of their names,
and no number of hits uses them up. -/
theorem take_refusing (error : String → StoreError) (names : List String) (c : StoreCall) :
    take c (refusing error names) =
      (if c.writesObject ∧ c.subject ∈ names then some (error c.subject) else none,
        refusing error names) := by
  induction names with
  | nil => simp [refusing, take]
  | cons name rest ih =>
    rw [refusing, List.flatMap_cons, ← refusing]
    cases c <;>
      simp [take, applies, StoreCall.kind, StoreCall.subject, StoreCall.writesObject, ih] <;>
      grind

end Fault

/-! ## Runs -/

/-- A call with its result; none where the run was cancelled at it. -/
structure CallRecord where
  call : StoreCall
  result : Option call.Result

/-- A cluster, the faults that lie in wait, and what has happened since the last step. -/
structure Simulation where
  cluster : Cluster := {}
  faults : List Fault := []
  calls : List CallRecord := []
  warnings : List Warning := []

namespace Simulation

/-- Answers a call: by a fault if one hits it, else by the cluster. -/
def answer (s : Simulation) (c : StoreCall) : c.Result × Simulation :=
  let (fault, faults) := Fault.take c s.faults
  let (result, cluster) : c.Result × Cluster :=
    match fault with
    | some e => (.error e, s.cluster)
    | none => s.cluster.perform c
  (result, { s with cluster, faults, calls := s.calls ++ [⟨c, some result⟩] })

/-- Runs an action to its end. -/
def run (s : Simulation) : Action α → α × Simulation
  | .done a => (a, s)
  | .ask (.warn w) next => run { s with warnings := s.warnings ++ [w] } (next ())
  | .ask (.call c) next =>
    let (result, s) := s.answer c
    run s (next result)

/-- Runs an action up to its call after the first `limit` ones, at which it is cancelled. -/
def runFirst (s : Simulation) (limit : Nat) : Action α → Option α × Simulation
  | .done a => (some a, s)
  | .ask (.warn w) next => runFirst { s with warnings := s.warnings ++ [w] } limit (next ())
  | .ask (.call c) next =>
    match limit with
    | 0 => (none, { s with calls := s.calls ++ [⟨c, none⟩] })
    | limit + 1 =>
      let (result, s) := s.answer c
      runFirst s limit (next result)

variable {α β : Type}

@[simp] theorem run_pure (s : Simulation) (a : α) : s.run (pure a) = (a, s) := rfl

@[simp] theorem run_warn (s : Simulation) (w : Warning) :
    s.run (Action.warn w) = ((), { s with warnings := s.warnings ++ [w] }) := rfl

@[simp] theorem run_call (s : Simulation) (c : StoreCall) :
    s.run (Action.call c) = s.answer c := rfl

/-- Two actions are run one after the other. -/
theorem run_bind (s : Simulation) (a : Action α) (f : α → Action β) :
    s.run (a >>= f) = (s.run a).2.run (f (s.run a).1) := by
  induction a generalizing s with
  | done a => rfl
  | ask q next ih => cases q with
    | call c => exact ih _ _
    | warn w => exact ih _ _

/-- When a reconcile is cancelled: never, before its first call, or at the call after a
number of them. -/
inductive Cancellation where
  | never
  | beforeAll
  | afterFirst (calls : Nat)

/-- Reconciles a key. -/
def reconcile (s : Simulation) (key : Key) : Cancellation → ReconcileResult × Simulation
  | .never => s.run (ClassReconciler.reconcile key).run
  | .beforeAll => (.error .cancelled, s)
  | .afterFirst calls =>
    let (result?, s) := s.runFirst calls (ClassReconciler.reconcile key).run
    (result?.getD (.error .cancelled), s)

/-- Reconciles a key under a controller, which may be shutting down. -/
def control (s : Simulation) (c : Controller) (key : Key) (elapsed : Duration) :
    ReconcileResult × NextAttempt × Simulation × Controller :=
  let (result, s) := s.reconcile key (if c.shutdown.cancels then .beforeAll else .never)
  let (next, c) := c.finish key result elapsed
  (result, next, s, c)

end Simulation

end ClassReconciler
