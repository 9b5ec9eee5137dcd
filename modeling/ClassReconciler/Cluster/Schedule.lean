import ClassReconciler.Cluster.Cluster

/-!
# Schedules

What can become of the calls of an action on a cluster: a call is served, fails without
effect, or is lost, which means that it takes effect and fails all the same, as a request does
that times out after the server has executed it. A schedule gives the calls their fates in
order; calls behind its end are served.

`ScheduledRun.run` runs an action under a schedule and records every call with the cluster
that it met. It runs two actions one after the other (`run_bind`), so that a statement about
all schedules is proved call by call.
-/

namespace ClassReconciler

/-- What becomes of a call. -/
inductive Fate where
  | served
  | refused (error : StoreError)
  | lost (error : StoreError)
deriving DecidableEq

/-- The call fails where it has an effect. -/
def Fate.IsLost : Fate → Prop
  | .lost _ => True
  | _ => False

/-- The answer to a call that meets its fate, and the cluster after it. -/
def Cluster.meet (s : Cluster) (c : StoreCall) : Fate → c.Result × Cluster
  | .served => s.perform c
  | .refused e => (.error e, s)
  | .lost e => (.error e, (s.perform c).2)

/-- A call with the cluster that it met and its fate there. -/
structure ScheduledCall where
  met : Cluster
  call : StoreCall
  fate : Fate

/-- The call was served without an error. -/
def ScheduledCall.Succeeded (r : ScheduledCall) : Prop :=
  r.fate = .served ∧ ∃ a, (r.met.perform r.call).1 = .ok a

/-- A cluster, the fates that are left, and what has happened so far. -/
structure ScheduledRun where
  cluster : Cluster
  fates : List Fate := []
  calls : List ScheduledCall := []
  warnings : List Warning := []

namespace ScheduledRun

/-- Answers a call and records it. -/
def call (r : ScheduledRun) (c : StoreCall) : c.Result × ScheduledRun :=
  let fate := r.fates.headD .served
  let (result, cluster) := r.cluster.meet c fate
  (result, { r with
    cluster
    fates := r.fates.tail
    calls := r.calls ++ [⟨r.cluster, c, fate⟩] })

/-- Runs an action. -/
def run (r : ScheduledRun) : Action α → α × ScheduledRun
  | .done a => (a, r)
  | .ask (.warn w) next => run { r with warnings := r.warnings ++ [w] } (next ())
  | .ask (.call c) next => run (r.call c).2 (next (r.call c).1)

variable {α β : Type}

@[simp] theorem run_pure (r : ScheduledRun) (a : α) : r.run (pure a) = (a, r) := rfl

@[simp] theorem run_warn (r : ScheduledRun) (w : Warning) :
    r.run (Action.warn w) = ((), { r with warnings := r.warnings ++ [w] }) := rfl

@[simp] theorem run_call (r : ScheduledRun) (c : StoreCall) :
    r.run (Action.call c) = r.call c := rfl

/-- Two actions are run one after the other. -/
theorem run_bind (r : ScheduledRun) (a : Action α) (f : α → Action β) :
    r.run (a >>= f) = (r.run a).2.run (f (r.run a).1) := by
  induction a generalizing r with
  | done a => rfl
  | ask q next ih => cases q with
    | call c => exact ih _ _
    | warn w => exact ih _ _

end ScheduledRun

end ClassReconciler
