import ClassReconciler.Cluster.Schedule

/-!
# Shared clusters

Jobs that are done at the same time on one cluster, among clients who write to it. A job is an
action, and between two of its calls any others may make theirs. A `Turn` is what happens next:
a job is started, a task goes on by one call or warning, or a client writes. Every order of
turns is a possible one, so that a list of them is an interleaving, and a job that gets no
further turn is one that was cancelled.

`SharedCluster.run` takes turns and keeps a log of the calls, each with the task that made it and
the cluster that it met.
-/

namespace ClassReconciler

/-! ## Clients -/

/-- What a client who is no task does to a cluster. -/
inductive ClientWrite where
  | putNamespace (ns : Namespace)
  | putClass (c : NamespaceClass)
  | putObject (o : Manifest) (namespaceName : String)
  | deleteNamespace (name : String)
  | deleteClass (name : String)
  | editClass (name : String) (edit : NamespaceClass → NamespaceClass)
    (keepsName : ∀ c, (edit c).nameAny = c.nameAny)
  | request (c : StoreCall)

namespace ClientWrite

/-- The cluster after a write. An edit of a class that is not there changes nothing. -/
def apply (s : Cluster) : ClientWrite → Cluster
  | putNamespace ns => s.putNamespace ns
  | putClass c => s.putClass c
  | putObject o namespaceName => s.putObject o namespaceName
  | deleteNamespace name => (s.deleteNamespace name).2
  | deleteClass name => (s.deleteClass name).2
  | editClass name edit _ => (s.editClass name edit).getD s
  | request c => (s.perform c).2

/-- The class that is written. -/
def className? : ClientWrite → Option String
  | putClass c | request (.replaceClass c) | request (.replaceClassStatus c) => some c.nameAny
  | deleteClass name | editClass name .. => some name
  | _ => none

/-- A class is marked for deletion. -/
def markDeleted (name : String) : ClientWrite :=
  let time := some Cluster.deletionTime
  .editClass name (fun c => { c with metadata := { c.metadata with deletionTimestamp := time } })
    fun _ => rfl

end ClientWrite

/-! ## Tasks -/

/-- The cluster after a call that has met its fate. -/
def ScheduledCall.after (r : ScheduledCall) : Cluster := (r.met.meet r.call r.fate).2

/-- A call with the task that made it. -/
structure TaskCall extends ScheduledCall where
  task : Nat

/-- The calls of a task. -/
def callsOf (log : List TaskCall) (i : Nat) : List ScheduledCall :=
  (log.filter (·.task = i)).map TaskCall.toScheduledCall

/-- A job under way, and what is yet to be done of it. -/
structure Task (J α : Type) where
  job : J
  rest : Action α

/-- How an action has ended; none if it has not. -/
def Action.result? {α : Type} : Action α → Option α
  | .done a => some a
  | .ask .. => none

/-- What happens next. A call of a task meets a fate. -/
inductive Turn (J : Type) where
  | start (job : J)
  | advance (task : Nat) (fate : Fate)
  | write (w : ClientWrite)

/-- A cluster with the tasks at work on it, in the order in which they were started, and the
calls they have made. -/
structure SharedCluster (J α : Type) where
  cluster : Cluster
  tasks : List (Task J α) := []
  log : List TaskCall := []

namespace SharedCluster

variable {J α : Type} (work : J → Action α)

def job? (s : SharedCluster J α) (i : Nat) : Option J := s.tasks[i]?.map Task.job

def result? (s : SharedCluster J α) (i : Nat) : Option α := s.tasks[i]?.bind (·.rest.result?)

/-- A task goes on by one call or warning, if it is not done. -/
def advance (s : SharedCluster J α) (i : Nat) (fate : Fate) : SharedCluster J α :=
  match s.tasks[i]? with
  | none => s
  | some ⟨_, .done _⟩ => s
  | some ⟨job, .ask (.warn _) next⟩ => { s with tasks := s.tasks.set i ⟨job, next ()⟩ }
  | some ⟨job, .ask (.call c) next⟩ =>
    { cluster := (s.cluster.meet c fate).2
      tasks := s.tasks.set i ⟨job, next (s.cluster.meet c fate).1⟩
      log := s.log ++ [{ met := s.cluster, call := c, fate, task := i }] }

def step (s : SharedCluster J α) : Turn J → SharedCluster J α
  | .start job => { s with tasks := s.tasks ++ [⟨job, work job⟩] }
  | .advance i fate => s.advance i fate
  | .write w => { s with cluster := w.apply s.cluster }

/-- Takes turns. -/
def run (s : SharedCluster J α) (turns : List (Turn J)) : SharedCluster J α :=
  turns.foldl (step work) s

variable {work}

theorem run_append (s : SharedCluster J α) (turns turns' : List (Turn J)) :
    s.run work (turns ++ turns') = (s.run work turns).run work turns' :=
  List.foldl_append

end SharedCluster

end ClassReconciler
