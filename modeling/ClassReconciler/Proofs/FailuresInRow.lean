import Mathlib.Algebra.Order.Ring.Nat
import Mathlib.Data.List.Induction
import ClassReconciler.Controller.Controller

/-!
# Failures in a row

What the retries keep for a key is the number of its failures since it last succeeded, as far as
a word can count (`Retries.count_afterEach`), and what follows a reconcile is read off that number
(`Controller.finish_fst`). Both are said of runs: of any calls to the retries, and of any reconciles
that come back to a controller, of whatever keys and in whatever order. As the number is one of the
key's own, a run answers the reconciles of a key as if there were no others
(`Controller.nextsOf_finishEach`).
-/

namespace ClassReconciler

/-! ## What comes last -/

section InRow

variable {α β : Type} (own failing : α → Bool)

/-- How many of the own items failed since the last one that did not, or since the start. -/
def inRow (items : List α) : Nat := ((items.filter own).reverse.takeWhile failing).length

@[simp] theorem inRow_nil : inRow own failing [] = 0 := rfl

theorem inRow_append_singleton (items : List α) (a : α) : inRow own failing (items ++ [a]) =
    if own a then if failing a then inRow own failing items + 1 else 0
    else inRow own failing items := by
  rw [inRow, inRow, List.filter_append]
  cases hown : own a with
  | false => simp [hown]
  | true => cases hfailing : failing a <;> simp [hown, hfailing]

theorem inRow_map (f : β → α) (items : List β) :
    inRow own failing (items.map f) = inRow (own ∘ f) (failing ∘ f) items := by
  rw [inRow, inRow, List.filter_map, ← List.map_reverse, List.takeWhile_map, List.length_map]

end InRow

/-! ## Calls to the retries -/

/-- What is asked of the retries. -/
inductive RetryCall where
  | fail (key : Key)
  | reset (key : Key)

namespace RetryCall

def key : RetryCall → Key
  | .fail key | .reset key => key

def fails : RetryCall → Bool
  | .fail _ => true
  | .reset _ => false

end RetryCall

namespace Retries

/-- The retries after a call. -/
def after (r : Retries) : RetryCall → Retries
  | .fail key => (r.fail key).2
  | .reset key => r.reset key

/-- The retries after some calls, one after the other. -/
def afterEach (r : Retries) (calls : List RetryCall) : Retries := calls.foldl after r

theorem backoff_after (r : Retries) (call : RetryCall) : (r.after call).backoff = r.backoff := by
  cases call <;> rfl

/-- A call changes the count of its key only. -/
theorem count_after (r : Retries) (call : RetryCall) (key : Key) : (r.after call).count key =
    if call.key = key then if call.fails then min (r.count key + 1) mostFailures else 0
    else r.count key := by
  cases call with
  | fail failed =>
    simp only [after, fail, count, SortedMap.find?_insert, RetryCall.key, RetryCall.fails]
    by_cases h : failed = key
    · simp [h]
    · simp [h, Ne.symm h]
  | reset forgotten =>
    simp only [after, reset, count, SortedMap.find?_erase, RetryCall.key, RetryCall.fails]
    by_cases h : forgotten = key
    · simp [h]
    · simp [h, Ne.symm h]

theorem backoff_afterEach (r : Retries) (calls : List RetryCall) :
    (r.afterEach calls).backoff = r.backoff := by
  induction calls generalizing r with
  | nil => rfl
  | cons call rest ih => exact (ih (r.after call)).trans (r.backoff_after call)

/-- The count of a key is the number of its failures in a row. -/
theorem count_afterEach (b : Backoff) (calls : List RetryCall) (key : Key) :
    ((⟨b, .empty⟩ : Retries).afterEach calls).count key =
      min mostFailures (inRow (·.key = key) RetryCall.fails calls) := by
  induction calls using List.reverseRecOn with
  | nil => rfl
  | append_singleton past call ih =>
    rw [afterEach, List.foldl_append, List.foldl_cons, List.foldl_nil, ← afterEach, count_after,
      inRow_append_singleton, ih]
    by_cases hkey : call.key = key
    · cases hfails : call.fails
      · simp [hkey]
      · simp only [hkey, if_true, decide_true]
        omega
    · simp [hkey]

/-- A failure is answered with its number in the row and the delay for that number. -/
theorem fail_afterEach (b : Backoff) (calls : List RetryCall) (key : Key) :
    let n := min mostFailures (inRow (·.key = key) RetryCall.fails (calls ++ [.fail key]))
    (((⟨b, .empty⟩ : Retries).afterEach calls).fail key).1 = (n, b.delay n) := by
  have hrow : inRow (·.key = key) RetryCall.fails (calls ++ [.fail key]) =
      inRow (·.key = key) RetryCall.fails calls + 1 := by
    rw [inRow_append_singleton]
    simp [RetryCall.key, RetryCall.fails]
  have hcount : min (min mostFailures (inRow (·.key = key) RetryCall.fails calls) + 1)
      mostFailures = min mostFailures (inRow (·.key = key) RetryCall.fails calls + 1) := by
    omega
  rw [fail, count_afterEach, backoff_afterEach, hcount, ← hrow]

end Retries

/-! ## Reconciles that come back -/

/-- A reconcile that has come back: its key, how it ended and how long it took. -/
structure FinishedReconcile where
  key : Key
  result : ReconcileResult
  elapsed : Duration

namespace FinishedReconcile

def failed (f : FinishedReconcile) : Bool :=
  match f.result with
  | .ok _ => false
  | .error _ => true

/-- What is asked of the retries. -/
def retryCall (f : FinishedReconcile) : RetryCall := if f.failed then .fail f.key else .reset f.key

theorem key_retryCall (f : FinishedReconcile) : f.retryCall.key = f.key := by
  rw [retryCall]
  split <;> rfl

theorem fails_retryCall (f : FinishedReconcile) : f.retryCall.fails = f.failed := by
  rw [retryCall]
  cases f.failed <;> rfl

theorem inRow_retryCall (fs : List FinishedReconcile) (key : Key) :
    inRow (·.key = key) RetryCall.fails (fs.map retryCall) = inRow (·.key = key) failed fs := by
  rw [inRow_map]
  congr 1
  · funext f
    simp [key_retryCall]
  · funext f
    exact f.fails_retryCall

end FinishedReconcile

namespace Controller

variable (c : Controller) (f : FinishedReconcile)

/-- What follows a reconcile is read off the failures that are counted for its key. -/
theorem finish_fst : (c.finish f.key f.result f.elapsed).1 =
    match f.result with
    | .ok _ => .awaitChange
    | .error _ => .requeue (c.retries.fail f.key).1.2 := by
  obtain ⟨key, result, elapsed⟩ := f
  cases result <;> rfl

theorem retries_finish :
    (c.finish f.key f.result f.elapsed).2.retries = c.retries.after f.retryCall := by
  obtain ⟨key, result, elapsed⟩ := f
  cases result <;> rfl

/-- What follows some reconciles, one after the other, and the controller after them. -/
def finishEach (c : Controller) : List FinishedReconcile → List NextAttempt × Controller
  | [] => ([], c)
  | f :: rest =>
    let (next, c) := c.finish f.key f.result f.elapsed
    let (nexts, c) := c.finishEach rest
    (next :: nexts, c)

theorem retries_finishEach (fs : List FinishedReconcile) :
    (c.finishEach fs).2.retries = c.retries.afterEach (fs.map FinishedReconcile.retryCall) := by
  induction fs generalizing c with
  | nil => rfl
  | cons f rest ih =>
    rw [List.map_cons, Retries.afterEach, List.foldl_cons, ← retries_finish]
    exact ih _

theorem length_finishEach (fs : List FinishedReconcile) :
    (c.finishEach fs).1.length = fs.length := by
  induction fs generalizing c with
  | nil => rfl
  | cons f rest ih => exact congrArg (· + 1) (ih _)

theorem finishEach_append (past future : List FinishedReconcile) :
    (c.finishEach (past ++ future)).1 =
      (c.finishEach past).1 ++ ((c.finishEach past).2.finishEach future).1 := by
  induction past generalizing c with
  | nil => rfl
  | cons f rest ih => exact congrArg (List.cons _) (ih _)

/-- What follows a reconcile in a run. -/
theorem getElem?_finishEach (past future : List FinishedReconcile) :
    (c.finishEach (past ++ f :: future)).1[past.length]? =
      some ((c.finishEach past).2.finish f.key f.result f.elapsed).1 := by
  rw [finishEach_append, List.getElem?_append_right (Nat.le_of_eq (c.length_finishEach past)),
    c.length_finishEach, Nat.sub_self]
  rfl

/-- What follows the reconciles of a key. -/
def nextsOf (key : Key) (fs : List FinishedReconcile) (nexts : List NextAttempt) :
    List NextAttempt :=
  ((fs.zip nexts).filter (·.1.key = key)).map Prod.snd

/-- The reconciles of a key are followed by what would follow them alone. -/
theorem nextsOf_finishEach (key : Key) (fs : List FinishedReconcile) {c c' : Controller}
    (hbackoff : c.retries.backoff = c'.retries.backoff)
    (hcount : c.retries.count key = c'.retries.count key) :
    nextsOf key fs (c.finishEach fs).1 = (c'.finishEach (fs.filter (·.key = key))).1 := by
  induction fs generalizing c c' with
  | nil => rfl
  | cons f rest ih =>
    have hnext : (c.finish f.key f.result f.elapsed).2.retries.backoff = c'.retries.backoff := by
      rw [retries_finish, Retries.backoff_after, hbackoff]
    rw [finishEach, nextsOf, List.zip_cons_cons, List.filter_cons, List.filter_cons]
    by_cases hkey : f.key = key
    · have hfirst : (c.finish f.key f.result f.elapsed).1 =
          (c'.finish f.key f.result f.elapsed).1 := by
        rw [finish_fst, finish_fst, Retries.fail, Retries.fail, hbackoff, hkey, hcount]
      rw [if_pos (by simpa using hkey), if_pos (by simpa using hkey), finishEach, List.map_cons,
        hfirst]
      refine congrArg (List.cons _) (ih ?_ ?_)
      · rw [hnext, retries_finish, Retries.backoff_after]
      · rw [retries_finish, retries_finish, Retries.count_after, Retries.count_after, hcount]
    · rw [if_neg (by simpa using hkey), if_neg (by simpa using hkey)]
      refine ih hnext ?_
      rw [retries_finish, Retries.count_after, FinishedReconcile.key_retryCall, if_neg hkey, hcount]

end Controller

/-- In every run of a controller that starts without failures, a success awaits a change, and a
failure is tried again after the delay for the number of failures of its key in a row, counted up
to the largest word. So what follows the reconciles of a key is what would follow them alone, and a
namespace and a class of one name are counted apart. The retries keep to the same count whatever
calls are made to them. -/
theorem delays_count_own_failures (b : Backoff) (metrics : Metrics) (shutdown : ShutdownSignal)
    (fs : List FinishedReconcile) :
    let c : Controller := { retries := ⟨b, .empty⟩, metrics, shutdown }
    let nexts := (c.finishEach fs).1
    nexts.length = fs.length ∧
    (∀ past f future, fs = past ++ f :: future → nexts[past.length]? = some
      (match f.result with
      | .ok _ => .awaitChange
      | .error _ => .requeue <| b.delay <| min (2 ^ 32 - 1) <|
          inRow (·.key = f.key) FinishedReconcile.failed (past ++ [f]))) ∧
    (∀ key, Controller.nextsOf key fs nexts = (c.finishEach (fs.filter (·.key = key))).1) ∧
    (∀ name, Key.ofNamespace name ≠ Key.ofClass name) ∧
    ∀ (calls : List RetryCall) (key : Key),
      let n := min (2 ^ 32 - 1) (inRow (·.key = key) RetryCall.fails (calls ++ [.fail key]))
      (((⟨b, .empty⟩ : Retries).afterEach calls).fail key).1 = (n, b.delay n) := by
  intro c nexts
  refine ⟨c.length_finishEach fs, fun past f future hfs => ?_, fun key => ?_, fun name => ?_,
    Retries.fail_afterEach b⟩
  · subst hfs
    refine (c.getElem?_finishEach f past future).trans ?_
    rw [Controller.finish_fst]
    cases hresult : f.result with
    | ok _ => rfl
    | error e =>
      have hcall : f.retryCall = .fail f.key := by
        rw [FinishedReconcile.retryCall, FinishedReconcile.failed, hresult]
        rfl
      rw [c.retries_finishEach, Retries.fail_afterEach, ← FinishedReconcile.inRow_retryCall,
        List.map_append, List.map_singleton, hcall]
      rfl
  · exact Controller.nextsOf_finishEach key fs rfl rfl
  · exact fun h => by cases h

/-- A namespace fails for the second time in a row after a class of the same name has failed and
has succeeded. -/
theorem delays_count_own_failures_sample :
    let b : Backoff := ⟨.ofMillis 500, .ofMillis 60000⟩
    let c : Controller := { retries := ⟨b, .empty⟩ }
    let failed (key : Key) : FinishedReconcile := ⟨key, .error (.store .timeout), .zero⟩
    let past := [failed (.ofNamespace "gold"), failed (.ofClass "gold"),
      ⟨.ofClass "gold", .ok (.orphaned 0), .zero⟩]
    let f := failed (.ofNamespace "gold")
    let fs := past ++ f :: [failed (.ofClass "gold")]
    fs = past ++ f :: [failed (.ofClass "gold")] ∧
      (c.finishEach fs).1[3]? = some (.requeue (b.delay 2)) ∧ b.delay 2 = .ofMillis 1000 := by
  intro b c failed past f fs
  have hfs : fs = past ++ f :: [failed (.ofClass "gold")] := rfl
  obtain ⟨-, hnexts, -⟩ := delays_count_own_failures b {} {} fs
  exact ⟨hfs, (hnexts past f _ hfs).trans (by decide +kernel), by decide +kernel⟩

end ClassReconciler
