import ClassReconciler.Proofs.Interleaving
import ClassReconciler.Proofs.ObjectWork

/-!
# Traces

What has become of a cluster, with the calls and the warnings that led there. `FateRule.Traces` is
what an answer does to a trace, so that `Dialogue.Ensures` over traces speaks of the result of an
action, of its calls and of its warnings at once.

What is known of the cluster alone, of the calls alone or of the questions alone is known of
traces: `ensures_traces_of_cluster`, `ensures_traces_of_among` and `ensures_traces_of_asks` lift
it. Runs under a schedule and runs of the simulation that refuse names are traces
(`ScheduledRun.run_traces`, `Simulation.run_traces`).
-/

namespace ClassReconciler

/-- A cluster, the calls that led to it and the warnings that were sent on the way. -/
structure Trace where
  cluster : Cluster
  calls : List ScheduledCall := []
  warnings : List Warning := []

namespace Trace

/-- A call meets a fate. -/
def meet (t : Trace) (c : StoreCall) (f : Fate) : Trace :=
  { t with cluster := (t.cluster.meet c f).2, calls := t.calls ++ [⟨t.cluster, c, f⟩] }

/-- A warning is sent. -/
def warn (t : Trace) (w : Warning) : Trace := { t with warnings := t.warnings ++ [w] }

@[simp] theorem calls_meet (t : Trace) (c : StoreCall) (f : Fate) :
    (t.meet c f).calls = t.calls ++ [⟨t.cluster, c, f⟩] := rfl

@[simp] theorem warnings_meet (t : Trace) (c : StoreCall) (f : Fate) :
    (t.meet c f).warnings = t.warnings := rfl

/-- The present cluster came about after every call. -/
structure Sound (t : Trace) : Prop where
  reachable : t.cluster.Reachable
  later : ∀ d ∈ t.calls, d.after.Later t.cluster

theorem Sound.meet {t : Trace} (h : t.Sound) (c : StoreCall) (f : Fate) : (t.meet c f).Sound where
  reachable := (t.cluster.leadsTo_meet c f).reachable h.reachable
  later d hd := by
    rcases List.mem_append.1 hd with hd | hd
    · exact (h.later d hd).trans (t.cluster.later_meet c f)
    · rw [List.mem_singleton.1 hd]
      exact .refl _

end Trace

/-- A call is answered by what a fate makes of it, and both are on the trace afterwards. -/
def FateRule.Traces (rule : FateRule) (t : Trace) : (e : Effect) → e.Answer → Trace → Prop
  | .call c, a, t' => ∃ f, rule c f ∧ (t.cluster.meet c f).1 = a ∧ t' = t.meet c f
  | .warn w, _, t' => t' = t.warn w

section Courses

variable {rule : FateRule} {asks : Trace → Effect → Prop} {α : Type}

/-! ## Calls and warnings -/

theorem ensures_call_traces (c : StoreCall) (t : Trace) (post : c.Result → Trace → Prop) :
    (Action.call c).Ensures rule.Traces asks t post ↔
      asks t (.call c) ∧ ∀ f, rule c f → post (t.cluster.meet c f).1 (t.meet c f) := by
  refine and_congr Iff.rfl ⟨fun h f hf => h _ _ ⟨f, hf, rfl, rfl⟩, ?_⟩
  rintro h _ _ ⟨f, hf, rfl, rfl⟩
  exact h f hf

theorem ensures_callOrFail_traces (c : StoreCall) (t : Trace)
    (post : Except ReconcileError c.Answer → Trace → Prop) :
    (callOrFail c).run.Ensures rule.Traces asks t post ↔ asks t (.call c) ∧
      ∀ f, rule c f → post ((t.cluster.meet c f).1.mapError .store) (t.meet c f) :=
  (Dialogue.ensures_bind (Action.call c) _ t post).trans (ensures_call_traces c t _)

/-! ## What is known of parts -/

/-- What a dialogue ensures of a part of the state, it ensures of the whole, if every answer does
to the part what it may. -/
theorem Dialogue.Ensures.lift {σ τ : Type} {answers : σ → (e : Effect) → e.Answer → σ → Prop}
    {answers' : τ → (e : Effect) → e.Answer → τ → Prop} {asks : σ → Effect → Prop} {a : Action α}
    {t : τ} {post : α → σ → Prop} (part : τ → σ) (inv : τ → Prop)
    (h : a.Ensures answers asks (part t) post) (ht : inv t)
    (hstep : ∀ t e x t', inv t → answers' t e x t' → answers (part t) e x (part t') ∧ inv t') :
    a.Ensures answers' (fun t => asks (part t)) t fun x t' => inv t' ∧ post x (part t') := by
  induction a generalizing t with
  | done a => exact ⟨ht, h⟩
  | ask e next ih =>
    refine ⟨h.1, fun x t' hanswer => ?_⟩
    obtain ⟨hpart, ht'⟩ := hstep t e x t' ht hanswer
    exact ih x (h.2 x (part t') hpart) ht'

variable (rule) in
/-- What an action ensures of the cluster, it ensures of the cluster of a trace. -/
theorem ensures_traces_of_cluster {asks' : Cluster → Effect → Prop} {a : Action α} {t : Trace}
    {post : α → Cluster → Prop} (h : a.Ensures rule.Answers asks' t.cluster post) :
    a.Ensures rule.Traces (fun t => asks' t.cluster) t fun x t' => post x t'.cluster := by
  refine (h.lift Trace.cluster (fun _ => True) trivial ?_).imp fun _ _ h => h.2
  rintro t e x t' - hanswer
  cases e with
  | warn w =>
    obtain rfl : t' = t.warn w := hanswer
    exact ⟨rfl, trivial⟩
  | call c =>
    obtain ⟨f, hf, rfl, rfl⟩ := hanswer
    exact ⟨⟨f, hf, rfl⟩, trivial⟩

variable (rule) in
/-- What an action ensures of its calls among others, it ensures of the calls of a trace. -/
theorem ensures_traces_of_among {asks' : List ScheduledCall → Effect → Prop} {a : Action α}
    {t : Trace} {post : α → List ScheduledCall → Prop} (ht : t.Sound)
    (h : a.Ensures (AnswersAmong fun _ => True) asks' t.calls post) :
    a.Ensures rule.Traces (fun t => asks' t.calls) t fun x t' => t'.Sound ∧ post x t'.calls := by
  refine h.lift Trace.calls Trace.Sound ht ?_
  rintro t e x t' ht hanswer
  cases e with
  | warn w =>
    obtain rfl : t' = t.warn w := hanswer
    exact ⟨rfl, ht.reachable, ht.later⟩
  | call c =>
    obtain ⟨f, -, rfl, rfl⟩ := hanswer
    exact ⟨⟨t.cluster, f, trivial, ⟨ht.reachable, ht.later⟩, rfl, rfl⟩, ht.meet c f⟩

/-- The trace goes on from another one with effects that satisfy `k`. -/
structure Trace.Extends (k : Effect → Prop) (t t' : Trace) : Prop where
  calls : ∃ more, t'.calls = t.calls ++ more ∧ ∀ d ∈ more, k (.call d.call)
  warnings : ∃ more, t'.warnings = t.warnings ++ more ∧ ∀ w ∈ more, k (.warn w)

theorem Trace.Extends.refl (k : Effect → Prop) (t : Trace) : t.Extends k t :=
  ⟨⟨[], by simp, by simp⟩, [], by simp, by simp⟩

/-- What all questions of an action have in common is known of its effects. -/
theorem ensures_traces_of_asks {k : Effect → Prop} {a : Action α} (ha : a.Asks k) (t : Trace) :
    a.Ensures rule.Traces (fun _ _ => True) t fun _ t' => t.Extends k t' := by
  refine .of_asks (t.Extends k) ha (.refl k t) (fun _ _ _ _ => trivial) ?_
  rintro t₁ e x t₂ he ⟨⟨calls, hcalls, hk⟩, warnings, hwarnings, hk'⟩ hanswer
  cases e with
  | warn w =>
    obtain rfl : t₂ = t₁.warn w := hanswer
    refine ⟨⟨calls, hcalls, hk⟩, warnings ++ [w], ?_, ?_⟩
    · rw [Trace.warn, hwarnings, List.append_assoc]
    · simpa [or_imp, forall_and] using ⟨hk', he⟩
  | call c =>
    obtain ⟨f, -, -, rfl⟩ := hanswer
    refine ⟨⟨calls ++ [⟨t₁.cluster, c, f⟩], ?_, ?_⟩, warnings, hwarnings, hk'⟩
    · rw [Trace.calls_meet, hcalls, List.append_assoc]
    · rw [List.forall_mem_append, List.forall_mem_singleton]
      exact ⟨hk, he⟩

end Courses

/-! ## Runs -/

section Runs

variable {rule : FateRule} {asks : Trace → Effect → Prop} {α : Type}

/-- What a run has led to. -/
def ScheduledRun.trace (r : ScheduledRun) : Trace := ⟨r.cluster, r.calls, r.warnings⟩

/-- What an action ensures under the fates of a rule holds at the end of its run under a schedule
with these fates. -/
theorem ScheduledRun.run_traces {a : Action α} {r : ScheduledRun} {post : α → Trace → Prop}
    (hserved : ∀ c, rule c .served) (hfates : ∀ f ∈ r.fates, ∀ c, rule c f)
    (h : a.Ensures rule.Traces asks r.trace post) : post (r.run a).1 (r.run a).2.trace := by
  induction a generalizing r with
  | done a => exact h
  | ask q next ih => cases q with
    | warn w => exact ih () hfates (h.2 () (r.trace.warn w) rfl)
    | call c =>
      have hrule : rule c (r.fates.headD .served) := by
        cases hf : r.fates with
        | nil => exact hserved c
        | cons f rest => exact hfates f (by simp [hf]) c
      exact ih _ (fun f hf => hfates f (List.mem_of_mem_tail hf))
        (h.2 _ (r.trace.meet c (r.fates.headD .served)) ⟨_, hrule, rfl, rfl⟩)

/-- What an action ensures where names are refused holds at the end of its run in a simulation that
refuses them. -/
theorem Simulation.run_traces {error : String → StoreError} {names : List String}
    {s : Simulation} (hs : s.faults = Fault.refusing error names) {a : Action α}
    {calls : List ScheduledCall} {post : α → Trace → Prop}
    (h : a.Ensures (FateRule.refusing error names).Traces asks ⟨s.cluster, calls, s.warnings⟩
      post) : ∃ calls', post (s.run a).1 ⟨(s.run a).2.cluster, calls', (s.run a).2.warnings⟩ := by
  induction a generalizing s calls with
  | done a => exact ⟨calls, h⟩
  | ask q next ih => cases q with
    | warn w => exact ih (s := { s with warnings := s.warnings ++ [w] }) () hs (h.2 () _ rfl)
    | call c =>
      obtain ⟨hresult, hcluster, hfaults⟩ := Simulation.answer_refusing hs c
      let t' := Trace.meet ⟨s.cluster, calls, s.warnings⟩ c (FateRule.refusal error names c)
      have hstep : ⟨(s.answer c).2.cluster, t'.calls, s.warnings⟩ = t' := by
        rw [hcluster]
        rfl
      exact ih _ hfaults (h.2 (s.answer c).1 _ ⟨_, rfl, hresult.symm, hstep⟩)

end Runs

end ClassReconciler
