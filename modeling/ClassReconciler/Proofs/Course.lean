import ClassReconciler.Cluster.Schedule
import ClassReconciler.Cluster.Simulation

/-!
# What holds on every course of an action

`Dialogue.Ensures` says that along every course of a dialogue, started in some state, each
question is one that may be asked in the state it meets, and the end is as wanted. What an
answer does to the state is a parameter. `ensures_bind` takes two dialogues one after the
other apart, and `Ensures.of_asks` lifts what one question keeps to a whole course.

On a cluster the answers are the fates of store calls, as far as a `FateRule` admits them.
Every run under a schedule is a course on which any fate is admitted (`ScheduledRun.run_ensures`).
A store that refuses the writes to the objects of some names leaves one course only, whose
end `Cluster.runRefusing` computes; it is the run of the simulation whose faults refuse
those writes (`Simulation.run_refusing`).
-/

namespace ClassReconciler

/-! ## Courses of a dialogue -/

namespace Dialogue

variable {Q : Type} {Answer : Q → Type} {σ α β : Type}
  {answers : σ → (q : Q) → Answer q → σ → Prop} {asks : σ → Q → Prop}

/-- On every course from `s` on which each answer is one that `answers` allows, every
question satisfies `asks` in the state it meets, and the end satisfies `post`. -/
def Ensures (answers : σ → (q : Q) → Answer q → σ → Prop) (asks : σ → Q → Prop) :
    Dialogue Answer α → σ → (α → σ → Prop) → Prop
  | .done a, s, post => post a s
  | .ask q next, s, post =>
    asks s q ∧ ∀ a s', answers s q a s' → (next a).Ensures answers asks s' post

@[simp] theorem ensures_pure (a : α) (s : σ) (post : α → σ → Prop) :
    (pure a : Dialogue Answer α).Ensures answers asks s post ↔ post a s := Iff.rfl

/-- A dialogue that goes on with another one ensures what the first one ensures that the
second one ensures. -/
theorem ensures_bind (d : Dialogue Answer α) (f : α → Dialogue Answer β) (s : σ)
    (post : β → σ → Prop) : (d >>= f).Ensures answers asks s post ↔
      d.Ensures answers asks s fun a s' => (f a).Ensures answers asks s' post := by
  induction d generalizing s with
  | done a => exact Iff.rfl
  | ask q next ih =>
    exact and_congr Iff.rfl (forall_congr' fun a => forall₂_congr fun s' _ => ih a s')

@[simp] theorem ensures_map (f : α → β) (d : Dialogue Answer α) (s : σ) (post : β → σ → Prop) :
    (f <$> d).Ensures answers asks s post ↔
      d.Ensures answers asks s fun a s' => post (f a) s' :=
  ensures_bind d (fun a => pure (f a)) s post

theorem Ensures.mono {asks' : σ → Q → Prop} {d : Dialogue Answer α} {s : σ}
    {post post' : α → σ → Prop} (h : d.Ensures answers asks s post)
    (hasks : ∀ s q, asks s q → asks' s q) (hpost : ∀ a s, post a s → post' a s) :
    d.Ensures answers asks' s post' := by
  induction d generalizing s with
  | done a => exact hpost a s h
  | ask q next ih => exact ⟨hasks s q h.1, fun a s' ha => ih a (h.2 a s' ha)⟩

theorem Ensures.imp {d : Dialogue Answer α} {s : σ} {post post' : α → σ → Prop}
    (h : d.Ensures answers asks s post) (hpost : ∀ a s, post a s → post' a s) :
    d.Ensures answers asks s post' :=
  h.mono (fun _ _ => id) hpost

theorem Ensures.and {asks' : σ → Q → Prop} {d : Dialogue Answer α} {s : σ}
    {post post' : α → σ → Prop} (h : d.Ensures answers asks s post)
    (h' : d.Ensures answers asks' s post') :
    d.Ensures answers asks s fun a s' => post a s' ∧ post' a s' := by
  induction d generalizing s with
  | done a => exact ⟨h, h'⟩
  | ask q next ih => exact ⟨h.1, fun a s' ha => ih a (h.2 a s' ha) (h'.2 a s' ha)⟩

/-- A course that is allowed by a narrower rule is allowed by a wider one. -/
theorem Ensures.of_answers {answers' : σ → (q : Q) → Answer q → σ → Prop}
    {d : Dialogue Answer α} {s : σ} {post : α → σ → Prop}
    (h : d.Ensures answers asks s post)
    (hanswers : ∀ s q a s', answers' s q a s' → answers s q a s') :
    d.Ensures answers' asks s post := by
  induction d generalizing s with
  | done a => exact h
  | ask q next ih => exact ⟨h.1, fun a s' ha => ih a (h.2 a s' (hanswers s q a s' ha))⟩

/-- What every question of a dialogue keeps is kept on every course. -/
theorem Ensures.of_asks (inv : σ → Prop) {d : Dialogue Answer α} {k : Q → Prop} {s : σ}
    (hd : d.Asks k) (hs : inv s)
    (hask : ∀ s q, k q → inv s → asks s q)
    (hkeep : ∀ s q a s', k q → inv s → answers s q a s' → inv s') :
    d.Ensures answers asks s fun _ s' => inv s' := by
  induction d generalizing s with
  | done a => exact hs
  | ask q next ih =>
    exact ⟨hask s q hd.1 hs, fun a s' ha => ih a (hd.2 a) (hkeep s q a s' hd.1 hs ha)⟩

/-- Where only the questions matter, it is enough that each of them may be asked. -/
theorem Ensures.of_asks_true {d : Dialogue Answer α} {k : Q → Prop} (hd : d.Asks k) (s : σ)
    (hask : ∀ s q, k q → asks s q) : d.Ensures answers asks s fun _ _ => True :=
  .of_asks (fun _ => True) hd trivial (fun s q hq _ => hask s q hq) fun _ _ _ _ _ _ _ => trivial

theorem Asks.mono {k k' : Q → Prop} {d : Dialogue Answer α} (h : d.Asks k)
    (hk : ∀ q, k q → k' q) : d.Asks k' := by
  induction d with
  | done a => trivial
  | ask q next ih => exact ⟨hk q h.1, fun a => ih a (h.2 a)⟩

theorem Asks.and {k k' : Q → Prop} {d : Dialogue Answer α} (h : d.Asks k) (h' : d.Asks k') :
    d.Asks fun q => k q ∧ k' q := by
  induction d with
  | done a => trivial
  | ask q next ih => exact ⟨⟨h.1, h'.1⟩, fun a => ih a (h.2 a) (h'.2 a)⟩

@[simp] theorem asks_pure (k : Q → Prop) (a : α) : (pure a : Dialogue Answer α).Asks k := trivial

theorem Asks.map {k : Q → Prop} {d : Dialogue Answer α} (h : d.Asks k) (f : α → β) :
    (f <$> d).Asks k :=
  h.bind fun _ => trivial

end Dialogue

/-! ## Fates of store calls -/

/-- Whatever fate a call meets, the cluster is as before or as after a call that is served. -/
theorem Cluster.meet_cluster (s : Cluster) (c : StoreCall) (f : Fate) :
    (s.meet c f).2 = s ∨ (s.meet c f).2 = (s.perform c).2 := by
  cases f with
  | served => exact Or.inr rfl
  | refused e => exact Or.inl rfl
  | lost e => exact Or.inr rfl

/-- Which fates a call may meet. -/
abbrev FateRule : Type := StoreCall → Fate → Prop

namespace FateRule

/-- Every fate is admitted. -/
def any : FateRule := fun _ _ => True

/-- A call that fails has no effect. -/
def effectless : FateRule := fun _ f => ¬f.IsLost

/-- The fate of a call on a store that refuses the writes to the objects of some names. -/
def refusal (error : String → StoreError) (names : List String) (c : StoreCall) : Fate :=
  if c.writesObject ∧ c.subject ∈ names then .refused (error c.subject) else .served

/-- Where no name is refused, every call is served. -/
theorem refusal_nil (error : String → StoreError) (c : StoreCall) :
    refusal error [] c = .served :=
  if_neg fun h => List.not_mem_nil h.2

/-- The writes to the objects of some names are refused and all other calls are served. -/
def refusing (error : String → StoreError) (names : List String) : FateRule := fun c f =>
  f = refusal error names c

/-- A call is answered by what a fate makes of it; a warning changes nothing. -/
def Answers (rule : FateRule) (s : Cluster) : (e : Effect) → e.Answer → Cluster → Prop
  | .call c, a, s' => ∃ f, rule c f ∧ s.meet c f = (a, s')
  | .warn _, _, s' => s' = s

theorem effectless_of_refusing {error : String → StoreError} {names : List String}
    {c : StoreCall} {f : Fate} (h : refusing error names c f) : effectless c f := by
  rw [show f = refusal error names c from h, refusal]
  split <;> simp [effectless, Fate.IsLost]

variable {rule : FateRule} {asks : Cluster → Effect → Prop} {α β : Type}

/-- What an action ensures under any fates of a rule, it ensures under those of a narrower one. -/
theorem ensures_of_imp {rule' : FateRule} {a : Action α} {s : Cluster} {post : α → Cluster → Prop}
    (h : a.Ensures rule.Answers asks s post) (hrule : ∀ c f, rule' c f → rule c f) :
    a.Ensures rule'.Answers asks s post := by
  refine h.of_answers fun s₁ e x s₂ hanswer => ?_
  cases e with
  | warn w => exact hanswer
  | call c =>
    obtain ⟨f, hf, hm⟩ := hanswer
    exact ⟨f, hrule c f hf, hm⟩

/-- A store call ensures what every admitted fate leads to. -/
theorem ensures_call (c : StoreCall) (s : Cluster) (post : c.Result → Cluster → Prop) :
    (Action.call c).Ensures rule.Answers asks s post ↔
      asks s (.call c) ∧ ∀ f, rule c f → post (s.meet c f).1 (s.meet c f).2 := by
  refine and_congr Iff.rfl ⟨fun h f hf => h _ _ ⟨f, hf, rfl⟩, ?_⟩
  rintro h a s' ⟨f, hf, hm⟩
  rw [show a = (s.meet c f).1 by rw [hm], show s' = (s.meet c f).2 by rw [hm]]
  exact h f hf

@[simp] theorem ensures_warn (w : Warning) (s : Cluster) (post : Unit → Cluster → Prop) :
    (Action.warn w).Ensures rule.Answers asks s post ↔ asks s (.warn w) ∧ post () s := by
  refine and_congr Iff.rfl ⟨fun h => h () s rfl, ?_⟩
  rintro h ⟨⟩ s' rfl
  exact h

end FateRule

/-! ## Reconciles -/

section Steps

variable {σ α β : Type} {answers : σ → (e : Effect) → e.Answer → σ → Prop}
  {asks : σ → Effect → Prop}

/-- A step of a reconcile is followed by the next one, unless it ends with an error. -/
theorem ensures_exceptT_bind (x : ReconcileAction α) (f : α → ReconcileAction β) (s : σ)
    (post : Except ReconcileError β → σ → Prop) :
    (x >>= f).run.Ensures answers asks s post ↔
      x.run.Ensures answers asks s fun r s' =>
        match r with
        | .ok a => (f a).run.Ensures answers asks s' post
        | .error e => post (.error e) s' := by
  refine (Dialogue.ensures_bind x.run _ s post).trans ?_
  refine iff_of_eq (congrArg _ (funext fun r => funext fun s' => ?_))
  cases r <;> rfl

theorem ensures_liftM (a : Action α) (s : σ) (post : Except ReconcileError α → σ → Prop) :
    (liftM a : ReconcileAction α).run.Ensures answers asks s post ↔
      a.Ensures answers asks s fun x s' => post (.ok x) s' :=
  Dialogue.ensures_map .ok a s post

end Steps

section Reconcile

variable {rule : FateRule} {asks : Cluster → Effect → Prop}

theorem ensures_callOrFail (c : StoreCall) (s : Cluster)
    (post : Except ReconcileError c.Answer → Cluster → Prop) :
    (callOrFail c).run.Ensures rule.Answers asks s post ↔
      asks s (.call c) ∧
        ∀ f, rule c f → post ((s.meet c f).1.mapError .store) (s.meet c f).2 :=
  (Dialogue.ensures_bind (Action.call c) _ s post).trans (FateRule.ensures_call c s _)

/-- A read is answered by what it finds, or fails, and changes nothing. -/
theorem ensures_read {c : StoreCall} {a : c.Answer} {s : Cluster}
    {post : Except ReconcileError c.Answer → Cluster → Prop} (hread : s.perform c = (.ok a, s))
    (hasks : asks s (.call c)) (hok : post (.ok a) s)
    (herror : ∀ e, post (.error (.store e)) s) :
    (callOrFail c).run.Ensures rule.Answers asks s post := by
  refine (ensures_callOrFail c s post).2 ⟨hasks, fun f _ => ?_⟩
  cases f with
  | served =>
    rw [Cluster.meet, hread]
    exact hok
  | refused e => exact herror e
  | lost e =>
    rw [Cluster.meet, hread]
    exact herror e

end Reconcile

/-! ## Runs under a schedule -/

/-- What an action ensures under any fates holds of its run under a schedule: of every call
that is recorded in it, and of its end. -/
theorem ScheduledRun.run_ensures {α : Type} {a : Action α} {r : ScheduledRun}
    {asks : Cluster → Effect → Prop} {post : α → Cluster → Prop}
    (h : a.Ensures FateRule.any.Answers asks r.cluster post) :
    post (r.run a).1 (r.run a).2.cluster ∧
      ∀ d ∈ (r.run a).2.calls, d ∈ r.calls ∨ asks d.met (.call d.call) := by
  induction a generalizing r with
  | done a => exact ⟨h, fun d hd => Or.inl hd⟩
  | ask q next ih => cases q with
    | warn w => exact ih () (h.2 () r.cluster rfl)
    | call c =>
      obtain ⟨hpost, hcalls⟩ := ih (r.call c).1 (h.2 _ (r.call c).2.cluster ⟨_, trivial, rfl⟩)
      refine ⟨hpost, fun d hd => ?_⟩
      rcases hcalls d hd with hd | hd
      · rcases List.mem_append.1 hd with hd | hd
        · exact Or.inl hd
        · rw [List.mem_singleton.1 hd]
          exact Or.inr h.1
      · exact Or.inr hd

/-! ## A store that refuses names -/

namespace Cluster

variable (error : String → StoreError) (names : List String) {α β : Type}

/-- Answers on a store that refuses the writes to the objects of some names. -/
def answerRefusing : (e : Effect) → StateM Cluster e.Answer
  | .call c => fun s => s.meet c (FateRule.refusal error names c)
  | .warn _ => pure ()

/-- Runs an action on a store that refuses the writes to the objects of some names. -/
def runRefusing (s : Cluster) (a : Action α) : α × Cluster :=
  a.runM (answerRefusing error names) s

@[simp] theorem runRefusing_pure (s : Cluster) (a : α) :
    s.runRefusing error names (pure a) = (a, s) := rfl

@[simp] theorem runRefusing_warn (s : Cluster) (w : Warning) :
    s.runRefusing error names (Action.warn w) = ((), s) := rfl

@[simp] theorem runRefusing_call (s : Cluster) (c : StoreCall) :
    s.runRefusing error names (Action.call c) = s.meet c (FateRule.refusal error names c) := rfl

theorem runRefusing_bind (s : Cluster) (a : Action α) (f : α → Action β) :
    s.runRefusing error names (a >>= f) =
      (s.runRefusing error names a).2.runRefusing error names
        (f (s.runRefusing error names a).1) :=
  congrFun (Dialogue.runM_bind (answerRefusing error names) a f) s

/-- What an action ensures where names are refused holds at the end of its run. -/
theorem runRefusing_ensures {a : Action α} {s : Cluster} {asks : Cluster → Effect → Prop}
    {post : α → Cluster → Prop}
    (h : a.Ensures (FateRule.refusing error names).Answers asks s post) :
    post (s.runRefusing error names a).1 (s.runRefusing error names a).2 := by
  induction a generalizing s with
  | done a => exact h
  | ask q next ih => cases q with
    | warn w => exact ih () (h.2 () s rfl)
    | call c => exact ih _ (h.2 _ _ ⟨_, rfl, rfl⟩)

end Cluster

/-- With faults that refuse the writes to the objects of some names, the simulation answers
a call as a store that refuses those names, and the faults stay. -/
theorem Simulation.answer_refusing {error : String → StoreError} {names : List String}
    {s : Simulation} (hs : s.faults = Fault.refusing error names) (c : StoreCall) :
    (s.answer c).1 = (s.cluster.meet c (FateRule.refusal error names c)).1 ∧
      (s.answer c).2.cluster = (s.cluster.meet c (FateRule.refusal error names c)).2 ∧
      (s.answer c).2.faults = Fault.refusing error names := by
  simp only [Simulation.answer, hs, Fault.take_refusing, FateRule.refusal]
  by_cases h : c.writesObject ∧ c.subject ∈ names
  · simp only [if_pos h]
    exact ⟨rfl, rfl, trivial⟩
  · simp only [if_neg h]
    exact ⟨rfl, rfl, trivial⟩

theorem Simulation.run_refusing {error : String → StoreError} {names : List String} {α : Type}
    {s : Simulation} (hs : s.faults = Fault.refusing error names) (a : Action α) :
    (s.run a).1 = (s.cluster.runRefusing error names a).1 ∧
      (s.run a).2.cluster = (s.cluster.runRefusing error names a).2 ∧
      (s.run a).2.faults = Fault.refusing error names := by
  induction a generalizing s with
  | done a => exact ⟨rfl, rfl, hs⟩
  | ask q next ih => cases q with
    | warn w => exact ih () hs
    | call c =>
      obtain ⟨hresult, hcluster, hfaults⟩ := Simulation.answer_refusing hs c
      have hnext : s.cluster.runRefusing error names (.ask (.call c) next) =
          (s.answer c).2.cluster.runRefusing error names (next (s.answer c).1) := by
        rw [hcluster, hresult]
        rfl
      rw [hnext]
      exact ih _ hfaults

/-- What an action ensures where names are refused holds at the end of its run in a simulation
that refuses them. -/
theorem Simulation.run_ensures {error : String → StoreError} {names : List String} {α : Type}
    {s : Simulation} (hs : s.faults = Fault.refusing error names) {a : Action α}
    {asks : Cluster → Effect → Prop} {post : α → Cluster → Prop}
    (h : a.Ensures (FateRule.refusing error names).Answers asks s.cluster post) :
    post (s.run a).1 (s.run a).2.cluster := by
  obtain ⟨hresult, hcluster, -⟩ := Simulation.run_refusing hs a
  rw [hresult, hcluster]
  exact Cluster.runRefusing_ensures error names h

end ClassReconciler
