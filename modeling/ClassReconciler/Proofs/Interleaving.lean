import ClassReconciler.Proofs.Course
import ClassReconciler.Proofs.Versions

/-!
# Interleavings

What holds of tasks that share a cluster, in whatever order they and the clients take their
turns. A task knows of the cluster what its own calls have found, and that everything it meets
came about after that. So the state of its course is the list of its calls
(`AnswersAmong`): what an action ensures with these answers, alone, its task does among all
others (`SharedCluster.Follows`, kept by every turn and so by a run).

`SharedCluster.Ordered` lifts a relation that every call and every client's write keeps to any
two moments of a run. `SharedCluster.TracesLoss` and `SharedCluster.TracesFirst` find the call that
ended what held once, or what held when the run began.
-/

namespace ClassReconciler

/-! ## What comes about -/

/-- The other cluster may come about from the one, and is later. -/
structure Cluster.LeadsTo (s s' : Cluster) : Prop where
  later : s.Later s'
  reachable : s.Reachable → s'.Reachable

/-- What leads from a cluster to itself, and on from where it leads. -/
structure IsPassage (R : Cluster → Cluster → Prop) : Prop where
  refl : ∀ s, R s s
  trans : ∀ {s s' s''}, R s s' → R s' s'' → R s s''

namespace Cluster

theorem isPassage_leadsTo : IsPassage LeadsTo where
  refl s := ⟨.refl s, id⟩
  trans h h' := ⟨h.later.trans h'.later, h'.reachable ∘ h.reachable⟩

theorem leadsTo_meet (s : Cluster) (c : StoreCall) (f : Fate) : s.LeadsTo (s.meet c f).2 where
  later := s.later_meet c f
  reachable hs := by
    rcases s.meet_cluster c f with h | h <;> rw [h]
    · exact hs
    · exact .perform c hs

theorem leadsTo_apply (s : Cluster) (w : ClientWrite) : s.LeadsTo (w.apply s) where
  later := s.later_apply w
  reachable hs := by
    cases w with
    | putNamespace ns => exact .putNamespace ns hs
    | putClass c => exact .putClass c hs
    | putObject o n => exact .putObject o n hs
    | deleteNamespace name => exact .deleteNamespace name hs
    | deleteClass name => exact .deleteClass name hs
    | request c => exact .perform c hs
    | editClass name edit keepsName =>
      rw [ClientWrite.apply]
      cases h : s.editClass name edit with
      | none => exact hs
      | some s' => exact .editClass edit keepsName h hs

end Cluster

/-! ## Courses among others -/

/-- A call may be made after others: it meets what came about after them. -/
structure ScheduledCall.MayFollow (r : ScheduledCall) (past : List ScheduledCall) : Prop where
  reachable : r.met.Reachable
  later : ∀ d ∈ past, d.after.Later r.met

/-- A call is answered by the cluster that it meets, which others may have changed since the
calls before it. -/
def AnswersAmong (admits : Fate → Prop) (past : List ScheduledCall) :
    (e : Effect) → e.Answer → List ScheduledCall → Prop
  | .call c, a, past' => ∃ met f, admits f ∧ ScheduledCall.MayFollow ⟨met, c, f⟩ past ∧
      (met.meet c f).1 = a ∧ past' = past ++ [⟨met, c, f⟩]
  | .warn _, _, past' => past' = past

section Among

variable {admits : Fate → Prop} {asks : List ScheduledCall → Effect → Prop} {α : Type}

/-- A call ensures what every cluster that it may meet answers. -/
theorem ensures_call_among {c : StoreCall} {past : List ScheduledCall}
    {post : c.Result → List ScheduledCall → Prop} (hasks : asks past (.call c))
    (hpost : ∀ met f, admits f → ScheduledCall.MayFollow ⟨met, c, f⟩ past →
      post (met.meet c f).1 (past ++ [⟨met, c, f⟩])) :
    (Action.call c).Ensures (AnswersAmong admits) asks past post := by
  refine ⟨hasks, ?_⟩
  rintro a past' ⟨met, f, hf, hfollows, rfl, rfl⟩
  exact hpost met f hf hfollows

theorem ensures_callOrFail_among {c : StoreCall} {past : List ScheduledCall}
    {post : Except ReconcileError c.Answer → List ScheduledCall → Prop}
    (hasks : asks past (.call c))
    (hpost : ∀ met f, admits f → ScheduledCall.MayFollow ⟨met, c, f⟩ past →
      post ((met.meet c f).1.mapError .store) (past ++ [⟨met, c, f⟩])) :
    (callOrFail c).run.Ensures (AnswersAmong admits) asks past post :=
  (Dialogue.ensures_bind (Action.call c) _ past post).2 (ensures_call_among hasks hpost)

/-- A read is answered by what it finds, or the steps end with an error. -/
theorem ensures_read_among {β : Type} {c : StoreCall} {f : c.Answer → ReconcileAction β}
    {past : List ScheduledCall} {post : Except ReconcileError β → List ScheduledCall → Prop}
    (answer : Cluster → c.Answer) (hread : ∀ s : Cluster, s.perform c = (.ok (answer s), s))
    (hasks : asks past (.call c)) (herror : ∀ e past', post (.error e) past')
    (hok : ∀ met, ScheduledCall.MayFollow ⟨met, c, .served⟩ past →
      (f (answer met)).run.Ensures (AnswersAmong admits) asks (past ++ [⟨met, c, .served⟩]) post) :
    (callOrFail c >>= f).run.Ensures (AnswersAmong admits) asks past post := by
  refine (ensures_exceptT_bind _ _ _ _).2
    (ensures_callOrFail_among hasks fun met fate _ hfollows => ?_)
  cases fate with
  | refused e => exact herror _ _
  | lost e =>
    rw [Cluster.meet, hread]
    exact herror _ _
  | served =>
    rw [Cluster.meet, hread]
    exact hok met hfollows

/-- What all questions of an action have in common is known of its calls. -/
theorem ensures_among_of_asks {k : Effect → Prop} {a : Action α} (ha : a.Asks k)
    (past : List ScheduledCall)
    (hasks : ∀ more, (∀ d ∈ more, k (.call d.call)) → ∀ e, k e → asks (past ++ more) e) :
    a.Ensures (AnswersAmong admits) asks past fun _ past' =>
      ∃ more, past' = past ++ more ∧ ∀ d ∈ more, k (.call d.call) := by
  refine .of_asks (fun past' => ∃ more, past' = past ++ more ∧ ∀ d ∈ more, k (.call d.call)) ha
    ⟨[], (List.append_nil past).symm, by simp⟩ ?_ ?_
  · rintro past' e he ⟨more, rfl, hmore⟩
    exact hasks more hmore e he
  · rintro past₁ e a past₂ he ⟨more, rfl, hmore⟩ hanswer
    cases e with
    | warn w => exact ⟨more, hanswer, hmore⟩
    | call c =>
      obtain ⟨met, f, -, -, -, rfl⟩ := hanswer
      refine ⟨more ++ [⟨met, c, f⟩], List.append_assoc .., fun d hd => ?_⟩
      rcases List.mem_append.1 hd with hd | hd
      · exact hmore d hd
      · rw [List.mem_singleton.1 hd]
        exact he

end Among

/-! ## The calls of a task -/

theorem mem_callsOf {log : List TaskCall} {i : Nat} {r : ScheduledCall} :
    r ∈ callsOf log i ↔ ∃ e ∈ log, e.task = i ∧ e.toScheduledCall = r := by
  simp [callsOf, and_assoc]

theorem callsOf_append_singleton (log : List TaskCall) (e : TaskCall) (i : Nat) :
    callsOf (log ++ [e]) i =
      if e.task = i then callsOf log i ++ [e.toScheduledCall] else callsOf log i := by
  by_cases h : e.task = i <;> simp [callsOf, h]

/-- A call of a task stands in the log, after what the task had called before it. -/
theorem exists_of_callsOf_eq {log : List TaskCall} {i : Nat} {p q : List ScheduledCall}
    {d : ScheduledCall} (h : callsOf log i = p ++ d :: q) :
    ∃ l e l', log = l ++ e :: l' ∧ e.task = i ∧ e.toScheduledCall = d ∧ callsOf l i = p ∧
      callsOf l' i = q := by
  obtain ⟨l, l', hlog, hp, hq⟩ := List.map_eq_append_iff.1 h
  obtain ⟨e, l'', rfl, hd, hq⟩ := List.map_eq_cons_iff.1 hq
  obtain ⟨m, m', rfl, hl, hm⟩ := List.filter_eq_append_iff.1 hlog
  obtain ⟨n, n', rfl, hskip, he, hn⟩ := List.filter_eq_cons_iff.1 hm
  have hn' : n.filter (·.task = i) = [] := List.filter_eq_nil_iff.2 hskip
  refine ⟨m ++ n, e, n', by simp, by simpa using he, hd, ?_, ?_⟩
  · rw [callsOf, List.filter_append, hl, hn', List.append_nil, hp]
  · rw [callsOf, hn, hq]

/-- Where a list with a last item is split. -/
theorem split_append_singleton {α : Type} {l p q : List α} {x a : α}
    (h : l ++ [x] = p ++ a :: q) :
    (p = l ∧ a = x ∧ q = []) ∨ ∃ q', q = q' ++ [x] ∧ l = p ++ a :: q' := by
  rcases List.eq_nil_or_concat q with rfl | ⟨q', y, rfl⟩
  · obtain ⟨rfl, hx⟩ := List.append_inj' h rfl
    exact Or.inl ⟨rfl, (List.cons.inj hx).1.symm, rfl⟩
  · rw [List.concat_eq_append, ← List.cons_append, ← List.append_assoc] at h
    obtain ⟨rfl, hx⟩ := List.append_inj' h rfl
    refine Or.inr ⟨q', ?_, rfl⟩
    rw [List.concat_eq_append, (List.cons.inj hx).1]

namespace SharedCluster

variable {J α : Type} {work : J → Action α} {s : SharedCluster J α}

/-! ## Turns -/

/-- What an advance does: the task is done, or it sends a warning, or it makes a call. -/
theorem advance_cases (s : SharedCluster J α) (i : Nat) (fate : Fate) :
    s.advance i fate = s ∨
    (∃ job w next, s.tasks[i]? = some ⟨job, .ask (.warn w) next⟩ ∧
      s.advance i fate = { s with tasks := s.tasks.set i ⟨job, next ()⟩ }) ∨
    ∃ job c next, s.tasks[i]? = some ⟨job, .ask (.call c) next⟩ ∧ s.advance i fate =
      { cluster := (s.cluster.meet c fate).2
        tasks := s.tasks.set i ⟨job, next (s.cluster.meet c fate).1⟩
        log := s.log ++ [{ met := s.cluster, call := c, fate, task := i }] } := by
  rw [advance]
  split
  case h_1 => exact Or.inl rfl
  case h_2 => exact Or.inl rfl
  case h_3 job w next ht => exact Or.inr (Or.inl ⟨job, w, next, ht, rfl⟩)
  case h_4 job c next ht => exact Or.inr (Or.inr ⟨job, c, next, ht, rfl⟩)

/-- What a turn does to the cluster: nothing, a write of a client, or a call, which is logged. -/
theorem step_cases (s : SharedCluster J α) (turn : Turn J) :
    ((s.step work turn).log = s.log ∧ ((s.step work turn).cluster = s.cluster ∨
      ∃ w, turn = .write w ∧ (s.step work turn).cluster = w.apply s.cluster)) ∨
    ∃ e : TaskCall, (s.step work turn).log = s.log ++ [e] ∧ e.met = s.cluster ∧
      e.after = (s.step work turn).cluster := by
  cases turn with
  | start job => exact Or.inl ⟨rfl, Or.inl rfl⟩
  | write w => exact Or.inl ⟨rfl, Or.inr ⟨w, rfl, rfl⟩⟩
  | advance i fate =>
    rw [step]
    rcases s.advance_cases i fate with h | ⟨job, w, next, -, h⟩ | ⟨job, c, next, -, h⟩ <;> rw [h]
    · exact Or.inl ⟨rfl, Or.inl rfl⟩
    · exact Or.inl ⟨rfl, Or.inl rfl⟩
    · exact Or.inr ⟨_, rfl, rfl, rfl⟩

theorem log_prefix_step (s : SharedCluster J α) (turn : Turn J) :
    s.log <+: (s.step work turn).log := by
  rcases s.step_cases turn with ⟨h, -⟩ | ⟨e, h, -⟩
  · exact h ▸ List.prefix_refl _
  · exact h ▸ List.prefix_append _ _

theorem log_prefix_run (s : SharedCluster J α) (turns : List (Turn J)) :
    s.log <+: (s.run work turns).log := by
  induction turns generalizing s with
  | nil => exact List.prefix_refl _
  | cons turn rest ih => exact (s.log_prefix_step turn).trans (ih _)

/-! ## From one moment to another -/

section Passages

variable {R : Cluster → Cluster → Prop} {first : Cluster}

theorem passes_step (hR : IsPassage R) {turn : Turn J}
    (hwrites : ∀ w, turn = .write w → ∀ s, R s (w.apply s))
    (hcalls : ∀ e ∈ (s.step work turn).log, R e.met e.after) :
    R s.cluster (s.step work turn).cluster := by
  rcases s.step_cases turn with ⟨-, h | ⟨w, rfl, h⟩⟩ | ⟨e, hlog, hmet, hafter⟩
  · rw [h]
    exact hR.refl _
  · rw [h]
    exact hwrites w rfl _
  · rw [← hmet, ← hafter]
    exact hcalls e (by rw [hlog]; exact List.mem_append_right _ (List.mem_singleton_self e))

/-- What every write of a client and every call keeps is kept from start to end. -/
theorem passes_run (hR : IsPassage R) {turns : List (Turn J)}
    (hwrites : ∀ w, .write w ∈ turns → ∀ s, R s (w.apply s))
    (hcalls : ∀ e ∈ (s.run work turns).log, R e.met e.after) :
    R s.cluster (s.run work turns).cluster := by
  induction turns generalizing s with
  | nil => exact hR.refl _
  | cons turn rest ih =>
    refine hR.trans (passes_step hR (fun w hw => hwrites w (hw ▸ List.mem_cons_self))
      fun e he => hcalls e ?_) (ih (fun w hw => hwrites w (List.mem_cons_of_mem _ hw)) hcalls)
    exact ((s.step work turn).log_prefix_run rest).subset he

/-- The relation leads from the first cluster over each call and each later one to the present
one. -/
structure Ordered (R : Cluster → Cluster → Prop) (first : Cluster) (s : SharedCluster J α) :
    Prop where
  now : R first s.cluster
  met : ∀ e ∈ s.log, R first e.met
  after : ∀ e ∈ s.log, R e.after s.cluster
  order : s.log.Pairwise fun d e => R d.after e.met

theorem ordered_start (hR : IsPassage R) (s : Cluster) :
    ({ cluster := s } : SharedCluster J α).Ordered R s :=
  ⟨hR.refl s, by simp, by simp, .nil⟩

theorem Ordered.step (hR : IsPassage R) (h : s.Ordered R first) {turn : Turn J}
    (hwrites : ∀ w, turn = .write w → ∀ s, R s (w.apply s))
    (hcalls : ∀ e ∈ (s.step work turn).log, R e.met e.after) :
    (s.step work turn).Ordered R first := by
  have hstep := passes_step hR hwrites hcalls
  rcases s.step_cases turn with ⟨hlog, -⟩ | ⟨e, hlog, hmet, hafter⟩
  · refine ⟨hR.trans h.now hstep, ?_, ?_, ?_⟩ <;> rw [hlog]
    · exact h.met
    · exact fun d hd => hR.trans (h.after d hd) hstep
    · exact h.order
  · refine ⟨hR.trans h.now hstep, ?_, ?_, ?_⟩ <;> rw [hlog]
    · rw [List.forall_mem_append, List.forall_mem_singleton, hmet]
      exact ⟨h.met, h.now⟩
    · rw [List.forall_mem_append, List.forall_mem_singleton, hafter]
      exact ⟨fun d hd => hR.trans (h.after d hd) hstep, hR.refl _⟩
    · refine List.pairwise_append.2 ⟨h.order, List.pairwise_singleton _ _, fun d hd e' he' => ?_⟩
      rw [List.mem_singleton.1 he', hmet]
      exact h.after d hd

theorem Ordered.run (hR : IsPassage R) (h : s.Ordered R first) {turns : List (Turn J)}
    (hwrites : ∀ w, .write w ∈ turns → ∀ s, R s (w.apply s))
    (hcalls : ∀ e ∈ (s.run work turns).log, R e.met e.after) :
    (s.run work turns).Ordered R first := by
  induction turns generalizing s with
  | nil => exact h
  | cons turn rest ih =>
    refine ih (h.step hR (fun w hw => hwrites w (hw ▸ List.mem_cons_self)) fun e he =>
      hcalls e ?_) (fun w hw => hwrites w (List.mem_cons_of_mem _ hw)) hcalls
    exact ((s.step work turn).log_prefix_run rest).subset he

/-- What comes about in a run comes about after what was there. -/
theorem ordered_run (s : Cluster) (turns : List (Turn J)) :
    (({ cluster := s } : SharedCluster J α).run work turns).Ordered Cluster.LeadsTo s :=
  (ordered_start Cluster.isPassage_leadsTo s).run Cluster.isPassage_leadsTo
    (fun w _ s => s.leadsTo_apply w) fun e _ => e.met.leadsTo_meet e.call e.fate

/-- A call was made after the earlier ones of a task, and of what they met. -/
theorem Ordered.mayFollow (h : s.Ordered Cluster.LeadsTo first) (hfirst : first.Reachable)
    {l l' : List TaskCall} {e : TaskCall} (hlog : s.log = l ++ e :: l') (i : Nat) :
    e.MayFollow (callsOf l i) ∧ ∀ d ∈ callsOf l i, d.met.Reachable := by
  have hmet : ∀ d ∈ s.log, d.met.Reachable := fun d hd => (h.met d hd).reachable hfirst
  have horder := h.order
  rw [hlog] at hmet horder
  refine ⟨⟨hmet e (by simp), fun d hd => ?_⟩, fun d hd => ?_⟩ <;>
    obtain ⟨e', he', -, rfl⟩ := mem_callsOf.1 hd
  · exact ((List.pairwise_append.1 horder).2.2 e' he' e List.mem_cons_self).later
  · exact hmet e' (List.mem_append_left _ he')

end Passages

/-- What held after a call and does not hold now was ended by a later call. -/
def TracesLoss (P : Cluster → Prop) (s : SharedCluster J α) : Prop :=
  ∀ ⦃l d l'⦄, s.log = l ++ d :: l' → P d.after → ¬P s.cluster →
    ∃ m e m', l' = m ++ e :: m' ∧ P e.met ∧ ¬P e.after

theorem TracesLoss.step {P : Cluster → Prop} (hs : s.TracesLoss P) {turn : Turn J}
    (hwrites : ∀ w, turn = .write w → ∀ s, P s → P (w.apply s)) :
    (s.step work turn).TracesLoss P := by
  intro l d l' hlog hd hend
  rcases s.step_cases turn with ⟨h, hcluster⟩ | ⟨e, h, hmet, hafter⟩ <;> rw [h] at hlog
  · refine hs hlog hd fun hP => hend ?_
    rcases hcluster with hsame | ⟨w, rfl, hw⟩
    · rwa [hsame]
    · rw [hw]
      exact hwrites w rfl _ hP
  · rw [← hafter] at hend
    rcases split_append_singleton hlog with ⟨-, rfl, -⟩ | ⟨q, rfl, hlog'⟩
    · exact absurd hd hend
    by_cases hP : P s.cluster
    · exact ⟨q, e, [], rfl, hmet ▸ hP, hend⟩
    · obtain ⟨m, e', m', rfl, he'⟩ := hs hlog' hd hP
      exact ⟨m, e', m' ++ [e], by simp, he'⟩

theorem TracesLoss.run {P : Cluster → Prop} (hs : s.TracesLoss P) {turns : List (Turn J)}
    (hwrites : ∀ w, .write w ∈ turns → ∀ s, P s → P (w.apply s)) :
    (s.run work turns).TracesLoss P := by
  induction turns generalizing s with
  | nil => exact hs
  | cons turn rest ih =>
    exact ih (hs.step fun w hw => hwrites w (hw ▸ List.mem_cons_self))
      fun w hw => hwrites w (List.mem_cons_of_mem _ hw)

/-- One of the calls has ended what held when it was made. -/
def EndedBy (P : Cluster → Prop) (log : List TaskCall) : Prop :=
  ∃ m e m', log = m ++ e :: m' ∧ P e.met ∧ ¬P e.after

/-- What does not hold, now or when a call is made, was ended by an earlier call. -/
structure TracesFirst (P : Cluster → Prop) (s : SharedCluster J α) : Prop where
  now : ¬P s.cluster → EndedBy P s.log
  met : ∀ ⦃l d l'⦄, s.log = l ++ d :: l' → ¬P d.met → EndedBy P l

/-- What holds when a run begins has not ended yet. -/
theorem tracesFirst_start {P : Cluster → Prop} {s : Cluster} (h : P s) :
    ({ cluster := s } : SharedCluster J α).TracesFirst P :=
  ⟨fun hend => absurd h hend, by simp⟩

theorem TracesFirst.step {P : Cluster → Prop} (hs : s.TracesFirst P) {turn : Turn J}
    (hwrites : ∀ w, turn = .write w → ∀ s, P s → P (w.apply s)) :
    (s.step work turn).TracesFirst P := by
  rcases s.step_cases turn with ⟨hlog, hcluster⟩ | ⟨e, hlog, hmet, hafter⟩
  · refine ⟨fun hend => ?_, fun l d l' h => hs.met (hlog ▸ h)⟩
    rw [hlog]
    refine hs.now fun hP => hend ?_
    rcases hcluster with hsame | ⟨w, rfl, hw⟩
    · rwa [hsame]
    · rw [hw]
      exact hwrites w rfl _ hP
  · refine ⟨fun hend => ?_, fun l d l' h hend => ?_⟩
    · rw [hlog]
      by_cases hP : P s.cluster
      · exact ⟨s.log, e, [], rfl, hmet ▸ hP, hafter ▸ hend⟩
      · obtain ⟨m, e', m', hm, he'⟩ := hs.now hP
        exact ⟨m, e', m' ++ [e], by simp [hm], he'⟩
    · rw [hlog] at h
      rcases split_append_singleton h with ⟨rfl, rfl, -⟩ | ⟨q, -, hlog'⟩
      · exact hs.now (hmet ▸ hend)
      · exact hs.met hlog' hend

theorem TracesFirst.run {P : Cluster → Prop} (hs : s.TracesFirst P) {turns : List (Turn J)}
    (hwrites : ∀ w, .write w ∈ turns → ∀ s, P s → P (w.apply s)) :
    (s.run work turns).TracesFirst P := by
  induction turns generalizing s with
  | nil => exact hs
  | cons turn rest ih =>
    exact ih (hs.step fun w hw => hwrites w (hw ▸ List.mem_cons_self))
      fun w hw => hwrites w (List.mem_cons_of_mem _ hw)

/-! ## Tasks among others -/

/-- The tasks after one that is under way has gone on. -/
theorem getElem?_set_of_eq_some {i : Nat} {t : Task J α} (ht : s.tasks[i]? = some t)
    (t' : Task J α) (j : Nat) :
    (s.tasks.set i t')[j]? = if i = j then some t' else s.tasks[j]? := by
  rw [List.getElem?_set, if_pos (List.getElem?_eq_some_iff.1 ht).1]

theorem job?_set {i : Nat} {job : J} {rest rest' : Action α}
    (ht : s.tasks[i]? = some ⟨job, rest⟩) (j : Nat) :
    (s.tasks.set i ⟨job, rest'⟩)[j]?.map Task.job = s.job? j := by
  rw [getElem?_set_of_eq_some ht, job?]
  split
  case isTrue hij => rw [← hij, ht, Option.map_some, Option.map_some]
  case isFalse => rfl

/-- A task keeps its job. -/
theorem job?_step {i : Nat} {job : J} (h : s.job? i = some job) (turn : Turn J) :
    (s.step work turn).job? i = some job := by
  cases turn with
  | write w => exact h
  | start job' =>
    obtain ⟨t, ht, hjob⟩ := Option.map_eq_some_iff.1 h
    refine Option.map_eq_some_iff.2 ⟨t, ?_, hjob⟩
    exact (List.getElem?_append_left (List.getElem?_eq_some_iff.1 ht).1).trans ht
  | advance j fate =>
    rw [step]
    rcases s.advance_cases j fate with hs | ⟨job', w, next, ht, hs⟩ | ⟨job', c, next, ht, hs⟩ <;>
      rw [hs]
    · exact h
    · exact (job?_set ht i).trans h
    · exact (job?_set ht i).trans h

/-- Every task asks what it may ask after its own calls, and ends as it should. -/
structure Follows (admits : Fate → Prop) (asks : J → List ScheduledCall → Effect → Prop)
    (post : J → α → List ScheduledCall → Prop) (s : SharedCluster J α) : Prop where
  tasks : ∀ {i} {t : Task J α}, s.tasks[i]? = some t →
    t.rest.Ensures (AnswersAmong admits) (asks t.job) (callsOf s.log i) (post t.job)
  log : ∀ {l e l'}, s.log = l ++ e :: l' → ∃ job, s.job? e.task = some job ∧ admits e.fate ∧
    asks job (callsOf l e.task) (.call e.call)

section Follows

variable {admits : Fate → Prop} {asks : J → List ScheduledCall → Effect → Prop}
  {post : J → α → List ScheduledCall → Prop} {first : Cluster}

/-- A task that is yet to be started has made no calls. -/
theorem Follows.callsOf_length (h : s.Follows admits asks post) :
    callsOf s.log s.tasks.length = [] := by
  refine List.map_eq_nil_iff.2 (List.filter_eq_nil_iff.2 fun e he htask => ?_)
  obtain ⟨l, l', hlog⟩ := List.append_of_mem he
  obtain ⟨job, hjob, -⟩ := h.log hlog
  obtain ⟨t, ht, -⟩ := Option.map_eq_some_iff.1 hjob
  exact Nat.ne_of_lt (List.getElem?_eq_some_iff.1 ht).1 (by simpa using htask)

theorem Follows.advance (h : s.Follows admits asks post) (hs : s.Ordered Cluster.LeadsTo first)
    (hfirst : first.Reachable) (i : Nat) {fate : Fate} (hfate : admits fate) :
    (s.advance i fate).Follows admits asks post := by
  rcases s.advance_cases i fate with hnext | ⟨job, w, next, ht, hnext⟩ | ⟨job, c, next, ht, hnext⟩
    <;> rw [hnext]
  · exact h
  · refine ⟨fun {j t'} ht' => ?_, fun hlog => ?_⟩
    · rw [getElem?_set_of_eq_some ht] at ht'
      split at ht'
      case isTrue hj =>
        subst hj
        obtain rfl := Option.some.inj ht'
        exact (h.tasks ht).2 () _ rfl
      case isFalse => exact h.tasks ht'
    · obtain ⟨job', hjob, hrest⟩ := h.log hlog
      exact ⟨job', (job?_set ht _).trans hjob, hrest⟩
  · have hfollows : ScheduledCall.MayFollow ⟨s.cluster, c, fate⟩ (callsOf s.log i) := by
      refine ⟨hs.now.reachable hfirst, fun d hd => ?_⟩
      obtain ⟨e, he, -, rfl⟩ := mem_callsOf.1 hd
      exact (hs.after e he).later
    refine ⟨fun {j t'} ht' => ?_, fun {l e l'} hlog => ?_⟩
    · rw [getElem?_set_of_eq_some ht] at ht'
      rw [callsOf_append_singleton]
      split at ht'
      case isTrue hj =>
        subst hj
        obtain rfl := Option.some.inj ht'
        rw [if_pos rfl]
        exact (h.tasks ht).2 _ _ ⟨s.cluster, fate, hfate, hfollows, rfl, rfl⟩
      case isFalse hj =>
        rw [if_neg hj]
        exact h.tasks ht'
    · rcases split_append_singleton hlog with ⟨rfl, rfl, -⟩ | ⟨q, rfl, hlog'⟩
      · refine ⟨job, (job?_set ht _).trans ?_, hfate, (h.tasks ht).1⟩
        rw [job?, ht]
        rfl
      · obtain ⟨job', hjob, hrest⟩ := h.log hlog'
        exact ⟨job', (job?_set ht _).trans hjob, hrest⟩

theorem Follows.step (h : s.Follows admits asks post) (hs : s.Ordered Cluster.LeadsTo first)
    (hfirst : first.Reachable)
    (hwork : ∀ job, (work job).Ensures (AnswersAmong admits) (asks job) [] (post job))
    {turn : Turn J} (hfate : ∀ i f, turn = .advance i f → admits f) :
    (s.step work turn).Follows admits asks post := by
  cases turn with
  | write w => exact ⟨h.tasks, h.log⟩
  | advance i fate => exact h.advance hs hfirst i (hfate i fate rfl)
  | start job =>
    refine ⟨fun {i t} ht => ?_, fun hlog => ?_⟩
    · rw [show (s.step work (.start job)).tasks = s.tasks ++ [⟨job, work job⟩] from rfl,
        List.getElem?_append] at ht
      split at ht
      case isTrue => exact h.tasks ht
      case isFalse hi =>
        rw [List.getElem?_singleton] at ht
        obtain ⟨hlen, rfl⟩ : i - s.tasks.length = 0 ∧ ⟨job, work job⟩ = t := by simpa using ht
        obtain rfl : i = s.tasks.length := by omega
        rw [show (s.step work (.start job)).log = s.log from rfl, h.callsOf_length]
        exact hwork job
    · obtain ⟨job', hjob, hrest⟩ := h.log hlog
      exact ⟨job', job?_step hjob (.start job), hrest⟩

/-- What every job ensures alone, its task does in any order of turns. -/
theorem Follows.run (h : s.Follows admits asks post) (hs : s.Ordered Cluster.LeadsTo first)
    (hfirst : first.Reachable)
    (hwork : ∀ job, (work job).Ensures (AnswersAmong admits) (asks job) [] (post job))
    {turns : List (Turn J)} (hfates : ∀ i f, .advance i f ∈ turns → admits f) :
    (s.run work turns).Follows admits asks post := by
  induction turns generalizing s with
  | nil => exact h
  | cons turn rest ih =>
    refine ih (h.step hs hfirst hwork fun i f hf => hfates i f (hf ▸ List.mem_cons_self))
      (hs.step Cluster.isPassage_leadsTo (fun w _ s => s.leadsTo_apply w)
        fun e _ => e.met.leadsTo_meet e.call e.fate)
      fun i f hf => hfates i f (List.mem_cons_of_mem _ hf)

theorem follows_run {first : Cluster} (hfirst : first.Reachable)
    (hwork : ∀ job, (work job).Ensures (AnswersAmong admits) (asks job) [] (post job))
    {turns : List (Turn J)} (hfates : ∀ i f, .advance i f ∈ turns → admits f) :
    (({ cluster := first } : SharedCluster J α).run work turns).Follows admits asks post :=
  Follows.run ⟨by simp, by simp⟩ (ordered_start Cluster.isPassage_leadsTo first) hfirst hwork hfates

/-- A task that has ended has ended as it should. -/
theorem Follows.ended (h : s.Follows admits asks post) {i : Nat} {job : J} {a : α}
    (hjob : s.job? i = some job) (hresult : s.result? i = some a) :
    post job a (callsOf s.log i) := by
  obtain ⟨t, ht, rfl⟩ := Option.map_eq_some_iff.1 hjob
  have hcourse := h.tasks ht
  rw [result?, ht] at hresult
  obtain ⟨job, rest⟩ := t
  cases rest with
  | done a' =>
    obtain rfl := Option.some.inj hresult
    exact hcourse
  | ask q next => cases hresult

end Follows

end SharedCluster

end ClassReconciler
