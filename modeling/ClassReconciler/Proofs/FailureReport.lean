import ClassReconciler.Proofs.ObjectWork

/-!
# Failures are reported

A reconcile goes on after many of its calls have failed, and says in the end how many did. That
it forgets none of them is said on courses whose state is only whether a call has failed so
far (`Effect.Notes`), with any answers to all calls: of each function of the reconciler, either
the flag is as before or the report tells of a failure (`applyFrom_failed`, `updateEach_failed`,
`applyClass_failed`).

So a class reconcile that reports no failure has met none (`reconcile_ofClass_failed`), and then
it is the run on a cluster where every call is served, whatever faults lie in wait
(`Simulation.run_ensures_failed`).
-/

namespace ClassReconciler

/-! ## The flag -/

/-- After a call, a call has failed if one had before or this one does; a warning does not fail. -/
def Effect.Notes (failed : Bool) : (e : Effect) → e.Answer → Bool → Prop
  | .call _, r, failed' => failed' = (failed || !r.isOk)
  | .warn _, _, failed' => failed' = failed

/-- On every course, the end is as wanted, given whether a call has failed by then. -/
def Action.Notes {α : Type} (a : Action α) (failed : Bool) (post : α → Bool → Prop) : Prop :=
  a.Ensures Effect.Notes (fun _ _ => True) failed post

namespace Action.Notes

variable {α β : Type} {failed : Bool}

theorem call (c : StoreCall) (failed : Bool) : (Action.call c).Notes failed fun r failed' =>
    failed' = (failed || !r.isOk) :=
  ⟨trivial, fun _ _ h => h⟩

theorem bind {a : Action α} {f : α → Action β} {mid : α → Bool → Prop} {post : β → Bool → Prop}
    (ha : a.Notes failed mid) (hf : ∀ x failed', mid x failed' → (f x).Notes failed' post) :
    (a >>= f).Notes failed post :=
  (Dialogue.ensures_bind a f failed post).2 (ha.imp hf)

/-- Whatever is asked, there is an end. -/
theorem any (a : Action α) (failed : Bool) : a.Notes failed fun _ _ => True := by
  induction a generalizing failed with
  | done _ => trivial
  | ask q next ih => exact ⟨trivial, fun x failed' _ => ih x failed'⟩

/-- A step of a reconcile is followed by the next one, unless it ends with an error. -/
theorem bindExcept {x : ReconcileAction α} {f : α → ReconcileAction β}
    {mid : Except ReconcileError α → Bool → Prop} {post : Except ReconcileError β → Bool → Prop}
    (hx : x.run.Notes failed mid)
    (hok : ∀ a failed', mid (.ok a) failed' → (f a).run.Notes failed' post)
    (herror : ∀ e failed', mid (.error e) failed' → post (.error e) failed') :
    (x >>= f).run.Notes failed post := by
  refine (ensures_exceptT_bind x f failed post).2 (hx.imp fun r failed' h => ?_)
  cases r with
  | ok a => exact hok a failed' h
  | error e => exact herror e failed' h

theorem lift {a : Action α} {post : Except ReconcileError α → Bool → Prop}
    (ha : a.Notes failed fun x => post (.ok x)) :
    (liftM a : ReconcileAction α).run.Notes failed post :=
  (ensures_liftM a failed post).2 ha

theorem callOrFail (c : StoreCall) (failed : Bool) :
    (callOrFail c).run.Notes failed fun r failed' => failed' = (failed || !r.isOk) := by
  refine (call c failed).bind fun r failed' h => ?_
  cases r with
  | ok _ => exact h
  | error _ => exact h

end Action.Notes

/-- At the end of a run, the flag tells whether a call has failed. If none has, the run is the
one in which every call is served. -/
theorem Simulation.run_ensures_failed {α : Type} {a : Action α} {s : Simulation} {failed : Bool}
    {post : α → Bool → Prop} (error : String → StoreError) (h : a.Notes failed post) :
    ∃ failed', post (s.run a).1 failed' ∧ (failed = true → failed' = true) ∧
      (failed' = false →
        s.cluster.runRefusing error [] a = ((s.run a).1, (s.run a).2.cluster)) := by
  induction a generalizing s failed with
  | done a => exact ⟨failed, h, id, fun _ => rfl⟩
  | ask q next ih => cases q with
    | warn w => exact ih () (h.2 () failed rfl)
    | call c =>
      obtain ⟨failed', hpost, hkept, hrun⟩ :=
        ih (s.answer c).1 (s := (s.answer c).2) (h.2 (s.answer c).1 _ rfl)
      refine ⟨failed', hpost, fun hfailed => hkept (by rw [hfailed, Bool.true_or]), fun hno => ?_⟩
      -- a fault would have failed the call
      have hserved : (s.answer c).1 = (s.cluster.perform c).1 ∧
          (s.answer c).2.cluster = (s.cluster.perform c).2 := by
        cases hfault : (Fault.take c s.faults).1 with
        | none => simp [Simulation.answer, hfault]
        | some e =>
          have herror : (s.answer c).1 = .error e := by simp [Simulation.answer, hfault]
          have hset : failed' = true := hkept (by rw [herror]; simp [Except.isOk, Except.toBool])
          rw [hset] at hno
          cases hno
      have hnext : s.cluster.runRefusing error [] (.ask (.call c) next) =
          (s.answer c).2.cluster.runRefusing error [] (next (s.answer c).1) := by
        rw [hserved.1, hserved.2]
        refine (Cluster.runRefusing_bind error [] s.cluster (Action.call c) next).trans ?_
        rw [Cluster.runRefusing_call, FateRule.refusal_nil]
        rfl
      rw [hnext]
      exact hrun hno

/-! ## Applying and pruning -/

theorem upsert_failed (t : Template) (n : String) (failed : Bool) :
    (upsert t n).Notes failed fun r failed' =>
      failed' = true → failed = true ∨ ∃ e, r = .error e := by
  refine (Action.Notes.call _ failed).bind fun r failed₁ h₁ => ?_
  match r with
  | .error e => exact fun _ => Or.inr ⟨e, rfl⟩
  | .ok none | .ok (some _) =>
    refine (Action.Notes.call _ failed₁).bind fun r₂ failed₂ h₂ hset => ?_
    cases r₂ with
    | error e => exact Or.inr ⟨e, rfl⟩
    | ok _ => simp_all [Except.isOk, Except.toBool]

theorem applyEntry_failed (index : Nat) (raw : Json) (n : String) (failed : Bool) :
    (applyEntry index raw n).Notes failed fun report failed' =>
      failed' = true → failed = true ∨ report.failed ≠ [] := by
  rw [applyEntry]
  split
  · exact fun hset => Or.inl hset
  · refine (upsert_failed _ n failed).bind fun r failed' h => ?_
    cases r with
    | error e => exact fun _ => Or.inr (by simp)
    | ok outcome => cases outcome with
      | created | updated => exact fun hset => (h hset).imp_right (by simp)

/-- If a call fails while entries are applied, an entry is reported as failed. -/
theorem applyFrom_failed (raws : List Json) (index : Nat) (n : String) (failed : Bool) :
    (applyFrom index raws n).Notes failed fun report failed' =>
      failed' = true → failed = true ∨ report.failed ≠ [] := by
  induction raws generalizing index failed with
  | nil => exact Or.inl
  | cons raw rest ih =>
    refine (applyEntry_failed index raw n failed).bind fun first failed₁ h₁ => ?_
    refine (ih (index + 1) failed₁).bind fun others failed₂ h₂ hset => ?_
    have hfailed : (first.append others).failed = first.failed ++ others.failed := rfl
    rw [hfailed, ne_eq, List.append_eq_nil_iff]
    rcases h₂ hset with hset | hothers
    · exact (h₁ hset).imp_right fun hfirst h => hfirst h.1
    · exact Or.inr fun h => hothers h.2

theorem deleteTemplate_failed (t : Template) (n : String) (failed : Bool) :
    (deleteTemplate t n).Notes failed fun r failed' => failed' = (failed || !r.isOk) := by
  refine (Action.Notes.call _ failed).bind fun r failed' h => ?_
  cases r with
  | ok _ => exact h
  | error _ => exact h

/-- If a deletion fails, that is among the results. -/
theorem deleteEach_failed (templates : List Template) (n : String) (failed : Bool) :
    (deleteEach templates n).Notes failed fun results failed' =>
      failed' = true → failed = true ∨ ∃ r ∈ results, ∃ e, r.2 = some e := by
  induction templates generalizing failed with
  | nil => exact Or.inl
  | cons t rest ih =>
    refine (deleteTemplate_failed t n failed).bind fun deleted failed₁ h₁ => ?_
    refine (ih failed₁).bind fun others failed₂ h₂ hset => ?_
    rcases h₂ hset with hset | ⟨r, hr, he⟩
    · cases deleted with
      | ok _ => exact Or.inl (by simpa [h₁, Except.isOk, Except.toBool] using hset)
      | error e => exact Or.inr ⟨_, List.mem_cons_self, e, rfl⟩
    · exact Or.inr ⟨r, List.mem_cons_of_mem _ hr, he⟩

theorem pruneObsolete_failed (ns : Namespace) (removed : List Template) (failed : Bool) :
    (pruneObsolete ns removed).Notes failed fun report failed' =>
      failed' = true → failed = true ∨ report.failed ≠ [] := by
  rw [pruneObsolete]
  split
  · exact Or.inl
  · refine (deleteEach_failed removed ns.nameAny failed).bind fun results failed' h hset => ?_
    refine (h hset).imp_right ?_
    rintro ⟨r, hr, e, he⟩
    exact List.ne_nil_of_mem (List.mem_filterMap.2 ⟨r, hr, by rw [he]; rfl⟩)

/-! ## Updating -/

theorem updateNamespace_failed (resources : List Json) (revision : Revision) (ns : Namespace)
    (failed : Bool) : (updateNamespace resources revision ns).Notes failed fun reports failed' =>
      failed' = true → failed = true ∨ 0 < reports.1.failed.length + reports.2.failed.length := by
  rw [updateNamespace_eq]
  refine (applyFrom_failed resources 0 ns.nameAny failed).bind fun applied failed₁ h₁ => ?_
  have hprune : (if revision.prunes then pruneObsolete ns revision.templates
      else pure {}).Notes failed₁ fun report failed' =>
        failed' = true → failed₁ = true ∨ report.failed ≠ [] := by
    split
    · exact pruneObsolete_failed ns revision.templates failed₁
    · exact Or.inl
  refine (Dialogue.ensures_map _ _ _ _).2 (hprune.imp fun pruned failed₂ h₂ hset => ?_)
  rcases h₂ hset with hset | hpruned
  · exact (h₁ hset).imp_right fun happlied =>
      Nat.add_pos_left (List.length_pos_iff.2 happlied) _
  · exact Or.inr (Nat.add_pos_right _ (List.length_pos_iff.2 hpruned))

/-- If a call fails while namespaces are updated, the tally grows. -/
theorem updateEach_failed (resources : List Json) (revision : Revision) (tally : Tally)
    (namespaces : List Namespace) (failed : Bool) :
    (updateEach resources revision tally namespaces).Notes failed fun tally' failed' =>
      tally.failed ≤ tally'.failed ∧
        (failed' = true → failed = true ∨ tally.failed < tally'.failed) := by
  induction namespaces generalizing tally failed with
  | nil => exact ⟨Nat.le_refl _, Or.inl⟩
  | cons ns rest ih =>
    refine (updateNamespace_failed resources revision ns failed).bind fun reports failed₁ h₁ => ?_
    refine (ih (tally.add reports.1 reports.2) failed₁).imp fun tally' failed₂ h₂ => ?_
    obtain ⟨hgrown, hfailed⟩ := h₂
    have hadd : (tally.add reports.1 reports.2).failed =
        tally.failed + reports.1.failed.length + reports.2.failed.length := rfl
    rw [hadd] at hgrown hfailed
    refine ⟨by omega, fun hset => ?_⟩
    rcases hfailed hset with hset | hlater
    · exact (h₁ hset).imp_right fun _ => by omega
    · exact Or.inr (by omega)

theorem ensureFinalizer_failed (c : NamespaceClass) (failed : Bool) :
    (ensureFinalizer c).run.Notes failed fun r failed' => failed' = (failed || !r.isOk) := by
  rw [ensureFinalizer]
  split
  · exact Action.Notes.callOrFail _ failed
  · exact (Bool.or_false failed).symm

theorem writeRecord_failed (c : NamespaceClass) (record : List Json) (failed : Bool) :
    (writeRecord c record).run.Notes failed fun r failed' => failed' = (failed || !r.isOk) := by
  rw [writeRecord]
  split
  · exact (Bool.or_false failed).symm
  · exact (Action.Notes.callOrFail _ failed).bindExcept (fun _ _ h => h) fun _ _ h => h

/-- If a call of an update fails, the update ends with an error or counts a failure. -/
theorem applyClass_failed (c : NamespaceClass) :
    (applyClass c).run.Notes false fun r failed =>
      ∀ namespaces pruned, r = .ok (.applied namespaces 0 pruned) → failed = false := by
  rw [applyClass]
  refine (ensureFinalizer_failed c false).bindExcept (fun c₁ failed₁ h₁ => ?_) fun _ _ _ => nofun
  refine (Action.Notes.callOrFail _ failed₁).bindExcept (fun namespaces failed₂ h₂ => ?_)
    fun _ _ _ => nofun
  obtain rfl : failed₁ = false := h₁
  obtain rfl : failed₂ = false := h₂
  have hupdated : (liftM (updateEach c₁.spec.resources (Revision.of c₁)
      { retained := (Revision.of c₁).deferred } namespaces) : ReconcileAction Tally).run.Notes false
        fun r failed => ∀ tally, r = .ok tally → failed = true → 0 < tally.failed := by
    refine Action.Notes.lift ((updateEach_failed _ _ _ namespaces false).imp ?_)
    rintro tally failed ⟨-, h⟩ tally' ⟨⟩ hset
    exact (h hset).resolve_left Bool.false_ne_true
  refine hupdated.bindExcept (fun tally failed₃ h₃ => ?_) fun _ _ _ => nofun
  refine (writeRecord_failed c₁ _ failed₃).bindExcept (fun _ failed₄ h₄ => ?_) fun _ _ _ => nofun
  intro m pruned happlied
  obtain rfl : failed₄ = failed₃ := h₄.trans (Bool.or_false failed₃)
  cases hset : failed₄ with
  | false => rfl
  | true =>
    have hnone : tally.failed = 0 := by injection happlied with h; injection h
    exact absurd (h₃ tally rfl hset) (by omega)

/-! ## Reconciling a class -/

/-- A class reconcile that reports an update without failures has met none: if a call fails, it
ends in another way. -/
theorem reconcile_ofClass_failed (name : String) :
    (reconcile (.ofClass name)).run.Notes false fun r failed =>
      ∀ namespaces pruned, r = .ok (.applied namespaces 0 pruned) → failed = false := by
  have horphans : (reconcileOrphans name).run.Notes false fun r _ =>
      ∀ namespaces pruned, r ≠ .ok (.applied namespaces 0 pruned) :=
    (Action.Notes.any _ _).bindExcept
      (fun _ _ _ => (Action.Notes.any _ _).bindExcept (fun _ _ _ => nofun) fun _ _ _ => nofun)
      fun _ _ _ => nofun
  have hfinalize : ∀ c : NamespaceClass, (finalizeClass c).run.Notes false fun r _ =>
      ∀ namespaces pruned, r ≠ .ok (.applied namespaces 0 pruned) := by
    intro c
    refine (Action.Notes.any _ _).bindExcept (fun _ _ _ => ?_) fun _ _ _ => nofun
    refine (Action.Notes.any _ _).bindExcept (fun report _ _ => ?_) fun _ _ _ => nofun
    cases report.isComplete with
    | true => exact (Action.Notes.any _ _).bindExcept (fun _ _ _ => nofun) fun _ _ _ => nofun
    | false => exact nofun
  refine (Action.Notes.callOrFail (.getClass name) false).bindExcept (fun c? failed h => ?_)
    fun _ _ _ => nofun
  obtain rfl : failed = false := h
  match c? with
  | none => exact horphans.imp fun r _ hr m p happlied => absurd happlied (hr m p)
  | some (c : NamespaceClass) =>
    change (reconcileClass c).run.Notes false _
    rw [reconcileClass]
    split
    · exact applyClass_failed c
    · split
      · exact (hfinalize c).imp fun r _ hr m p happlied => absurd happlied (hr m p)
      · exact nofun

end ClassReconciler
