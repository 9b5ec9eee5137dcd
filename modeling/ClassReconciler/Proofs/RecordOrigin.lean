import ClassReconciler.Proofs.ClassEdits
import ClassReconciler.Proofs.PruneObligation

/-!
# Where the record of a class comes from

The record of a class is what its update goes by when it deletes: only templates on the record are
pruned. `Traced` says where the record comes from, in terms of the calls of one reconcile. A record
is written by a reconcile that has found the class, has listed its namespaces and has attempted to
write everything that the class declares into each of them (`RecordsApplied`); what it records
besides was on the record before. And what is deleted for a class that is not being deleted was on
its record as well.

An attempt may fail and is recorded all the same, and a namespace that does not name the class yet
sees none at all.

`reconcile_traced` goes through all functions of the reconciler, whatever is answered.
-/

namespace ClassReconciler

/-! ## Attempts -/

/-- The object of a template is created in a namespace, or replaced there. -/
def StoreCall.Upserts (c : StoreCall) (t : Template) (n : String) : Prop :=
  c = .createObject t.kind (t.toObject n) ∨
    ∃ version, c = .replaceObject t.kind ((t.toObject n).withVersion version)

namespace ScheduledCall

variable {r : ScheduledCall} {t : Template} {n : String}

def Failed (r : ScheduledCall) : Prop := ∃ e, (r.met.meet r.call r.fate).1 = .error e

/-- The call has written the object of a template into a namespace, or it has failed and with it
the attempt to do so. -/
def Attempts (r : ScheduledCall) (t : Template) (n : String) : Prop :=
  r.call.Upserts t n ∧ r.Succeeded ∨
    (r.call.Upserts t n ∨ r.call = .getObject t.kind n t.name) ∧ r.Failed

theorem succeeded_or_failed (r : ScheduledCall) : r.Succeeded ∨ r.Failed := by
  obtain ⟨met, c, f⟩ := r
  cases f with
  | refused e | lost e => exact Or.inr ⟨e, rfl⟩
  | served =>
    cases h : (met.perform c).1 with
    | ok a => exact Or.inl ⟨rfl, a, h⟩
    | error e => exact Or.inr ⟨e, h⟩

theorem attempts_of_upserts (h : r.call.Upserts t n) : r.Attempts t n :=
  r.succeeded_or_failed.imp (⟨h, ·⟩) (⟨Or.inl h, ·⟩)

end ScheduledCall

/-- Each of the templates is attempted in a namespace. -/
def AttemptsEach (calls : List ScheduledCall) (templates : List Template) (n : String) : Prop :=
  ∀ t ∈ templates, ∃ d ∈ calls, d.Attempts t n

theorem AttemptsEach.mono {calls calls' : List ScheduledCall} {templates : List Template}
    {n : String} (h : AttemptsEach calls templates n) (hsubset : calls ⊆ calls') :
    AttemptsEach calls' templates n := by
  intro t ht
  obtain ⟨d, hd, hattempts⟩ := h t ht
  exact ⟨d, hsubset hd, hattempts⟩

section Walk

variable {admits : Fate → Prop}

theorem upsert_attempts (t : Template) (n : String) (past : List ScheduledCall) :
    (upsert t n).Ensures (AnswersAmong admits) (fun _ _ => True) past fun _ past' =>
      ∃ more, past' = past ++ more ∧ ∃ d ∈ more, d.Attempts t n := by
  refine (Dialogue.ensures_bind _ _ _ _).2 (ensures_call_among trivial fun met f _ _ => ?_)
  let read : ScheduledCall := ⟨met, .getObject t.kind n t.name, f⟩
  have hwrite : ∀ c : StoreCall, c.Upserts t n → ∀ g : c.Result → Except StoreError Upserted,
      (g <$> Action.call c).Ensures (AnswersAmong admits) (fun _ _ => True) (past ++ [read])
        fun _ past' => ∃ more, past' = past ++ more ∧ ∃ d ∈ more, d.Attempts t n := by
    refine fun c hc g => (Dialogue.ensures_map _ _ _ _).2
      (ensures_call_among trivial fun met' f' _ _ => ?_)
    refine ⟨[read, ⟨met', c, f'⟩], by simp, ⟨met', c, f'⟩, by simp, ?_⟩
    exact ScheduledCall.attempts_of_upserts hc
  cases hread : (met.meet read.call f).1 with
  | error e => exact ⟨[read], rfl, read, by simp, Or.inr ⟨Or.inr rfl, e, hread⟩⟩
  | ok found => cases found with
    | none => exact hwrite _ (Or.inl rfl) _
    | some existing => exact hwrite _ (Or.inr ⟨_, rfl⟩) _

theorem applyEntry_attempts (index : Nat) (raw : Json) (n : String)
    (past : List ScheduledCall) :
    (applyEntry index raw n).Ensures (AnswersAmong admits) (fun _ _ => True) past fun _ past' =>
      ∃ more, past' = past ++ more ∧
        ∀ t, Template.parse raw = .ok t → ∃ d ∈ more, d.Attempts t n := by
  rw [applyEntry]
  split
  case h_1 e he =>
    refine ⟨[], by simp, fun t ht => ?_⟩
    rw [he] at ht
    cases ht
  case h_2 t ht =>
    refine (Dialogue.ensures_bind _ _ _ _).2 ((upsert_attempts t n past).imp ?_)
    rintro r past' ⟨more, rfl, hmore⟩
    have hattempted : ∀ u, Template.parse raw = .ok u → ∃ d ∈ more, d.Attempts u n := by
      intro u hu
      obtain rfl := Except.ok.inj (ht.symm.trans hu)
      exact hmore
    cases r with
    | error e => exact ⟨more, rfl, hattempted⟩
    | ok written => cases written <;> exact ⟨more, rfl, hattempted⟩

/-- Applying attempts every entry that is a template. -/
theorem applyFrom_attempts (raws : List Json) (index : Nat) (n : String)
    (past : List ScheduledCall) :
    (applyFrom index raws n).Ensures (AnswersAmong admits) (fun _ _ => True) past fun _ past' =>
      ∃ more, past' = past ++ more ∧ AttemptsEach more (Template.parseAll raws) n := by
  induction raws generalizing index past with
  | nil => exact ⟨[], by simp, fun t ht => absurd ht List.not_mem_nil⟩
  | cons raw rest ih =>
    refine (Dialogue.ensures_bind _ _ _ _).2 ((applyEntry_attempts index raw n past).imp ?_)
    rintro first _ ⟨calls, rfl, hfirst⟩
    refine (Dialogue.ensures_bind _ _ _ _).2 ((ih (index + 1) (past ++ calls)).imp ?_)
    rintro others _ ⟨calls', rfl, hothers⟩
    refine ⟨calls ++ calls', List.append_assoc .., fun t ht => ?_⟩
    obtain ⟨raw', hraw', hparse⟩ := Template.mem_parseAll.1 ht
    rcases List.mem_cons.1 hraw' with rfl | hraw'
    · obtain ⟨d, hd, hattempts⟩ := hfirst t hparse
      exact ⟨d, List.mem_append_left _ hd, hattempts⟩
    · obtain ⟨d, hd, hattempts⟩ := hothers t (Template.mem_parseAll.2 ⟨raw', hraw', hparse⟩)
      exact ⟨d, List.mem_append_right _ hd, hattempts⟩

theorem updateNamespace_attempts (resources : List Json) (revision : Revision) (ns : Namespace)
    (past : List ScheduledCall) :
    (updateNamespace resources revision ns).Ensures (AnswersAmong admits) (fun _ _ => True) past
      fun _ past' => ∃ more, past' = past ++ more ∧
        AttemptsEach more (Template.parseAll resources) ns.nameAny := by
  rw [updateNamespace_eq]
  refine (Dialogue.ensures_bind _ _ _ _).2 ((applyFrom_attempts resources 0 _ past).imp ?_)
  rintro applied _ ⟨calls, rfl, happlied⟩
  refine (Dialogue.ensures_map _ _ _ _).2 ?_
  split
  case isFalse => exact ⟨calls, rfl, happlied⟩
  case isTrue =>
    -- pruning comes after the attempts
    refine (ensures_among_of_asks (pruneObsolete_asks ns revision.templates) _
      fun _ _ _ _ => trivial).imp ?_
    rintro pruned _ ⟨calls', rfl, -⟩
    exact ⟨calls ++ calls', List.append_assoc .., happlied.mono (List.subset_append_left _ _)⟩

/-- An update attempts every resource that is a template in every namespace. -/
theorem updateEach_attempts (resources : List Json) (revision : Revision) (tally : Tally)
    (namespaces : List Namespace) (past : List ScheduledCall) :
    (updateEach resources revision tally namespaces).Ensures (AnswersAmong admits)
      (fun _ _ => True) past fun _ past' => ∃ more, past' = past ++ more ∧
        ∀ ns ∈ namespaces, AttemptsEach more (Template.parseAll resources) ns.nameAny := by
  induction namespaces generalizing tally past with
  | nil => exact ⟨[], by simp, by simp⟩
  | cons ns rest ih =>
    refine (Dialogue.ensures_bind _ _ _ _).2
      ((updateNamespace_attempts resources revision ns past).imp ?_)
    rintro r _ ⟨calls, rfl, hfirst⟩
    refine (ih (tally.add r.1 r.2) (past ++ calls)).imp ?_
    rintro tally' _ ⟨calls', rfl, hothers⟩
    refine ⟨calls ++ calls', List.append_assoc .., fun ns' hns' => ?_⟩
    rcases List.mem_cons.1 hns' with rfl | hns'
    · exact hfirst.mono (List.subset_append_left _ _)
    · exact (hothers ns' hns').mono (List.subset_append_right _ _)

/-! ## What is traced -/

/-- What a reconcile has done when it writes the status of a class. It has found the class, which
was not being deleted, and declares what was found. It has listed the namespaces and attempted to
write all that is declared into each of them. And what it records and does not declare, it has
found on the record. -/
structure RecordsApplied (past : List ScheduledCall) (c : NamespaceClass) : Prop where
  found : ∃ r ∈ past, ∃ found, r.Finds c.nameAny found ∧ found.isDeleting = false ∧
    c.spec = found.spec
  attempted : ∃ before listing after, past = before ++ listing :: after ∧
    listing.call = .namespacesForClass c.nameAny ∧ listing.fate = .served ∧
    ∀ ns ∈ listing.met.namespacesForClass c.nameAny,
      AttemptsEach after (Template.parseAll c.spec.resources) ns.nameAny
  kept : ∀ raw ∈ c.lastApplied, raw ∈ c.spec.resources ∨
    ∃ r ∈ past, r.met.Records c.nameAny raw

/-- What a reconcile has found when it writes a record, and when it deletes an object for a class
that is not being deleted. -/
def Traced (past : List ScheduledCall) : Effect → Prop
  | .call (.replaceClassStatus c) => RecordsApplied past c
  | .call (.deleteObject kind _ x) => ∀ r ∈ past, ∀ name c, r.Finds name c →
      c.isDeleting = false → ∃ d ∈ past, ∃ raw t, d.met.Records name raw ∧
        Template.parse raw = .ok t ∧ t.kind = kind ∧ t.name = x
  | _ => True

/-- No class has been found but the one of this name. -/
def FindsOnly (past : List ScheduledCall) (name : String) (c : NamespaceClass) : Prop :=
  ∀ r ∈ past, ∀ name' c', r.Finds name' c' → name' = name ∧ c' = c

/-- The effect does not read a class. -/
def Effect.FindsNone : Effect → Prop
  | .call (.getClass _) => False
  | _ => True

theorem Effect.WorksIn.findsNone {n : String} {deletes : ObjectKind → String → Prop} {e : Effect}
    (h : e.WorksIn n deletes) : e.FindsNone := by
  cases e with
  | warn w => trivial
  | call c => cases c with
    | getClass name => exact h
    | _ => trivial

theorem FindsOnly.append {past more : List ScheduledCall} {name : String} {c : NamespaceClass}
    (h : FindsOnly past name c) (hmore : ∀ d ∈ more, Effect.FindsNone (.call d.call)) :
    FindsOnly (past ++ more) name c := by
  intro r hr name' c' hfinds
  rcases List.mem_append.1 hr with hr | hr
  · exact h r hr name' c' hfinds
  · have hnone := hmore r hr
    rw [hfinds.call] at hnone
    exact hnone.elim

theorem FindsOnly.append_work {past more : List ScheduledCall} {name : String}
    {c : NamespaceClass} {namespaces : List Namespace}
    {deletes : Namespace → ObjectKind → String → Prop} (h : FindsOnly past name c)
    (hmore : ∀ d ∈ more, ∃ ns ∈ namespaces,
      Effect.WorksIn ns.nameAny (deletes ns) (.call d.call)) :
    FindsOnly (past ++ more) name c := by
  refine h.append fun d hd => ?_
  obtain ⟨ns, -, hworks⟩ := hmore d hd
  exact hworks.findsNone

/-! ## Namespaces -/

/-- The reconcile of a namespace deletes nothing and writes no record. -/
theorem reconcileNamespace_traced (ns : Namespace) (past : List ScheduledCall) :
    (reconcileNamespace ns).run.Ensures (AnswersAmong admits) Traced past fun _ _ => True := by
  rw [reconcileNamespace]
  cases ns.className? with
  | none => trivial
  | some className =>
    refine ensures_read_among (fun s => s.classes.find? className) (fun _ => rfl) trivial
      (fun _ _ => trivial) fun met _ => ?_
    cases met.classes.find? className with
    | none =>
      exact (ensures_exceptT_bind _ _ _ _).2
        ((ensures_liftM _ _ _).2 ⟨trivial, fun _ _ _ => trivial⟩)
    | some c =>
      simp only
      split
      case isTrue => trivial
      case isFalse =>
        refine (ensures_exceptT_bind _ _ _ _).2 ((ensures_liftM _ _ _).2
          (.of_asks_true (applyFrom_asks c.spec.resources 0 ns.nameAny) _ fun s e he => ?_))
        cases e with
        | warn w => trivial
        | call c => cases c with
          | replaceClassStatus => exact he.elim
          | deleteObject => exact he.2.elim
          | _ => trivial

theorem reconcileOrphans_traced (className : String) (past : List ScheduledCall) :
    (reconcileOrphans className).run.Ensures (AnswersAmong admits) Traced past
      fun _ _ => True := by
  refine ensures_read_among (fun s => s.namespacesForClass className) (fun _ => rfl) trivial
    (fun _ _ => trivial) fun met _ => ?_
  refine (ensures_exceptT_bind _ _ _ _).2 ((ensures_liftM _ _ _).2
    (.of_asks_true (warnEach_asks className _) _ ?_))
  rintro past' _ ⟨w, rfl⟩
  trivial

/-! ## Classes -/

/-- An update deletes what is on the record of the class that was found. -/
theorem updateEach_traced {c c' : NamespaceClass} {name : String} {past : List ScheduledCall}
    (honly : FindsOnly past name c)
    (hrecord : ∀ raw ∈ c'.lastApplied, ∃ d ∈ past, d.met.Records name raw) (tally : Tally)
    (namespaces : List Namespace) :
    (updateEach c'.spec.resources (Revision.of c') tally namespaces).Ensures (AnswersAmong admits)
      Traced past fun _ past' => ∃ more, past' = past ++ more ∧ ∀ ns ∈ namespaces,
        AttemptsEach more (Template.parseAll c'.spec.resources) ns.nameAny := by
  refine ((ensures_among_of_asks (updateEach_asks _ _ tally namespaces) past ?_).and
    (updateEach_attempts _ _ tally namespaces past)).imp fun _ _ h => h.2
  rintro more hmore e ⟨ns, -, he⟩
  cases e with
  | warn w => trivial
  | call call => cases call with
    | replaceClassStatus => exact he.elim
    | deleteObject kind n x =>
      intro r hr name' found hfinds _
      obtain ⟨rfl, -⟩ := honly.append_work hmore r hr name' found hfinds
      obtain ⟨-, -, -, t, ht, hkind, hx⟩ := he
      obtain ⟨raw, hraw, hparse, -⟩ := Revision.mem_templates.1 ht
      obtain ⟨d, hd, hrecords⟩ := hrecord raw hraw
      exact ⟨d, List.mem_append_left _ hd, raw, t, hrecords, hparse, hkind, hx⟩
    | _ => trivial

theorem writeRecord_traced {c : NamespaceClass} {record : List Json} {past : List ScheduledCall}
    (h : RecordsApplied past { c with status := some ⟨record⟩ }) :
    (writeRecord c record).run.Ensures (AnswersAmong admits) Traced past fun _ _ => True := by
  rw [writeRecord]
  split
  · trivial
  · refine (ensures_exceptT_bind _ _ _ _).2 (ensures_callOrFail_among h fun met f _ _ => ?_)
    cases (met.meet _ f).1.mapError ReconcileError.store <;> trivial

section Class

variable {past : List ScheduledCall} {read : ScheduledCall} {name : String} {c : NamespaceClass}
  (hread : read ∈ past) (hfinds : read.Finds name c) (hname : c.nameAny = name)

include hread hfinds hname

/-- The class with the finalizer declares what was found and has the record of the stored one. -/
theorem ensureFinalizer_traced :
    (ensureFinalizer c).run.Ensures (AnswersAmong admits) Traced past fun r past' =>
      ∃ more, past' = past ++ more ∧ (∀ d ∈ more, Effect.FindsNone (.call d.call)) ∧
        ∀ c', r = .ok c' → c'.nameAny = name ∧ c'.spec = c.spec ∧
          ∀ raw ∈ c'.lastApplied, ∃ d ∈ past', d.met.Records name raw := by
  cases hf : c.hasFinalizer with
  | true =>
    rw [ensureFinalizer, NamespaceClass.addFinalizer_of_hasFinalizer hf]
    refine ⟨[], by simp, by simp, ?_⟩
    rintro _ ⟨⟩
    exact ⟨hname, rfl, fun raw hraw => ⟨read, hread, c, hfinds.found, hraw⟩⟩
  | false =>
    rw [ensureFinalizer_of_not_hasFinalizer hf]
    refine ensures_callOrFail_among trivial fun met f _ hfollows => ?_
    let write : ScheduledCall := ⟨met, .replaceClass c.addFinalizer.2, f⟩
    refine ⟨[write], rfl, by simp [write, Effect.FindsNone], fun c' hc' => ?_⟩
    -- the class is answered as it is stored by the write
    have hwritten : (met.replaceClass c.addFinalizer.2).1 = .ok c' := by
      cases f with
      | refused e | lost e => cases hc'
      | served =>
        rw [Cluster.meet, Cluster.perform] at hc'
        cases h : (met.replaceClass c.addFinalizer.2).1 with
        | error e =>
          rw [h] at hc'
          cases hc'
        | ok c₁ =>
          rw [h] at hc'
          exact congrArg _ (Except.ok.inj hc')
    obtain ⟨stored, hstored, -, rfl⟩ := Cluster.exists_of_replaceClass_ok hwritten
    have hname' : c.addFinalizer.2.nameAny = name := c.nameAny_addFinalizer.trans hname
    rw [Cluster.accepted_of_quiet (hfollows.reachable.wellFormed.find?_webhooks _)]
    have hmem : write ∈ past ++ [write] := List.mem_append_right _ (List.mem_singleton_self write)
    exact ⟨hname', c.spec_addFinalizer, fun raw hraw =>
      ⟨write, hmem, stored, hname' ▸ hstored, hraw⟩⟩

theorem applyClass_traced (honly : FindsOnly past name c) (active : c.isDeleting = false) :
    (applyClass c).run.Ensures (AnswersAmong admits) Traced past fun _ _ => True := by
  rw [applyClass]
  refine (ensures_exceptT_bind _ _ _ _).2 ((ensureFinalizer_traced hread hfinds hname).imp ?_)
  rintro r _ ⟨more, rfl, hmore, hok⟩
  cases r with
  | error e => trivial
  | ok c₁ =>
    obtain ⟨hname₁, hspec, hrecord⟩ := hok c₁ rfl
    rw [hname]
    refine ensures_read_among (fun s => s.namespacesForClass name) (fun _ => rfl) trivial
      (fun _ _ => trivial) fun met _ => ?_
    let listing : ScheduledCall := ⟨met, .namespacesForClass name, .served⟩
    have honly' : FindsOnly (past ++ more ++ [listing]) name c := by
      refine (honly.append hmore).append fun d hd => ?_
      rw [List.mem_singleton.1 hd]
      trivial
    have hrecord' : ∀ raw ∈ c₁.lastApplied,
        ∃ d ∈ past ++ more ++ [listing], d.met.Records name raw := by
      intro raw hraw
      obtain ⟨d, hd, hrecords⟩ := hrecord raw hraw
      exact ⟨d, List.mem_append_left _ hd, hrecords⟩
    refine (ensures_exceptT_bind _ _ _ _).2 ((ensures_liftM _ _ _).2
      ((updateEach_traced honly' hrecord' _ _).imp ?_))
    rintro tally _ ⟨calls, rfl, hattempted⟩
    refine (ensures_exceptT_bind _ _ _ _).2 ((writeRecord_traced ?_).imp fun r _ _ => ?_)
    · subst hname₁
      refine ⟨⟨read, by simp [hread], c, hfinds, active, hspec⟩,
        ⟨past ++ more, listing, calls, by simp, rfl, rfl, hattempted⟩, fun raw hraw => ?_⟩
      rcases List.mem_append.1 hraw with hraw | hraw
      · exact Or.inl hraw
      · obtain ⟨⟨t, raw⟩, hremoved, rfl⟩ := List.mem_map.1 hraw
        obtain ⟨d, hd, hrecords⟩ :=
          hrecord' raw (Revision.mem_removed.1 (List.mem_filter.1 hremoved).1).1
        exact Or.inr ⟨d, List.mem_append_left _ hd, hrecords⟩
    · cases r <;> trivial

end Class

/-- The cleanup after a class that is being deleted. -/
theorem finalizeClass_traced {past : List ScheduledCall} {name : String} {c : NamespaceClass}
    (honly : FindsOnly past name c) (deleting : c.isDeleting = true) :
    (finalizeClass c).run.Ensures (AnswersAmong admits) Traced past fun _ _ => True := by
  rw [finalizeClass]
  refine ensures_read_among (fun s => s.namespacesForClass c.nameAny) (fun _ => rfl) trivial
    (fun _ _ => trivial) fun met _ => ?_
  let listing : ScheduledCall := ⟨met, .namespacesForClass c.nameAny, .served⟩
  have honly' : FindsOnly (past ++ [listing]) name c := honly.append fun d hd => by
    rw [List.mem_singleton.1 hd]
    trivial
  refine (ensures_exceptT_bind _ _ _ _).2 ((ensures_liftM _ _ _).2
    ((ensures_among_of_asks (finalizeEach_asks _ _ _) _ ?_).imp fun report past' _ => ?_))
  · rintro more hmore e ⟨ns, -, he⟩
    cases e with
    | warn w => trivial
    | call call => cases call with
      | replaceClassStatus => exact he.elim
      | deleteObject kind n x =>
        -- no other class has been found
        intro r hr name' found hfinds active
        obtain ⟨-, rfl⟩ := honly'.append_work hmore r hr name' found hfinds
        rw [deleting] at active
        cases active
      | _ => trivial
  · simp only
    split
    case isFalse => trivial
    case isTrue =>
      refine (ensures_exceptT_bind _ _ _ _).2
        (ensures_callOrFail_among trivial fun met' f _ _ => ?_)
      cases (met'.meet _ f).1.mapError ReconcileError.store <;> trivial

/-! ## Reconciles -/

theorem reconcileClassNamed_traced {past : List ScheduledCall}
    (hpast : ∀ d ∈ past, Effect.FindsNone (.call d.call)) (name : String) :
    (reconcileClassNamed name).run.Ensures (AnswersAmong admits) Traced past fun _ _ => True := by
  refine ensures_read_among (fun s => s.classes.find? name) (fun _ => rfl) trivial
    (fun _ _ => trivial) fun met hfollows => ?_
  cases hc : met.classes.find? name with
  | none => exact reconcileOrphans_traced name _
  | some c =>
    let read : ScheduledCall := ⟨met, .getClass name, .served⟩
    have hfinds : read.Finds name c := ⟨rfl, rfl, hc⟩
    have hname : c.nameAny = name := hfollows.reachable.wellFormed.classes hc
    have honly : FindsOnly (past ++ [read]) name c := by
      intro r hr name' c' hfinds'
      rcases List.mem_append.1 hr with hr | hr
      · have hnone := hpast r hr
        rw [hfinds'.call] at hnone
        exact hnone.elim
      · rw [List.mem_singleton.1 hr] at hfinds'
        obtain rfl := StoreCall.getClass.inj (hfinds.call.symm.trans hfinds'.call)
        exact ⟨rfl, Option.some.inj (hfinds'.found.symm.trans hfinds.found)⟩
    simp only [reconcileClass]
    cases hdeleting : c.isDeleting with
    | false => exact applyClass_traced (by simp [read]) hfinds hname honly hdeleting
    | true => cases c.hasFinalizer with
      | true => exact finalizeClass_traced honly hdeleting
      | false => trivial

/-- Whatever is answered, a reconcile writes a record and deletes for a class that is not being
deleted only as traced. -/
theorem reconcile_traced (key : Key) :
    (reconcile key).run.Ensures (AnswersAmong admits) Traced [] fun _ _ => True := by
  rw [reconcile]
  split
  case isTrue => exact reconcileClassNamed_traced (by simp) key.name
  case isFalse =>
    refine ensures_read_among (fun s => s.namespaces.find? key.name) (fun _ => rfl) trivial
      (fun _ _ => trivial) fun met _ => ?_
    cases met.namespaces.find? key.name with
    | some ns => exact reconcileNamespace_traced ns _
    | none =>
      simp only
      split
      · trivial
      · exact reconcileClassNamed_traced (by simp [Effect.FindsNone]) key.name

end Walk

end ClassReconciler
