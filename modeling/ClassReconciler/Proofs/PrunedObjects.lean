import ClassReconciler.Proofs.RecordOrigin

/-!
# Which objects are pruned

Reconciles of any keys take turns with each other and with clients who write namespaces, objects and
the specs of classes, while calls fail at any time. `exists_recordsDeclared` follows a resource on
the record of a class back to the reconcile that put it there: that one had found the resource
declared, and had attempted it in all namespaces of the class. So had one whose record is gone by
when an object is pruned (`pruned_was_attempted`).

An attempt is not a success, and the record is one for all namespaces. A namespace that comes to
name the class later, or in which the attempt failed, has its objects pruned like all others, also
one that a user has created there (`pruned_without_upsert`).
-/

namespace ClassReconciler

/-! ## Who writes records -/

/-- The client writes no record of a class. -/
def ClientWrite.SparesRecords : ClientWrite → Prop
  | .putClass c => c.lastApplied = []
  | .editClass _ edit _ => ∀ c, (edit c).lastApplied = c.lastApplied
  | .request (.replaceClassStatus _) => False
  | _ => True

def Turn.SparesRecords : Turn Key → Prop
  | .write w => w.SparesRecords
  | _ => True

namespace Cluster

variable {s : Cluster} {name : String} {raw : Json}

theorem records_congr {s' : Cluster} (h : s'.classes.find? name = s.classes.find? name) :
    s'.Records name raw ↔ s.Records name raw := by
  rw [Records, h, Records]

/-- A class keeps its record when it is replaced. -/
theorem Records.of_replaceClass (quiet : s.webhooks = .empty) {c : NamespaceClass}
    (h : (s.replaceClass c).2.Records name raw) : s.Records name raw := by
  rcases s.replaceClass_cases c with hsame | ⟨stored, hstored, hv⟩
  · rwa [hsame] at h
  by_cases hname : name = c.nameAny
  · subst hname
    obtain ⟨c', hc', hraw⟩ := h
    rw [replaceClass_of_version hstored hv, accepted_of_quiet (quiet ▸ rfl)] at hc'
    simp only at hc'
    split at hc'
    · rw [SortedMap.find?_erase, if_pos rfl] at hc'
      cases hc'
    · rw [SortedMap.find?_insert, if_pos rfl] at hc'
      obtain rfl := Option.some.inj hc'
      exact ⟨stored, hstored, hraw⟩
  · rwa [records_congr (s.find?_replaceClass_of_ne hname)] at h

/-- No call writes a record but the one that replaces a status. -/
theorem Records.of_meet (quiet : s.webhooks = .empty) {c : StoreCall}
    (hc : ∀ c', c ≠ .replaceClassStatus c') {f : Fate} (h : (s.meet c f).2.Records name raw) :
    s.Records name raw := by
  by_cases hspares : Effect.SparesClasses (.call c)
  · rwa [records_congr (congrArg (·.find? name) (classes_meet_of_sparesClasses hspares s f))] at h
  cases c with
  | replaceClass c =>
    rcases s.meet_cluster (.replaceClass c) f with hs | hs <;> rw [hs] at h
    · exact h
    · exact h.of_replaceClass quiet
  | replaceClassStatus c => exact absurd rfl (hc c)
  | _ => exact absurd trivial hspares

/-- A client who writes no record adds none. -/
theorem Records.of_apply (quiet : s.webhooks = .empty) {w : ClientWrite} (hw : w.SparesRecords)
    (h : (w.apply s).Records name raw) : s.Records name raw := by
  cases w with
  | putNamespace | putObject | deleteNamespace => exact h
  | request c => exact h.of_meet (f := .served) quiet fun c' hc => by rwa [hc] at hw
  | deleteClass d =>
    obtain ⟨c, hc, hraw⟩ := h
    rw [ClientWrite.apply, deleteClass, SortedMap.find?_erase] at hc
    split at hc
    · cases hc
    · exact ⟨c, hc, hraw⟩
  | putClass c =>
    obtain ⟨c', hc', hraw⟩ := h
    rw [ClientWrite.apply, putClass, SortedMap.find?_insert] at hc'
    split at hc'
    · obtain rfl := Option.some.inj hc'
      have hraw : raw ∈ c.lastApplied := hraw
      rw [show c.lastApplied = [] from hw] at hraw
      cases hraw
    · exact ⟨c', hc', hraw⟩
  | editClass d edit keepsName =>
    rw [ClientWrite.apply, editClass] at h
    cases hd : s.classes.find? d with
    | none => rwa [hd] at h
    | some c =>
      obtain ⟨c', hc', hraw⟩ := h
      rw [hd, Option.map_some, Option.getD_some, SortedMap.find?_insert] at hc'
      split at hc'
      case isTrue hname =>
        obtain rfl := Option.some.inj hc'
        exact ⟨c, hname ▸ hd, hw c ▸ hraw⟩
      case isFalse => exact ⟨c', hc', hraw⟩

end Cluster

/-! ## Where a record comes from -/

/-- The call has recorded a resource that its class declares, as a reconcile does that has
attempted to apply it. -/
def ScheduledCall.RecordsDeclared (r : ScheduledCall) (past : List ScheduledCall) (name : String)
    (raw : Json) : Prop :=
  ∃ c, r.call = .replaceClassStatus c ∧ c.nameAny = name ∧ raw ∈ c.spec.resources ∧
    RecordsApplied past c ∧ r.after.Records name raw

/-- What the calls of a reconcile have made of a template in a namespace: its object was written
there, or the namespace did not name the class when they were listed, or the attempt has failed. -/
def AttemptedIn (calls : List ScheduledCall) (name : String) (t : Template) (n : String) : Prop :=
  (∃ d ∈ calls, d.call.Upserts t n ∧ d.Succeeded) ∨
    (∃ listing ∈ calls, listing.call = .namespacesForClass name ∧ listing.fate = .served ∧
      ∀ ns ∈ listing.met.namespacesForClass name, ns.nameAny ≠ n) ∨
    ∃ d ∈ calls, (d.call.Upserts t n ∨ d.call = .getObject t.kind n t.name) ∧ d.Failed

theorem RecordsApplied.attemptedIn {past : List ScheduledCall} {c : NamespaceClass}
    (h : RecordsApplied past c) {t : Template} (ht : t ∈ Template.parseAll c.spec.resources)
    (n : String) : AttemptedIn past c.nameAny t n := by
  obtain ⟨before, listing, after, rfl, hcall, hserved, hall⟩ := h.attempted
  by_cases hlisted : ∃ ns ∈ listing.met.namespacesForClass c.nameAny, ns.nameAny = n
  · obtain ⟨ns, hns, rfl⟩ := hlisted
    obtain ⟨d, hd, hdone | hfailed⟩ := hall ns hns t ht
    · exact Or.inl ⟨d, by simp [hd], hdone⟩
    · exact Or.inr (Or.inr ⟨d, by simp [hd], hfailed⟩)
  · exact Or.inr (Or.inl ⟨listing, by simp, hcall, hserved, fun ns hns hname =>
      hlisted ⟨ns, hns, hname⟩⟩)

section Run

variable {s : Cluster} (hs : s.Reachable) {turns : List (Turn Key)}
  (hturns : ∀ turn ∈ turns, turn.SparesRecords) {name : String} {raw : Json}
  (hfresh : ¬s.Records name raw)

include hs

theorem follows_traced : (s.reconciling turns).Follows (fun _ => True) (fun _ => Traced)
    (fun _ _ _ => True) :=
  SharedCluster.follows_run hs reconcile_traced fun _ _ _ => trivial

include hturns hfresh

/-- What is on a record when a call is made was put there by an earlier call. -/
theorem exists_recording {before later : List TaskCall} {d : TaskCall}
    (hlog : (s.reconciling turns).log = before ++ d :: later) (h : d.met.Records name raw) :
    ∃ earlier e between c, before = earlier ++ e :: between ∧ e.call = .replaceClassStatus c ∧
      c.nameAny = name ∧ raw ∈ c.lastApplied ∧ e.after.Records name raw := by
  have hrun : (s.reconciling turns).TracesFirst fun s => s.Reachable ∧ ¬s.Records name raw := by
    refine (SharedCluster.tracesFirst_start ⟨hs, hfresh⟩).run fun w hw s ⟨hs, hnot⟩ => ?_
    exact ⟨(s.leadsTo_apply w).reachable hs, fun h =>
      hnot (h.of_apply hs.wellFormed.quiet (hturns _ hw))⟩
  obtain ⟨earlier, e, between, hbefore, ⟨hmet, hnot⟩, hafter⟩ := hrun.met hlog fun h' => h'.2 h
  have hrecords : e.after.Records name raw := Classical.not_not.1 fun hnone =>
    hafter ⟨(e.met.leadsTo_meet e.call e.fate).reachable hmet, hnone⟩
  cases hcall : e.call with
  | replaceClassStatus c =>
    rcases statusWrite_cases hcall with hsame | ⟨stored, -, hwritten, hothers⟩
    · exact absurd (hsame ▸ hrecords) hnot
    by_cases hname : name = c.nameAny
    · obtain ⟨c', hc', hraw⟩ := hrecords
      rw [hname] at hc'
      obtain rfl := Option.some.inj (hwritten.symm.trans hc')
      exact ⟨earlier, e, between, c, hbefore, hcall, hname.symm, hraw, _, hname ▸ hc', hraw⟩
    · exact absurd ((Cluster.records_congr (hothers name hname)).1 hrecords) hnot
  | _ => exact absurd (hrecords.of_meet hmet.wellFormed.quiet (by simp [hcall])) hnot

/-- What a task has found on a record was put there by an earlier reconcile that found it
declared. -/
theorem exists_recordsDeclared {before later : List TaskCall}
    (hlog : (s.reconciling turns).log = before ++ later) {i : Nat} {r : ScheduledCall}
    (hr : r ∈ callsOf before i) (h : r.met.Records name raw) :
    ∃ earlier e between, before = earlier ++ e :: between ∧
      e.RecordsDeclared (callsOf earlier e.task) name raw := by
  -- by induction on how many calls came before, of which there are fewer each time
  induction hn : before.length using Nat.strongRecOn generalizing before later i r with
  | _ n ih =>
  obtain ⟨d, hd, -, rfl⟩ := mem_callsOf.1 hr
  obtain ⟨l, l', rfl⟩ := List.append_of_mem hd
  have hfound : (s.reconciling turns).log = l ++ d :: (l' ++ later) := by simpa using hlog
  obtain ⟨earlier, e, between, c, rfl, hcall, hname, hraw, hrecords⟩ :=
    exists_recording hs hturns hfresh hfound h
  have hwritten : (s.reconciling turns).log =
      earlier ++ e :: (between ++ d :: (l' ++ later)) := by simpa using hfound
  obtain ⟨-, -, -, htraced⟩ := (follows_traced hs).log hwritten
  rw [hcall] at htraced
  have happlied : RecordsApplied (callsOf earlier e.task) c := htraced
  rcases happlied.kept raw hraw with hdeclared | ⟨r', hr', hkept⟩
  · exact ⟨earlier, e, between ++ d :: l', by simp, c, hcall, hname, hdeclared, happlied, hrecords⟩
  · -- the reconcile has kept what it found on the record itself
    have hlength : earlier.length < n := by
      simp only [← hn, List.length_append, List.length_cons]
      omega
    obtain ⟨earlier', e', between', rfl, he'⟩ :=
      ih earlier.length hlength hwritten hr' (hname ▸ hkept) rfl
    exact ⟨earlier', e', between' ++ e :: (between ++ d :: l'), by simp, he'⟩

end Run

/-- Where the class had no record and no client writes one: what a reconcile deletes for a class
that it has found not to be deleted, an earlier reconcile has recorded, which had found the class to
declare it. That one has written it into the namespace, unless the namespace did not name the class
when it listed them or the attempt failed. -/
theorem pruned_was_attempted {s : Cluster} (hs : s.Reachable) {turns : List (Turn Key)}
    (hturns : ∀ turn ∈ turns, turn.SparesRecords) {name : String}
    (hfresh : ∀ raw, ¬s.Records name raw) {before later : List TaskCall} {deletion : TaskCall}
    (hlog : (s.reconciling turns).log = before ++ deletion :: later) {kind : ObjectKind}
    {n x : String} (hcall : deletion.call = .deleteObject kind n x) {read : ScheduledCall}
    (hread : read ∈ callsOf before deletion.task) {c : NamespaceClass} (hfinds : read.Finds name c)
    (active : c.isDeleting = false) :
    ∃ earlier record between raw t, before = earlier ++ record :: between ∧
      record.RecordsDeclared (callsOf earlier record.task) name raw ∧
      Template.parse raw = .ok t ∧ t.kind = kind ∧ t.name = x ∧
      AttemptedIn (callsOf earlier record.task) name t n := by
  obtain ⟨-, -, -, htraced⟩ := (follows_traced hs).log hlog
  rw [hcall] at htraced
  obtain ⟨r, hr, raw, t, hrecords, hparse, hkind, hx⟩ := htraced read hread name c hfinds active
  obtain ⟨earlier, record, between, hbefore, hrecord⟩ :=
    exists_recordsDeclared hs hturns (hfresh raw) hlog hr hrecords
  have hattempted : AttemptedIn (callsOf earlier record.task) name t n := by
    obtain ⟨c', -, rfl, hdeclared, happlied, -⟩ := hrecord
    exact happlied.attemptedIn (Template.mem_parseAll.2 ⟨raw, hdeclared, hparse⟩) n
  exact ⟨earlier, record, between, raw, t, hbefore, hrecord, hparse, hkind, hx, hattempted⟩

/-! ## Objects of others -/

/-- A class that no namespace names, of which nothing has been applied. -/
def Cluster.lone (resources : List Json) : Cluster :=
  ({} : Cluster).putClass { metadata := { name := some "gold" }, spec := ⟨resources⟩ }

/-- A task goes on by calls that are served. -/
def servedCalls (task calls : Nat) : List (Turn Key) :=
  List.replicate calls (.advance task .served)

/-- A user takes all resources out of a class, and it is reconciled. -/
def dropTurns : List (Turn Key) :=
  .write (.editClass "gold" (fun c => { c with spec := ⟨[]⟩ }) fun _ => rfl) ::
    .start (.ofClass "gold") :: servedCalls 1 3

/-- A class is applied in a namespace. -/
def appliedTurns : List (Turn Key) :=
  .write (.putNamespace (Cluster.pruningNamespace "team" "gold")) ::
    .start (.ofClass "gold") :: servedCalls 0 6 ++ dropTurns

/-- A class is applied before the namespace names it, and a user creates the object. -/
def lateNamespaceTurns : List (Turn Key) :=
  .start (.ofClass "gold") :: servedCalls 0 4 ++
    .write (.putNamespace (Cluster.pruningNamespace "team" "gold")) ::
    .write (.putObject (Cluster.sampleObject "keep") "team") :: dropTurns

/-- A class is applied in a namespace where the write of the object is refused, and a user creates
the object. -/
def refusedTurns : List (Turn Key) :=
  .write (.putNamespace (Cluster.pruningNamespace "team" "gold")) ::
    .start (.ofClass "gold") :: servedCalls 0 4 ++ .advance 0 (.refused .timeout) ::
    servedCalls 0 1 ++ .write (.putObject (Cluster.sampleObject "keep") "team") :: dropTurns

/-- The runs in which a user drops a resource that another reconcile has recorded. -/
def droppingRuns : List (List (Turn Key)) := [appliedTurns, lateNamespaceTurns, refusedTurns]

theorem sparesRecords_droppingRuns : ∀ turns ∈ droppingRuns, ∀ turn ∈ turns,
    turn.SparesRecords := by
  simp [droppingRuns, appliedTurns, lateNamespaceTurns, refusedTurns, dropTurns, servedCalls,
    Turn.SparesRecords, ClientWrite.SparesRecords, NamespaceClass.lastApplied]

theorem Cluster.not_records_lone (resources : List Json) (name : String) (raw : Json) :
    ¬(lone resources).Records name raw := by
  rintro ⟨c, hc, hraw⟩
  rw [lone, putClass, SortedMap.find?_insert] at hc
  split at hc
  · obtain rfl := Option.some.inj hc
    cases hraw
  · cases hc

theorem StoreCall.of_kind_getClass {c : StoreCall} (h : c.kind = .getClass) :
    c = .getClass c.subject := by
  cases c <;> first | rfl | cases h

theorem StoreCall.exists_of_kind_deleteObject {c : StoreCall} (h : c.kind = .deleteObject) :
    ∃ kind, c = .deleteObject kind c.subjectNamespace c.subject := by
  cases c <;> first | exact ⟨_, rfl⟩ | cases h

/-- The second reconcile reads the class, lists its namespaces and deletes the object, which is
there. -/
theorem droppingRuns_calls : ∀ turns ∈ droppingRuns,
    let calls := callsOf ((Cluster.lone [Cluster.sampleEntry "keep"]).reconciling turns).log 1
    calls.map (fun r => (r.call.kind, r.call.subjectNamespace, r.call.subject, r.fate)) =
        [(.getClass, "", "gold", .served), (.namespacesForClass, "", "gold", .served),
          (.deleteObject, "team", "keep", .served)] ∧
      (calls.head?.any fun r => (r.met.classes.find? "gold").any (!·.isDeleting)) ∧
      calls.getLast?.any fun r => (r.met.objects.find? (Cluster.sampleKey "keep")).isSome &&
        (r.after.objects.find? (Cluster.sampleKey "keep")).isNone := by decide +kernel

theorem exists_deletion_droppingRuns {turns : List (Turn Key)} (hturns : turns ∈ droppingRuns) :
    ∃ before deletion later kind read c,
      ((Cluster.lone [Cluster.sampleEntry "keep"]).reconciling turns).log =
        before ++ deletion :: later ∧
      deletion.call = .deleteObject kind "team" "keep" ∧
      read ∈ callsOf before deletion.task ∧ read.Finds "gold" c ∧ c.isDeleting = false ∧
      deletion.met.objects.find? (Cluster.sampleKey "keep") ≠ none ∧
      deletion.after.objects.find? (Cluster.sampleKey "keep") = none := by
  obtain ⟨hcalls, hactive, hkey⟩ := droppingRuns_calls turns hturns
  obtain ⟨read, rest, hsplit, hread, hrest⟩ := List.map_eq_cons_iff.1 hcalls
  obtain ⟨listing, rest', rfl, -, hrest'⟩ := List.map_eq_cons_iff.1 hrest
  obtain ⟨r, rest'', rfl, hr, hnil⟩ := List.map_eq_cons_iff.1 hrest'
  obtain rfl := List.map_eq_nil_iff.1 hnil
  obtain ⟨before, deletion, later, hlog, htask, rfl, hbefore, -⟩ :=
    exists_of_callsOf_eq (p := [read, listing]) hsplit
  simp only [hsplit, List.head?_cons, Option.any_some] at hactive
  simp only [hsplit, List.getLast?_cons_cons, List.getLast?_singleton, Option.any_some,
    Bool.and_eq_true, Option.isSome_iff_ne_none, Option.isNone_iff_eq_none] at hkey
  simp only [Prod.mk.injEq] at hread hr
  obtain ⟨c, hc, active⟩ := (Option.any_eq_true _ _).1 hactive
  obtain ⟨kind, hcall⟩ := StoreCall.exists_of_kind_deleteObject hr.1
  rw [hr.2.1, hr.2.2.1] at hcall
  have hreads : read.call = .getClass "gold" := by
    rw [StoreCall.of_kind_getClass hread.1, hread.2.2.1]
  exact ⟨before, deletion, later, kind, read, c, hlog, hcall, by simp [htask, hbefore],
    ⟨hreads, hread.2.2.2, hc⟩, by simpa using active, hkey.1, hkey.2⟩

/-- No object is ever written by a reconcile. -/
theorem never_upserted : ∀ turns ∈ [lateNamespaceTurns, refusedTurns],
    ∀ r ∈ ((Cluster.lone [Cluster.sampleEntry "keep"]).reconciling turns).log,
      r.fate = .served → r.call.kind ≠ .createObject ∧ r.call.kind ≠ .replaceObject := by
  decide +kernel

theorem pruned_was_attempted_sample :
    let s := Cluster.lone [Cluster.sampleEntry "keep"]
    s.Reachable ∧ (∀ turn ∈ appliedTurns, turn.SparesRecords) ∧
      (∀ raw, ¬s.Records "gold" raw) ∧
      ∃ before deletion later kind read c,
        (s.reconciling appliedTurns).log = before ++ deletion :: later ∧
        deletion.call = .deleteObject kind "team" "keep" ∧
        read ∈ callsOf before deletion.task ∧ read.Finds "gold" c ∧ c.isDeleting = false ∧
        ∃ earlier record between raw t, before = earlier ++ record :: between ∧
          record.RecordsDeclared (callsOf earlier record.task) "gold" raw ∧
          Template.parse raw = .ok t ∧ t.kind = kind ∧ t.name = "keep" ∧
          AttemptedIn (callsOf earlier record.task) "gold" t "team" := by
  intro s
  have hs : s.Reachable := Cluster.Reachable.empty.putClass _
  have hturns : ∀ turn ∈ appliedTurns, turn.SparesRecords :=
    sparesRecords_droppingRuns _ List.mem_cons_self
  have hfresh : ∀ raw, ¬s.Records "gold" raw := Cluster.not_records_lone _ "gold"
  obtain ⟨before, deletion, later, kind, read, c, hlog, hcall, hread, hfinds, active, -⟩ :=
    exists_deletion_droppingRuns List.mem_cons_self
  exact ⟨hs, hturns, hfresh, before, deletion, later, kind, read, c, hlog, hcall, hread, hfinds,
    active, pruned_was_attempted hs hturns hfresh hlog hcall hread hfinds active⟩

/-- So an object can be deleted that a user created and no reconcile has written: the class was
applied before the namespace named it, or the write was refused. -/
theorem pruned_without_upsert :
    let s := Cluster.lone [Cluster.sampleEntry "keep"]
    s.Reachable ∧ (∀ name raw, ¬s.Records name raw) ∧
      ∀ turns ∈ [lateNamespaceTurns, refusedTurns], (∀ turn ∈ turns, turn.SparesRecords) ∧
        (∃ before deletion later kind read c,
          (s.reconciling turns).log = before ++ deletion :: later ∧
          deletion.call = .deleteObject kind "team" "keep" ∧
          read ∈ callsOf before deletion.task ∧ read.Finds "gold" c ∧ c.isDeleting = false ∧
          deletion.met.objects.find? (Cluster.sampleKey "keep") ≠ none ∧
          deletion.after.objects.find? (Cluster.sampleKey "keep") = none) ∧
        ∀ r ∈ (s.reconciling turns).log, r.Succeeded → ¬r.call.StoresObject := by
  intro s
  refine ⟨Cluster.Reachable.empty.putClass _, Cluster.not_records_lone _, fun turns hturns => ?_⟩
  have hmem : turns ∈ droppingRuns := List.mem_cons_of_mem _ hturns
  refine ⟨sparesRecords_droppingRuns turns hmem, exists_deletion_droppingRuns hmem, ?_⟩
  rintro r hr ⟨hserved, -⟩ hstores
  obtain ⟨hcreate, hreplace⟩ := never_upserted turns hturns r hr hserved
  cases hcall : r.call with
  | createObject | replaceObject => simp [hcall, StoreCall.kind] at hcreate hreplace
  | _ => rw [hcall] at hstores; exact hstores

end ClassReconciler
