import ClassReconciler.Proofs.Interleaving
import ClassReconciler.Proofs.RefusedRun

/-!
# Updates of objects among others

An upsert reads an object and then creates or replaces it, and between the two calls others may
write to the cluster. A replacement carries the version that was read, and a version stands for
one revision, so that what it replaces is what was read. A creation is refused where there is an
object. So no change that another client makes is overwritten (`upsert_loses_no_update`).

The read looks an object up by the template's identity and the write stores it under its own
fields. That both are one key is `Template.key_toObject`.
-/

namespace ClassReconciler

/-- The upsert of a template, which has been read from a raw value, in a namespace. -/
structure UpsertJob where
  raw : Json
  template : Template
  parses : Template.parse raw = .ok template
  namespaceName : String

namespace UpsertJob

def work (j : UpsertJob) : Action (Except StoreError Upserted) := upsert j.template j.namespaceName

/-- Where the object is stored. -/
def key (j : UpsertJob) : ObjectKey := .new j.template.kind j.namespaceName j.template.name

end UpsertJob

/-! ## Writes of objects -/

namespace Cluster

/-- An object is created where there is none, or nothing happens. -/
theorem createObject_cases (s : Cluster) (o : Manifest) :
    (∃ e, s.createObject o = (.error e, s)) ∨ s.objects.find? (ObjectKey.of o) = none ∧
      s.createObject o = (.ok (s.writeObject o).1, (s.writeObject o).2) := by
  cases h : s.objects.find? (ObjectKey.of o) with
  | none => exact Or.inr ⟨rfl, createObject_of_absent h⟩
  | some stored =>
    refine Or.inl ⟨.alreadyExists o.nameAny, ?_⟩
    rw [createObject, SortedMap.contains, h]
    rfl

/-- An object replaces one of its own version, or nothing happens. -/
theorem replaceObject_cases (s : Cluster) (o : Manifest) :
    (∃ e, s.replaceObject o = (.error e, s)) ∨
      ∃ stored, s.objects.find? (ObjectKey.of o) = some stored ∧
        stored.metadata.resourceVersion = o.metadata.resourceVersion ∧
        s.replaceObject o = (.ok (s.writeObject o).1, (s.writeObject o).2) := by
  cases h : s.objects.find? (ObjectKey.of o) with
  | none => exact Or.inl ⟨.api (.absent o.nameAny), by rw [replaceObject, h]⟩
  | some stored =>
    by_cases hv : o.metadata.resourceVersion.isNone ∨
        stored.metadata.resourceVersion ≠ o.metadata.resourceVersion
    · refine Or.inl ⟨.conflict o.nameAny, ?_⟩
      simp only [replaceObject, h, if_pos hv]
    · obtain ⟨hsome, hversion⟩ := not_or.1 hv
      have hversion := Decidable.not_not.1 hversion
      have hsome : o.metadata.resourceVersion.isSome := by
        simpa [Option.isSome_iff_ne_none] using hsome
      exact Or.inr ⟨stored, rfl, hversion, replaceObject_of_version h hversion hsome⟩

end Cluster

/-! ## Upserts -/

/-- The call left an object at a key, and all others as they were. -/
structure ScheduledCall.Stored (r : ScheduledCall) (k : ObjectKey) (o : Manifest) : Prop where
  written : ∃ o', r.after.objects.find? k = some o' ∧ o'.unversioned = o.unversioned
  others : ∀ k', k' ≠ k → r.after.objects.find? k' = r.met.objects.find? k'

/-- How an upsert ends: what its calls met and did. -/
inductive UpsertJob.Ended (j : UpsertJob) :
    Except StoreError Upserted → List ScheduledCall → Prop where
  | updated {read write : ScheduledCall} {o : Manifest}
    (asked : read.call = .getObject j.template.kind j.namespaceName j.template.name)
    (found : read.met.objects.find? j.key = some o)
    (unchanged : write.met.objects.find? j.key = some o)
    (stored : write.Stored j.key (j.template.toObject j.namespaceName)) :
    j.Ended (.ok .updated) [read, write]
  | created {read write : ScheduledCall}
    (asked : read.call = .getObject j.template.kind j.namespaceName j.template.name)
    (absent : write.met.objects.find? j.key = none)
    (stored : write.Stored j.key (j.template.toObject j.namespaceName)) :
    j.Ended (.ok .created) [read, write]
  | failed {e : StoreError} {calls : List ScheduledCall}
    (idle : ∀ d ∈ calls, d.after.objects = d.met.objects) : j.Ended (.error e) calls

/-- A call that stores an object. -/
theorem ScheduledCall.stored_writeObject {r : ScheduledCall} {o : Manifest}
    (h : r.after = (r.met.writeObject o).2) : r.Stored (ObjectKey.of o) o where
  written := by
    refine ⟨{ o with metadata := r.met.stamp o.metadata }, ?_, rfl⟩
    rw [h]
    exact (SortedMap.find?_insert _ _ _ _).trans (if_pos rfl)
  others k hk := by
    rw [h]
    exact (SortedMap.find?_insert _ _ _ _).trans (if_neg hk)

/-- An upsert of which no call changed anything. -/
theorem UpsertJob.Ended.of_idle {j : UpsertJob} {e : StoreError} {read write : ScheduledCall}
    (hread : read.after = read.met) (hwrite : write.after = write.met) :
    j.Ended (.error e) ([read] ++ [write]) := by
  refine .failed fun d hd => ?_
  rcases List.mem_append.1 hd with hd | hd <;> rw [List.mem_singleton.1 hd]
  · rw [hread]
  · rw [hwrite]

section Steps

variable {j : UpsertJob} {read : ScheduledCall}
  (asked : read.call = .getObject j.template.kind j.namespaceName j.template.name)
  (idle : read.after = read.met)

include asked idle

/-- Where nothing was found an object is created, if there is none by then. -/
theorem UpsertJob.ensures_create :
    ((Except.map fun _ => Upserted.created) <$>
        Action.call (.createObject j.template.kind (j.template.toObject j.namespaceName))).Ensures
      (AnswersAmong fun f => ¬f.IsLost) (fun _ _ => True) [read] j.Ended := by
  let o := j.template.toObject j.namespaceName
  have hkey : ObjectKey.of o = j.key := j.template.key_toObject j.parses j.namespaceName
  refine (Dialogue.ensures_map _ _ _ _).2 (ensures_call_among trivial fun met fate hfate _ => ?_)
  cases fate with
  | lost e => exact absurd trivial hfate
  | refused e => exact .of_idle idle rfl
  | served =>
    rcases met.createObject_cases o with ⟨e, h⟩ | ⟨habsent, h⟩
    · have hmeet : met.meet (.createObject j.template.kind o) .served = (.error e, met) := h
      rw [hmeet]
      exact .of_idle idle (congrArg Prod.snd hmeet)
    · have hmeet : met.meet (.createObject j.template.kind o) .served =
          (.ok (met.writeObject o).1, (met.writeObject o).2) := h
      rw [hmeet]
      refine .created asked (hkey ▸ habsent) ?_
      exact hkey ▸ ScheduledCall.stored_writeObject (congrArg Prod.snd hmeet)

/-- An object that was found is replaced, if it is there by then as it was found. -/
theorem UpsertJob.ensures_replace {o : Manifest} (found : read.met.objects.find? j.key = some o)
    (reachable : read.met.Reachable) :
    ((Except.map fun _ => Upserted.updated) <$> Action.call (.replaceObject j.template.kind
        ((j.template.toObject j.namespaceName).withVersion o.metadata.resourceVersion))).Ensures
      (AnswersAmong fun f => ¬f.IsLost) (fun _ _ => True) [read] j.Ended := by
  let o' := (j.template.toObject j.namespaceName).withVersion o.metadata.resourceVersion
  have hkey : ObjectKey.of o' = j.key := j.template.key_toObject j.parses j.namespaceName
  refine (Dialogue.ensures_map _ _ _ _).2
    (ensures_call_among trivial fun met fate hfate hfollows => ?_)
  cases fate with
  | lost e => exact absurd trivial hfate
  | refused e => exact .of_idle idle rfl
  | served =>
    rcases met.replaceObject_cases o' with ⟨e, h⟩ | ⟨stored, hstored, hversion, h⟩
    · have hmeet : met.meet (.replaceObject j.template.kind o') .served = (.error e, met) := h
      rw [hmeet]
      exact .of_idle idle (congrArg Prod.snd hmeet)
    · have hmeet : met.meet (.replaceObject j.template.kind o') .served =
          (.ok (met.writeObject o').1, (met.writeObject o').2) := h
      -- the version of what is stored is the one that was read, and so is all else of it
      have hlater : read.met.Later met := idle ▸ hfollows.later read (List.mem_singleton_self read)
      rw [hkey] at hstored
      obtain rfl : stored = o := hlater.object_eq reachable found hstored hversion
      have hwrite := ScheduledCall.stored_writeObject
        (r := ⟨met, .replaceObject j.template.kind o', .served⟩) (congrArg Prod.snd hmeet)
      rw [hmeet]
      exact .updated asked found hstored ⟨hkey ▸ hwrite.written, hkey ▸ hwrite.others⟩

end Steps

/-- An upsert ends as it should, whatever others do between its calls. -/
theorem UpsertJob.ensures (j : UpsertJob) :
    j.work.Ensures (AnswersAmong fun f => ¬f.IsLost) (fun _ _ => True) [] j.Ended := by
  rw [work, upsert, Dialogue.ensures_bind]
  refine ensures_call_among trivial fun met fate hfate hread => ?_
  cases fate with
  | lost e => exact absurd trivial hfate
  | refused e => exact .failed fun d hd => by rw [List.mem_singleton.1 hd]; rfl
  | served =>
    have hmeet : met.meet (.getObject j.template.kind j.namespaceName j.template.name) .served =
        (.ok (met.objects.find? j.key), met) := rfl
    rw [hmeet]
    cases hfind : met.objects.find? j.key with
    | none => exact UpsertJob.ensures_create rfl rfl
    | some o => exact UpsertJob.ensures_replace rfl rfl hfind hread.reachable

/-- An upsert loses no change of another client, whatever is written before, between and after
its calls: if it says that the object was updated, then the very revision that it read was stored
when it wrote; if it says that the object was created, then there was none; and if it fails, its
calls changed no object. -/
theorem upsert_loses_no_update {s : Cluster} (hs : s.Reachable) {turns : List (Turn UpsertJob)}
    (hfates : ∀ i f, .advance i f ∈ turns → ¬f.IsLost) {i : Nat} {j : UpsertJob}
    {result : Except StoreError Upserted} :
    let after := ({ cluster := s } : SharedCluster _ _).run UpsertJob.work turns
    after.job? i = some j → after.result? i = some result →
      j.Ended result (callsOf after.log i) := by
  intro after hjob hresult
  have hfollows : after.Follows (fun f => ¬f.IsLost) (fun _ _ _ => True) UpsertJob.Ended :=
    SharedCluster.follows_run hs UpsertJob.ensures hfates
  exact hfollows.ended hjob hresult

/-- The upsert of a config map in the namespace `team`. -/
def UpsertJob.sample : UpsertJob where
  raw := Cluster.sampleEntry "old"
  template := (Template.parse? (Cluster.sampleEntry "old")).get (by decide +kernel)
  parses := Template.parse?_eq_some.1 (Option.some_get _).symm
  namespaceName := "team"

/-- A client writes another object while the config map is updated. -/
theorem upsert_loses_no_update_sample :
    let turns : List (Turn UpsertJob) :=
      [.start .sample, .advance 0 .served,
        .write (.putObject (Cluster.sampleObject "stuck") "team"), .advance 0 .served]
    let after := ({ cluster := .sample } : SharedCluster _ _).run UpsertJob.work turns
    Cluster.sample.Reachable ∧ (∀ i f, .advance i f ∈ turns → ¬f.IsLost) ∧
      after.job? 0 = some .sample ∧ after.result? 0 = some (.ok .updated) ∧
      UpsertJob.sample.Ended (.ok .updated) (callsOf after.log 0) := by
  intro turns after
  have hfates : ∀ i f, Turn.advance i f ∈ turns → ¬f.IsLost := by
    intro i f hf
    simp only [turns, List.mem_cons, Turn.advance.injEq, reduceCtorEq, List.not_mem_nil, or_false,
      false_or] at hf
    rcases hf with ⟨-, rfl⟩ | ⟨-, rfl⟩ <;> exact id
  have hjob : after.job? 0 = some .sample := rfl
  have hupdated : (after.result? 0).bind Except.toOption = some .updated := by decide +kernel
  obtain ⟨result, hresult, hok⟩ := Option.bind_eq_some_iff.1 hupdated
  obtain rfl := except_toOption_eq_some.1 hok
  exact ⟨Cluster.reachable_sample, hfates, hjob, hresult,
    upsert_loses_no_update Cluster.reachable_sample hfates hjob hresult⟩

end ClassReconciler
