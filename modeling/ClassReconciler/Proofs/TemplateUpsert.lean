import ClassReconciler.Proofs.RefusedRun
import ClassReconciler.Proofs.StoredRevisions

/-!
# Upserting a template

What one upsert leaves in a cluster in memory, whatever faults lie in wait. It reads under the key
that the kind, the namespace and the name make and writes under the key of the object itself; of a
template these agree, so that the write meets the object that was read and carries its version
(`Simulation.run_upsert`). So it fails by a fault only.

What an upsert answers depends on what is stored under its key and on the faults
(`upsertResult`), and what it writes depends on neither.
-/

namespace ClassReconciler

/-! ## Faults -/

namespace Fault

/-- A call is failed by one of the faults. -/
theorem mem_of_take {c : StoreCall} {faults : List Fault} {e : StoreError}
    (h : (take c faults).1 = some e) : e ∈ faults.map Fault.error := by
  induction faults with
  | nil => cases h
  | cons f rest ih =>
    rw [take] at h
    split at h
    · exact List.mem_cons_of_mem _ (ih h)
    · split at h
      · exact List.mem_cons_of_mem _ (ih h)
      · exact Option.some.inj h ▸ List.mem_cons_self

/-- A call uses faults up and changes no error. -/
theorem map_error_take (c : StoreCall) (faults : List Fault) :
    (take c faults).2.map Fault.error = faults.map Fault.error := by
  induction faults with
  | nil => rfl
  | cons f rest ih =>
    rw [take]
    split
    · exact congrArg (f.error :: ·) ih
    · split
      · exact congrArg (f.error :: ·) ih
      · rfl

end Fault

namespace Simulation

variable {s : Simulation} {c : StoreCall}

theorem answer_of_fault {e : StoreError} (h : (Fault.take c s.faults).1 = some e) :
    (s.answer c).1 = .error e ∧ (s.answer c).2.cluster = s.cluster := by
  simp only [answer, h, and_self]

theorem answer_of_none (h : (Fault.take c s.faults).1 = none) :
    (s.answer c).1 = (s.cluster.perform c).1 ∧
      (s.answer c).2.cluster = (s.cluster.perform c).2 := by
  simp only [answer, h, and_self]

end Simulation

/-! ## Upserts -/

/-- The write of an upsert: a replacement of what was read with its version, or a creation. -/
def upsertCall (t : Template) (n : String) : Option Manifest → StoreCall
  | none => .createObject t.kind (t.toObject n)
  | some existing =>
    .replaceObject t.kind ((t.toObject n).withVersion existing.metadata.resourceVersion)

/-- The error of the fault that hits an upsert, with what is stored under its key. -/
def upsertFault? (t : Template) (n : String) (faults : List Fault) (stored? : Option Manifest) :
    Option StoreError :=
  let (e?, faults) := Fault.take (.getObject t.kind n t.name) faults
  e?.or (Fault.take (upsertCall t n stored?) faults).1

theorem mem_of_upsertFault? {t : Template} {n : String} {faults : List Fault}
    {stored? : Option Manifest} {e : StoreError} (h : upsertFault? t n faults stored? = some e) :
    e ∈ faults.map Fault.error := by
  rcases Option.or_eq_some_iff.1 h with hread | ⟨-, hwrite⟩
  · exact Fault.mem_of_take hread
  · rw [← Fault.map_error_take (.getObject t.kind n t.name) faults]
    exact Fault.mem_of_take hwrite

namespace Simulation

/-- A write that the cluster accepts is done, unless a fault hits it. -/
theorem run_write {c : StoreCall} {a : c.Answer} {s : Simulation} {s' : Cluster}
    (h : s.cluster.perform c = (.ok a, s')) (u : Upserted) :
    let r := s.run (Action.call c >>= fun written => pure (written.map fun _ => u))
    let fault? := (Fault.take c s.faults).1
    (r.1 = match fault? with | some e => .error e | none => .ok u) ∧
      r.2.cluster = if fault?.isNone then s' else s.cluster := by
  intro r fault?
  have hr : r = ((s.answer c).1.map fun _ => u, (s.answer c).2) := run_bind s _ _
  rw [hr]
  cases hfault : fault? with
  | some e =>
    obtain ⟨hanswer, hcluster⟩ := answer_of_fault hfault
    rw [hanswer, hcluster]
    exact ⟨rfl, rfl⟩
  | none =>
    obtain ⟨hanswer, hcluster⟩ := answer_of_none hfault
    rw [hanswer, hcluster, h]
    exact ⟨rfl, rfl⟩

/-- An upsert writes the object of its template, unless a fault hits it. -/
theorem run_upsert {raw : Json} {t : Template} (ht : Template.parse raw = .ok t) (n : String)
    {s : Simulation} (hs : s.cluster.WellFormed) :
    let r := s.run (upsert t n)
    let stored? := s.cluster.objects.find? (ObjectKey.new t.kind n t.name)
    let fault? := upsertFault? t n s.faults stored?
    (r.1 = match fault? with
      | some e => .error e
      | none => .ok (if stored?.isSome then .updated else .created)) ∧
      r.2.cluster =
        if fault?.isNone then (s.cluster.writeObject (t.toObject n)).2 else s.cluster := by
  intro r stored? fault?
  have hkey : ObjectKey.of (t.toObject n) = ObjectKey.new t.kind n t.name := t.key_toObject ht n
  let read : StoreCall := .getObject t.kind n t.name
  have hr : r = (s.run (upsert t n)) := rfl
  have hfault : fault? = (Fault.take read s.faults).1.or
    (Fault.take (upsertCall t n stored?) (s.answer read).2.faults).1 := rfl
  rw [upsert, run_bind, run_call] at hr
  cases hread : (Fault.take read s.faults).1 with
  | some e =>
    obtain ⟨hanswer, hcluster⟩ := answer_of_fault hread
    rw [hanswer] at hr
    rw [hr, hfault, hread, Option.some_or]
    exact ⟨rfl, hcluster⟩
  | none =>
    obtain ⟨hanswer, hcluster⟩ := answer_of_none hread
    have hanswer : (s.answer read).1 = .ok stored? := hanswer
    have hcluster : (s.answer read).2.cluster = s.cluster := hcluster
    rw [hanswer] at hr
    rw [hfault, hread, Option.none_or, hr, ← hcluster]
    -- the write meets what was read
    cases hstored : stored? with
    | none =>
      let o := t.toObject n
      have hfind : s.cluster.objects.find? (ObjectKey.of o) = none := by rw [hkey]; exact hstored
      have hwrite := Cluster.createObject_of_absent hfind
      rw [← hcluster] at hwrite
      exact run_write (c := .createObject t.kind o) hwrite .created
    | some existing =>
      let o := (t.toObject n).withVersion existing.metadata.resourceVersion
      have hfind : s.cluster.objects.find? (ObjectKey.of o) = some existing := by
        rw [show ObjectKey.of o = _ from hkey]
        exact hstored
      have hversion : existing.metadata.resourceVersion.isSome := hs.versioned hstored
      have hwrite := Cluster.replaceObject_of_version hfind rfl hversion
      rw [← hcluster] at hwrite
      exact run_write (c := .replaceObject t.kind o) hwrite .updated

/-- An upsert succeeds and writes, or fails by a fault and changes nothing. -/
theorem run_upsert_cases {raw : Json} {t : Template} (ht : Template.parse raw = .ok t) (n : String)
    {s : Simulation} (hs : s.cluster.WellFormed) :
    let r := s.run (upsert t n)
    (r.1 = .ok (if (s.cluster.objects.find? (ObjectKey.new t.kind n t.name)).isSome then .updated
        else .created) ∧ r.2.cluster = (s.cluster.writeObject (t.toObject n)).2) ∨
      ∃ e ∈ s.faults.map Fault.error, r.1 = .error e ∧ r.2.cluster = s.cluster := by
  intro r
  obtain ⟨hresult, hcluster⟩ := run_upsert ht n hs
  cases hfault : upsertFault? t n s.faults
      (s.cluster.objects.find? (ObjectKey.new t.kind n t.name)) with
  | none =>
    rw [hfault] at hresult hcluster
    exact Or.inl ⟨hresult, hcluster⟩
  | some e =>
    rw [hfault] at hresult hcluster
    exact Or.inr ⟨e, mem_of_upsertFault? hfault, hresult, hcluster⟩

/-- Another namespace does not tell whether a template has been upserted. -/
theorem run_upsert_congr {raw : Json} {t : Template} (ht : Template.parse raw = .ok t) (n : String)
    {s s' : Simulation} (hs : s.cluster.WellFormed) (hs' : s'.cluster.WellFormed)
    (hfaults : s'.faults = s.faults) (hobjects : ∀ k : ObjectKey, k.namespaceName = n →
      s'.cluster.objects.find? k = s.cluster.objects.find? k) :
    (s'.run (upsert t n)).1 = (s.run (upsert t n)).1 ∧ ∀ k : ObjectKey, k.namespaceName = n →
      (s'.run (upsert t n)).2.cluster.contents.objects.find? k =
        (s.run (upsert t n)).2.cluster.contents.objects.find? k := by
  obtain ⟨hresult, hcluster⟩ := run_upsert ht n hs
  obtain ⟨hresult', hcluster'⟩ := run_upsert ht n hs'
  rw [hfaults, hobjects (ObjectKey.new t.kind n t.name) rfl] at hresult' hcluster'
  refine ⟨hresult'.trans hresult.symm, fun k hk => ?_⟩
  have hfound : s'.cluster.contents.objects.find? k = s.cluster.contents.objects.find? k := by
    simp only [Cluster.contents, SortedMap.find?_map, hobjects k hk]
  rw [hcluster, hcluster']
  split
  · simp only [Cluster.contents_writeObject, SortedMap.find?_insert, hfound]
  · exact hfound

theorem reachable_run_upsert {raw : Json} {t : Template} (ht : Template.parse raw = .ok t)
    (n : String) {s : Simulation} (hs : s.cluster.Reachable) :
    (s.run (upsert t n)).2.cluster.Reachable := by
  rcases run_upsert_cases ht n hs.wellFormed with ⟨-, hcluster⟩ | ⟨e, -, -, hcluster⟩
  · exact hcluster ▸ hs.putObject (t.toObject n) n
  · exact hcluster ▸ hs

/-- What is stored under another key is left alone. -/
theorem find?_run_upsert_of_ne {raw : Json} {t : Template} (ht : Template.parse raw = .ok t)
    (n : String) {s : Simulation} (hs : s.cluster.WellFormed) {k : ObjectKey}
    (hk : k ≠ ObjectKey.new t.kind n t.name) :
    (s.run (upsert t n)).2.cluster.objects.find? k = s.cluster.objects.find? k := by
  rcases run_upsert_cases ht n hs with ⟨-, hcluster⟩ | ⟨e, -, -, hcluster⟩
  · rw [hcluster, Cluster.writeObject, t.key_toObject ht n, SortedMap.find?_insert, if_neg hk]
  · rw [hcluster]

/-- A template that has just been written is updated again, and only versions change. -/
theorem run_upsert_written {raw : Json} {t : Template} (ht : Template.parse raw = .ok t)
    (n : String) {written : Cluster} (hw : written.WellFormed) {s : Simulation}
    (hs : s.cluster = (written.writeObject (t.toObject n)).2) :
    (s.run (upsert t n)).2.cluster.contents = s.cluster.contents ∧
      ((s.run (upsert t n)).1 = .ok .updated ∨
        ∃ e ∈ s.faults.map Fault.error, (s.run (upsert t n)).1 = .error e) := by
  have hstored : s.cluster.objects.find? (ObjectKey.new t.kind n t.name) =
      some (written.writeObject (t.toObject n)).1 := by
    rw [hs, Cluster.writeObject, t.key_toObject ht n, SortedMap.find?_insert, if_pos rfl]
  have hwell : s.cluster.WellFormed := hs ▸ hw.writeObject (t.toObject n)
  rcases run_upsert_cases ht n hwell with ⟨hresult, hcluster⟩ | ⟨e, he, hresult, hcluster⟩
  · rw [hstored] at hresult
    refine ⟨?_, Or.inl hresult⟩
    rw [hcluster, hs]
    simp only [Cluster.contents_writeObject, SortedMap.insert_insert]
  · exact ⟨congrArg Cluster.contents hcluster, Or.inr ⟨e, he, hresult⟩⟩

end Simulation

/-- Upserting a template into a cluster in memory in which everything has its own place and a
version of its own, whatever faults lie in wait. Where it succeeds, the object under the template's
key is the one that the template describes in the namespace, with a version that nothing has or has
had, all else is as it was, and the answer is that it was created if there was none under the key
before. Where it fails, by a fault, nothing changes. Doing it again changes at most versions, and
without a fault it answers that the object was updated. What another template is answered and leaves
in another namespace does not depend on it. -/
theorem upsert_stores_object {s : Simulation} (hs : s.cluster.Reachable) {raw : Json}
    {t : Template} (ht : Template.parse raw = .ok t) (n : String) :
    let key := ObjectKey.new t.kind n t.name
    let r := s.run (upsert t n)
    s.cluster.Versioned ∧ r.2.cluster.Versioned ∧
    (∀ u, r.1 = .ok u →
      (u = .created ↔ s.cluster.objects.find? key = none) ∧
      (∃ v, r.2.cluster.objects.find? key = some ((t.toObject n).withVersion (some v)) ∧
        ∀ p x, s.cluster.HasHeld p x → x.version? ≠ some v) ∧
      (∀ p, p ≠ .ofObject key → r.2.cluster.storedAt p = s.cluster.storedAt p) ∧
      ∀ next : Simulation, next.cluster = r.2.cluster →
        let again := next.run (upsert t n)
        again.2.cluster.contents = r.2.cluster.contents ∧
          (again.1 = .ok .updated ∨ ∃ e ∈ next.faults.map Fault.error, again.1 = .error e)) ∧
    (∀ e, r.1 = .error e → e ∈ s.faults.map Fault.error ∧ r.2.cluster = s.cluster) ∧
    ∀ {raw' : Json} {t' : Template}, Template.parse raw' = .ok t' → ∀ {n' : String}, n' ≠ n →
      ∀ {before after : Simulation}, before.cluster = s.cluster → after.cluster = r.2.cluster →
        after.faults = before.faults →
        (after.run (upsert t' n')).1 = (before.run (upsert t' n')).1 ∧
        ∀ k : ObjectKey, k.namespaceName = n' →
          (after.run (upsert t' n')).2.cluster.contents.objects.find? k =
            (before.run (upsert t' n')).2.cluster.contents.objects.find? k := by
  intro key r
  have hkey : ObjectKey.of (t.toObject n) = key := t.key_toObject ht n
  have hcases := Simulation.run_upsert_cases ht n hs.wellFormed
  have hreachable : r.2.cluster.Reachable := Simulation.reachable_run_upsert ht n hs
  refine ⟨hs.versioned, hreachable.versioned, fun u hu => ?_, fun e he => ?_, ?_⟩
  · rcases hcases with ⟨hresult, hcluster⟩ | ⟨e, -, hresult, -⟩
    · obtain rfl := Except.ok.inj (hu.symm.trans hresult)
      have hcluster : r.2.cluster = (s.cluster.writeObject (t.toObject n)).2 := hcluster
      refine ⟨?_, ⟨toString s.cluster.nextVersion, ?_, fun p x hx hv => ?_⟩, fun p hp => ?_,
        fun next hnext => ?_⟩
      · cases s.cluster.objects.find? key <;> simp
      · rw [hcluster, Cluster.writeObject, hkey, SortedMap.find?_insert, if_pos rfl]
        rfl
      · exact (hx.stampedIn.ne (s.cluster.stampedIn_stamp (t.toObject n).metadata)) hv.symm
      · rw [hcluster, Cluster.storedAt_writeObject, hkey, if_neg hp]
      · rw [← hnext]
        exact Simulation.run_upsert_written ht n hs.wellFormed (hnext.trans hcluster)
    · cases hu.symm.trans hresult
  · rcases hcases with ⟨hresult, -⟩ | ⟨e', hmem, hresult, hcluster⟩
    · cases he.symm.trans hresult
    · obtain rfl := Except.error.inj (he.symm.trans hresult)
      exact ⟨hmem, hcluster⟩
  · intro raw' t' ht' n' hn before after hbefore hafter hfaults
    refine Simulation.run_upsert_congr ht' n' (hbefore ▸ hs.wellFormed)
      (hafter ▸ hreachable.wellFormed) hfaults fun k hk => ?_
    have hne : k ≠ key := fun h => hn (hk.symm.trans (congrArg ObjectKey.namespaceName h))
    rw [hbefore, hafter]
    exact Simulation.find?_run_upsert_of_ne ht n hs.wellFormed hne

/-- A widget in the second version of its group, with metadata that a server sets. -/
def ownedWidget : Json :=
  .obj [("apiVersion", .str "example.com/v2"), ("kind", .str "Widget"),
    ("metadata", .obj [("name", .str "w"), ("namespace", .str "other"),
      ("resourceVersion", .str "7"), ("uid", .str "u")])]

/-- The widget takes the place of one in the first version of the group. -/
theorem upsert_stores_object_sample :
    let stored : Manifest := ⟨some ⟨"example.com/v1", "Widget"⟩, { name := some "w" }, []⟩
    let s : Simulation := { cluster := ({} : Cluster).putObject stored "team" }
    let key : ObjectKey := ⟨"example.com", "Widget", "team", "w"⟩
    s.cluster.Reachable ∧ s.cluster.storedAt (.ofObject key) = some (.ofObject { stored with
      metadata := { name := some "w", inNamespace := some "team", resourceVersion := some "1" } }) ∧
    ∃ t, Template.parse ownedWidget = .ok t ∧
      let r := s.run (upsert t "team")
      let again := ({ cluster := r.2.cluster } : Simulation).run (upsert t "team")
      r.1 = .ok .updated ∧
      (∃ v, v ≠ "1" ∧
        r.2.cluster.objects.find? key = some ((t.toObject "team").withVersion (some v))) ∧
      again.1 = .ok .updated ∧ again.2.cluster.contents = r.2.cluster.contents := by
  intro stored s key
  have hs : s.cluster.Reachable := Cluster.Reachable.empty.putObject stored "team"
  let old : Manifest := { stored with
    metadata := { name := some "w", inNamespace := some "team", resourceVersion := some "1" } }
  have hfind : s.cluster.objects.find? key = some old := rfl
  have hold : s.cluster.storedAt (.ofObject key) = some (.ofObject old) := by
    rw [Cluster.storedAt, hfind]
    rfl
  have hparse : (Template.parse? ownedWidget).map (fun t => ObjectKey.new t.kind "team" t.name) =
      some key := by decide +kernel
  obtain ⟨t, ht, hkey⟩ := Option.map_eq_some_iff.1 hparse
  have ht : Template.parse ownedWidget = .ok t := Template.parse?_eq_some.1 ht
  refine ⟨hs, hold, t, ht, ?_⟩
  intro r again
  obtain ⟨-, -, hok, herror, -⟩ := upsert_stores_object hs ht "team"
  rw [hkey, hfind] at hok
  have hr : r.1 = .ok .updated := by
    cases hu : r.1 with
    | error e => exact absurd (herror e hu).1 List.not_mem_nil
    | ok u => cases u with
      | updated => rfl
      | created => cases ((hok .created hu).1.1 rfl)
  obtain ⟨-, ⟨v, hv, hfresh⟩, -, hagain⟩ := hok .updated hr
  obtain ⟨hcontents, hresult⟩ := hagain { cluster := r.2.cluster } rfl
  refine ⟨hr, ⟨v, ?_, hv⟩, hresult.resolve_right ?_, hcontents⟩
  · rintro rfl
    exact hfresh _ _ (hs.hasHeld hold) rfl
  · rintro ⟨e, he, -⟩
    exact absurd he List.not_mem_nil

end ClassReconciler
