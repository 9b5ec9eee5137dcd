import ClassReconciler.Proofs.Positions
import ClassReconciler.Proofs.RefusedRun

/-!
# What becomes of applied entries

Where the writes to the objects of some names are refused and nothing else fails, a list of raw
resources is applied entry by entry: an entry that is no template or has a refused name is
reported with its position and changes nothing, and all others are written in order
(`runRefusing_applyFrom`; with no regard to versions, `contents_applyFrom`). Which entries fail is
so decided by each of them alone, and leaving some of these out changes neither what is written nor
how it is reported.

Whether a template is created or updated depends on the entries before it, for an earlier one may
have the same key (`getElem?_upsertsOf`).
-/

namespace ClassReconciler

/-! ## Entries that fail -/

/-- An entry fails with an error, and is reported with an identity if it has one. -/
inductive EntryFails (error : String → StoreError) (names : List String) (raw : Json) :
    Option TemplateId → ApplyError → Prop where
  | malformed {e : TemplateError} (parse : Template.parse raw = .error e) :
    EntryFails error names raw none (.template e)
  | refused {t : Template} (parse : Template.parse raw = .ok t) (name : t.name ∈ names) :
    EntryFails error names raw (some t.id) (.store (error t.name))

/-- The failure of the entry at a position, if it fails. -/
def entryFailure? (error : String → StoreError) (names : List String) (index : Nat) (raw : Json) :
    Option ApplyFailure :=
  match Template.parse raw with
  | .error e => some ⟨index, none, .template e⟩
  | .ok t => if t.name ∈ names then some ⟨index, some t.id, .store (error t.name)⟩ else none

/-- The template of an entry, where it is one and its name is not refused. -/
def writable? (names : List String) (raw : Json) : Option Template :=
  (Template.parse? raw).filter (·.name ∉ names)

/-- The failures of entries of which the first one is at position `index`. -/
def failuresFrom (error : String → StoreError) (names : List String) (index : Nat)
    (raws : List Json) : List ApplyFailure :=
  (raws.zipIdx index).filterMap fun e => entryFailure? error names e.2 e.1

section Failures

variable {error : String → StoreError} {names : List String} {index : Nat} {raw : Json}

theorem entryFailure?_eq_some {f : ApplyFailure} :
    entryFailure? error names index raw = some f ↔
      f.index = index ∧ EntryFails error names raw f.id f.error := by
  obtain ⟨i, id, e⟩ := f
  rw [entryFailure?]
  constructor
  · cases hparse : Template.parse raw with
    | error e =>
      rintro ⟨⟩
      exact ⟨rfl, .malformed hparse⟩
    | ok t =>
      intro h
      obtain ⟨hname, ⟨⟩⟩ := Option.ite_none_right_eq_some.1 h
      exact ⟨rfl, .refused hparse hname⟩
  · rintro ⟨rfl, hparse | ⟨hparse, hname⟩⟩
    · rw [hparse]
    · simp only [hparse, if_pos hname]

/-- An entry fails where it has no template that can be written. -/
theorem isSome_entryFailure? (error : String → StoreError) (names : List String) (index : Nat)
    (raw : Json) :
    (entryFailure? error names index raw).isSome = isUnwritable names raw := by
  rw [entryFailure?, isUnwritable, Template.parse?]
  cases Template.parse raw with
  | error e => rfl
  | ok t =>
    by_cases hname : t.name ∈ names <;> simp [hname, Except.toOption]

theorem exists_entryFails (error : String → StoreError) (names : List String) (raw : Json) :
    (∃ id e, EntryFails error names raw id e) ↔ isUnwritable names raw = true := by
  rw [← isSome_entryFailure? error _ 0, Option.isSome_iff_exists]
  constructor
  · rintro ⟨id, e, hfails⟩
    exact ⟨⟨0, id, e⟩, entryFailure?_eq_some.2 ⟨rfl, hfails⟩⟩
  · rintro ⟨f, hf⟩
    exact ⟨f.id, f.error, (entryFailure?_eq_some.1 hf).2⟩

theorem writable?_eq_none : writable? names raw = none ↔ isUnwritable names raw = true := by
  rw [writable?, isUnwritable]
  cases Template.parse? raw with
  | none => simp
  | some t => by_cases hname : t.name ∈ names <;> simp [hname, Option.filter]

theorem failuresFrom_cons (raws : List Json) :
    failuresFrom error names index (raw :: raws) =
      (entryFailure? error names index raw).toList ++
        failuresFrom error names (index + 1) raws := by
  rw [failuresFrom, List.zipIdx_cons, List.filterMap_cons]
  cases entryFailure? error names index raw <;> rfl

theorem failuresFrom_singleton :
    failuresFrom error names index [raw] = (entryFailure? error names index raw).toList :=
  (failuresFrom_cons []).trans (List.append_nil _)

theorem mem_failuresFrom {raws : List Json} {f : ApplyFailure} :
    f ∈ failuresFrom error names index raws ↔ ∃ i raw, raws[i]? = some raw ∧
      f.index = index + i ∧ EntryFails error names raw f.id f.error := by
  simp only [failuresFrom, List.mem_filterMap, Prod.exists, entryFailure?_eq_some,
    List.mem_zipIdx_iff_le_and_getElem?_sub]
  constructor
  · rintro ⟨raw, i, ⟨hle, hraw⟩, rfl, hfails⟩
    exact ⟨f.index - index, raw, hraw, (Nat.add_sub_cancel' hle).symm, hfails⟩
  · rintro ⟨i, raw, hraw, hindex, hfails⟩
    refine ⟨raw, f.index, ⟨hindex ▸ Nat.le_add_right index i, ?_⟩, rfl, hfails⟩
    rw [hindex, Nat.add_sub_cancel_left, hraw]

/-- Failures are reported in the order of their positions. -/
theorem pairwise_failuresFrom (raws : List Json) :
    (failuresFrom error names index raws).Pairwise fun f g => f.index < g.index := by
  induction raws generalizing index with
  | nil => exact .nil
  | cons raw rest ih =>
    rw [failuresFrom_cons]
    refine List.pairwise_append.2 ⟨?_, ih, fun f hf g hg => ?_⟩
    · cases entryFailure? error names index raw with
      | none => exact .nil
      | some f => exact List.pairwise_singleton _ f
    · obtain ⟨hindex, -⟩ := entryFailure?_eq_some.1 (Option.mem_toList.1 hf)
      obtain ⟨i, _, -, hindex', -⟩ := mem_failuresFrom.1 hg
      omega

theorem length_failuresFrom (raws : List Json) :
    (failuresFrom error names index raws).length = raws.countP (isUnwritable names) := by
  induction raws generalizing index with
  | nil => rfl
  | cons raw rest ih =>
    rw [failuresFrom_cons, List.length_append, ih, List.countP_cons, Nat.add_comm,
      ← isSome_entryFailure? error _ index]
    cases entryFailure? error names index raw <;> rfl

end Failures

/-- The templates that are written of a list of entries, in its order. -/
def writableTemplates (names : List String) (raws : List Json) : List Template :=
  raws.filterMap (writable? names)

theorem writableTemplates_cons (names : List String) (raw : Json) (raws : List Json) :
    writableTemplates names (raw :: raws) =
      (writable? names raw).toList ++ writableTemplates names raws := by
  rw [writableTemplates, List.filterMap_cons]
  cases writable? names raw <;> rfl

theorem writableTemplates_singleton (names : List String) (raw : Json) :
    writableTemplates names [raw] = (writable? names raw).toList :=
  (writableTemplates_cons names raw []).trans (List.append_nil _)

/-- Every entry is written or fails. -/
theorem length_writableTemplates (names : List String) (raws : List Json) :
    (writableTemplates names raws).length + raws.countP (isUnwritable names) = raws.length := by
  induction raws with
  | nil => rfl
  | cons raw rest ih =>
    rw [writableTemplates_cons, List.length_append, List.countP_cons, List.length_cons, ← ih]
    cases hwritable : writable? names raw with
    | none =>
      rw [if_pos (writable?_eq_none.1 hwritable), Option.toList_none, List.length_nil]
      omega
    | some t =>
      have hwrites : ¬isUnwritable names raw = true := fun h => by
        rw [writable?_eq_none.2 h] at hwritable
        cases hwritable
      rw [if_neg hwrites, Option.toList_some, List.length_singleton]
      omega

namespace Cluster

/-! ## Templates that are written -/

/-- Writes the objects of templates into a namespace. -/
def writeEach (n : String) (s : Cluster) (templates : List Template) : Cluster :=
  templates.foldl (fun s t => (s.writeObject (t.toObject n)).2) s

/-- How each of the templates is written into a namespace. -/
def upsertsOf (n : String) (s : Cluster) : List Template → List Upserted
  | [] => []
  | t :: rest =>
    (if s.objects.contains (ObjectKey.of (t.toObject n)) then .updated else .created) ::
      upsertsOf n (s.writeObject (t.toObject n)).2 rest

theorem length_upsertsOf (n : String) (s : Cluster) (templates : List Template) :
    (s.upsertsOf n templates).length = templates.length := by
  induction templates generalizing s with
  | nil => rfl
  | cons t rest ih => rw [upsertsOf, List.length_cons, List.length_cons, ih]

theorem contains_writeObject (s : Cluster) (o : Manifest) (k : ObjectKey) :
    (s.writeObject o).2.objects.contains k = true ↔
      ObjectKey.of o = k ∨ s.objects.contains k = true := by
  rw [SortedMap.contains, writeObject, SortedMap.find?_insert]
  split
  case isTrue hk => simp [hk]
  case isFalse hk => simp [SortedMap.contains, Ne.symm hk]

/-- A template is updated if an object is stored under its key or an earlier template has the
key, and is created else. -/
theorem getElem?_upsertsOf (n : String) (s : Cluster) (templates : List Template) {i : Nat}
    {t : Template} (ht : templates[i]? = some t) :
    (s.upsertsOf n templates)[i]? = some (
      if s.objects.contains (ObjectKey.of (t.toObject n)) ∨
        ∃ u ∈ templates.take i, ObjectKey.of (u.toObject n) = ObjectKey.of (t.toObject n)
      then .updated else .created) := by
  induction templates generalizing s i with
  | nil => cases ht
  | cons u rest ih =>
    cases i with
    | zero =>
      obtain rfl : u = t := Option.some.inj ht
      simp [upsertsOf]
    | succ i =>
      rw [upsertsOf, List.getElem?_cons_succ, ih _ ht, List.take_succ_cons]
      simp only [contains_writeObject, List.mem_cons, exists_eq_or_imp, or_assoc, or_left_comm]

/-- Created and updated templates together are all templates. -/
theorem length_marked_upsertsOf (n : String) (s : Cluster) (templates : List Template) :
    (marked templates (s.upsertsOf n templates) .created).length +
      (marked templates (s.upsertsOf n templates) .updated).length = templates.length := by
  induction templates generalizing s with
  | nil => rfl
  | cons t rest ih =>
    have hrest := ih (s.writeObject (t.toObject n)).2
    rw [upsertsOf, marked_cons, marked_cons]
    split
    · simp only [reduceCtorEq, if_false, if_true, List.length_cons]
      omega
    · simp only [reduceCtorEq, if_false, if_true, List.length_cons]
      omega

end Cluster

/-! ## Runs -/

/-- What is reported of entries that are applied to a cluster. -/
def entriesReport (error : String → StoreError) (names : List String) (n : String) (s : Cluster)
    (index : Nat) (raws : List Json) : ApplyReport :=
  let templates := writableTemplates names raws
  { created := (marked templates (s.upsertsOf n templates) .created).map Template.id
    updated := (marked templates (s.upsertsOf n templates) .updated).map Template.id
    failed := failuresFrom error names index raws }

theorem entriesReport_cons (error : String → StoreError) (names : List String) (n : String)
    (s : Cluster) (index : Nat) (raw : Json) (raws : List Json) :
    entriesReport error names n s index (raw :: raws) =
      (entriesReport error names n s index [raw]).append
        (entriesReport error names n (s.writeEach n (writableTemplates names [raw]))
          (index + 1) raws) := by
  simp only [entriesReport, ApplyReport.append, ApplyReport.mk.injEq, failuresFrom_cons raws,
    failuresFrom_singleton, writableTemplates_cons names raw raws, writableTemplates_singleton]
  cases writable? names raw with
  | none => exact ⟨rfl, rfl, trivial⟩
  | some t =>
    simp only [Option.toList_some, List.singleton_append, Cluster.upsertsOf, marked_cons]
    refine ⟨?_, ?_, trivial⟩
    · split <;> rfl
    · split <;> rfl

/-- An entry that is applied alone is reported as complete if it can be written. -/
theorem isComplete_entriesReport_singleton (error : String → StoreError) (names : List String)
    (n : String) (s : Cluster) (raw : Json) :
    (entriesReport error names n s 0 [raw]).isComplete = !isUnwritable names raw := by
  rw [entriesReport, ApplyReport.isComplete, failuresFrom_singleton,
    ← isSome_entryFailure? error _ 0]
  cases entryFailure? error names 0 raw <;> rfl

namespace Cluster

variable (error : String → StoreError) (names : List String)

/-- Applying an entry writes the template that it is, or reports why it fails. -/
theorem runRefusing_applyEntry (index : Nat) (raw : Json) (n : String) {s : Cluster}
    (hs : s.WellFormed) :
    s.runRefusing error names (applyEntry index raw n) =
      (entriesReport error names n s index [raw],
        s.writeEach n (writableTemplates names [raw])) := by
  rw [applyEntry, entriesReport, failuresFrom_singleton, writableTemplates_singleton]
  cases ht : Template.parse raw with
  | error e =>
    have hfailure : entryFailure? error names index raw = some ⟨index, none, .template e⟩ :=
      entryFailure?_eq_some.2 ⟨rfl, .malformed ht⟩
    have hwritable : writable? names raw = none := by rw [writable?, Template.parse?, ht]; rfl
    rw [hfailure, hwritable]
    rfl
  | ok t =>
    have hwritable : writable? names raw = if t.name ∈ names then none else some t := by
      rw [writable?, Template.parse?_eq_some.2 ht, Option.filter_some]
      by_cases hname : t.name ∈ names <;> simp [hname]
    simp only [runRefusing_bind, runRefusing_upsert error names ht n hs, hwritable]
    by_cases hname : t.name ∈ names
    · have hfailure : entryFailure? error names index raw =
          some ⟨index, some t.id, .store (error t.name)⟩ :=
        entryFailure?_eq_some.2 ⟨rfl, .refused ht hname⟩
      rw [if_pos hname, if_pos hname, hfailure]
      rfl
    · have hfailure : entryFailure? error names index raw = none := by
        rw [entryFailure?, ht]
        exact if_neg hname
      rw [if_neg hname, if_neg hname, hfailure, ← t.key_toObject ht n, Option.toList_some,
        upsertsOf]
      cases s.objects.contains (ObjectKey.of (t.toObject n)) with
      | true => rfl
      | false => rfl

/-- Applying entries writes the templates among them whose names are not refused. -/
theorem runRefusing_applyFrom (raws : List Json) (index : Nat) (n : String) {s : Cluster}
    (hs : s.WellFormed) :
    s.runRefusing error names (applyFrom index raws n) =
      (entriesReport error names n s index raws,
        s.writeEach n (writableTemplates names raws)) := by
  induction raws generalizing index s with
  | nil => rfl
  | cons raw rest ih =>
    have hfirst := runRefusing_applyEntry error names index raw n hs
    have hs₁ : (s.writeEach n (writableTemplates names [raw])).WellFormed := by
      have h := hs.runRefusing error names (applyEntry index raw n)
      rwa [hfirst] at h
    simp only [applyFrom, runRefusing_bind, runRefusing_pure, hfirst, ih (index + 1) hs₁]
    rw [← entriesReport_cons, writeEach, writeEach, ← List.foldl_append,
      writableTemplates_singleton, ← writableTemplates_cons, writeEach]

theorem contents_writeTemplate {names : List String} {raw : Json} {t : Template}
    (ht : Template.parse raw = .ok t) (n : String) (s : Cluster) (hname : t.name ∉ names) :
    (s.writeObject (t.toObject n)).2.contents =
      { s.contents with objects := writeTemplate names n s.contents.objects t } := by
  rw [contents_writeObject, writeTemplate, if_neg hname, t.key_toObject ht]
  rfl

/-- What is written of a list of entries, with no regard to versions. -/
theorem contents_writeEach (raws : List Json) (n : String) (s : Cluster) :
    (s.writeEach n (writableTemplates names raws)).contents = { s.contents with
      objects := (Template.parseAll raws).foldl (writeTemplate names n) s.contents.objects } := by
  induction raws generalizing s with
  | nil => rfl
  | cons raw rest ih =>
    have hparse : Template.parseAll (raw :: rest) =
        (Template.parse? raw).toList ++ Template.parseAll rest := by
      rw [Template.parseAll, List.filterMap_cons]
      cases Template.parse? raw <;> rfl
    rw [writableTemplates_cons, hparse, writable?]
    cases ht : Template.parse? raw with
    | none => exact ih s
    | some t =>
      rw [Option.filter_some]
      by_cases hname : t.name ∈ names
      · simpa [writeTemplate, hname] using ih s
      · have hwrite := contents_writeTemplate (Template.parse?_eq_some.1 ht) n s hname
        simpa [writeEach, hname, hwrite] using ih (s.writeObject (t.toObject n)).2

/-- Applying entries writes the templates among them, and as many entries fail as cannot be
written. -/
theorem contents_applyFrom (raws : List Json) (index : Nat) (n : String) {s : Cluster}
    (hs : s.WellFormed) :
    (s.runRefusing error names (applyFrom index raws n)).2.contents =
        { s.contents with
          objects := (Template.parseAll raws).foldl (writeTemplate names n) s.contents.objects } ∧
      (s.runRefusing error names (applyFrom index raws n)).1.failed.length =
        raws.countP (isUnwritable names) := by
  rw [runRefusing_applyFrom error names raws index n hs]
  exact ⟨contents_writeEach names raws n s, length_failuresFrom raws⟩

end Cluster

/-- Where the writes to the objects of some names are refused and nothing else fails, a list is
applied as its entries say. -/
theorem Simulation.run_applyAll {s : Simulation} (hs : s.cluster.WellFormed)
    {error : String → StoreError} {names : List String}
    (hfaults : s.faults = Fault.refusing error names) (raws : List Json) (n : String) :
    (s.run (applyAll raws n)).1 = entriesReport error names n s.cluster 0 raws ∧
      (s.run (applyAll raws n)).2.cluster =
        s.cluster.writeEach n (writableTemplates names raws) := by
  obtain ⟨hresult, hcluster, -⟩ := Simulation.run_refusing hfaults (applyAll raws n)
  rw [applyAll, Cluster.runRefusing_applyFrom error names raws 0 n hs] at hresult hcluster
  exact ⟨hresult, hcluster⟩

/-! ## Accounting -/

/-- Entries that fail may be left out of what is written. -/
theorem writableTemplates_keptFrom {names : List String} {raws : List Json} {kept : Nat → Bool}
    (h : ∀ i raw, raws[i]? = some raw → kept i = false → isUnwritable names raw = true) :
    writableTemplates names (keptFrom kept 0 raws) = writableTemplates names raws := by
  refine filterMap_keptFrom _ kept 0 raws fun i raw hraw hkept => ?_
  rw [Nat.zero_add] at hkept
  exact writable?_eq_none.2 (h i raw hraw hkept)

section Accounting

variable {error : String → StoreError} {names : List String}

/-- The positions that are reported as failed are those of the entries that cannot be written. -/
theorem mem_indices_failuresFrom {raws : List Json} {i : Nat} :
    i ∈ (failuresFrom error names 0 raws).map ApplyFailure.index ↔
      ∃ raw, raws[i]? = some raw ∧ isUnwritable names raw = true := by
  simp only [List.mem_map, mem_failuresFrom, Nat.zero_add, ← exists_entryFails error]
  constructor
  · rintro ⟨f, ⟨_, raw, hraw, rfl, hfails⟩, rfl⟩
    exact ⟨raw, hraw, f.id, f.error, hfails⟩
  · rintro ⟨raw, hraw, id, e, hfails⟩
    exact ⟨⟨i, id, e⟩, ⟨i, raw, hraw, rfl, hfails⟩, rfl⟩

end Accounting

/-- Where the writes to the objects of some names are refused and nothing else fails, applying a
list reports each of its entries once. The entries that fail are those that are no template,
reported without an identity, and those with a refused name, reported with theirs; they are
reported by ascending position. All others are written, in the order of the list, and are reported
as created or updated by whether their key was there before or an earlier one of them has it.
An entry of the list fails if it fails when it is applied alone, and leaving failing entries out
changes neither the cluster afterwards nor which identities are reported as created and updated. -/
theorem apply_accounts_for_entries {s : Simulation} (hs : s.cluster.Reachable)
    {error : String → StoreError} {names : List String}
    (hfaults : s.faults = Fault.refusing error names) (raws : List Json) (n : String) :
    let report := (s.run (applyAll raws n)).1
    let failing := report.failed.map ApplyFailure.index
    let templates := writableTemplates names raws
    report.created.length + report.updated.length + report.failed.length = raws.length ∧
    failing.Pairwise (· < ·) ∧
    (∀ i id e, ⟨i, id, e⟩ ∈ report.failed ↔
      ∃ raw, raws[i]? = some raw ∧ EntryFails error names raw id e) ∧
    (∃ marks : List Upserted, report.created = (marked templates marks .created).map Template.id ∧
      report.updated = (marked templates marks .updated).map Template.id ∧
      marks.length = templates.length ∧
      ∀ (i : Nat) (t : Template), templates[i]? = some t → marks[i]? = some (
        if s.cluster.objects.contains (ObjectKey.of (t.toObject n)) ∨
          ∃ u ∈ templates.take i, ObjectKey.of (u.toObject n) = ObjectKey.of (t.toObject n)
        then .updated else .created)) ∧
    (∀ i raw, raws[i]? = some raw →
      (i ∈ failing ↔ (s.run (applyAll [raw] n)).1.isComplete = false)) ∧
    ∀ kept : Nat → Bool, (∀ i < raws.length, kept i = false → i ∈ failing) →
      let again := s.run (applyAll (keptFrom kept 0 raws) n)
      again.1.created = report.created ∧ again.1.updated = report.updated ∧
        again.2.cluster = (s.run (applyAll raws n)).2.cluster := by
  intro report failing templates
  have hrun := fun raws => Simulation.run_applyAll hs.wellFormed hfaults raws n
  have hreport : report = entriesReport error names n s.cluster 0 raws := (hrun raws).1
  have hfailing : ∀ i, i ∈ failing ↔ ∃ raw, raws[i]? = some raw ∧ isUnwritable names raw = true :=
    fun i => by simp only [failing, hreport, entriesReport, mem_indices_failuresFrom]
  refine ⟨?_, ?_, fun i id e => ?_, ⟨s.cluster.upsertsOf n templates, ?_, ?_,
    s.cluster.length_upsertsOf n templates, fun i t => s.cluster.getElem?_upsertsOf n templates⟩,
    fun i raw hraw => ?_, fun kept hkept => ?_⟩
  · rw [hreport, entriesReport, List.length_map, List.length_map, length_failuresFrom,
      s.cluster.length_marked_upsertsOf n templates, length_writableTemplates]
  · simp only [failing, hreport, entriesReport]
    exact List.pairwise_map.2 (pairwise_failuresFrom raws)
  · simp only [hreport, entriesReport, mem_failuresFrom, Nat.zero_add]
    constructor
    · rintro ⟨_, raw, hraw, rfl, hfails⟩
      exact ⟨raw, hraw, hfails⟩
    · rintro ⟨raw, hraw, hfails⟩
      exact ⟨i, raw, hraw, rfl, hfails⟩
  · rw [hreport, entriesReport]
  · rw [hreport, entriesReport]
  · have hone : i ∈ failing ↔ isUnwritable names raw = true := by
      rw [hfailing, hraw]
      simp
    rw [hone, (hrun [raw]).1, isComplete_entriesReport_singleton, Bool.not_eq_false']
  · intro again
    have hkept : ∀ i raw, raws[i]? = some raw → kept i = false → isUnwritable names raw = true := by
      intro i raw hraw hi
      obtain ⟨raw', hraw', hfails⟩ :=
        (hfailing i).1 (hkept i (List.getElem?_eq_some_iff.1 hraw).1 hi)
      obtain rfl : raw = raw' := Option.some.inj (hraw.symm.trans hraw')
      exact hfails
    have htemplates := writableTemplates_keptFrom hkept
    refine ⟨?_, ?_, ?_⟩
    · rw [hreport, (hrun _).1, entriesReport, entriesReport, htemplates]
    · rw [hreport, (hrun _).1, entriesReport, entriesReport, htemplates]
    · rw [(hrun _).2, (hrun raws).2, htemplates]

/-- In the small cluster, a list with an entry that is no template, one with a refused name and
one that is there twice. -/
theorem apply_accounts_for_entries_sample :
    let s : Simulation :=
      { cluster := Cluster.sample, faults := Fault.refusing (fun _ => .timeout) ["stuck"] }
    let raws := [Cluster.sampleEntry "new", .null, Cluster.sampleEntry "stuck",
      Cluster.sampleEntry "old", Cluster.sampleEntry "new"]
    let report := (s.run (applyAll raws "team")).1
    let again := s.run (applyAll (keptFrom (· ≠ 1) 0 raws) "team")
    s.cluster.Reachable ∧ s.faults = Fault.refusing (fun _ => .timeout) ["stuck"] ∧
      report.created.map TemplateId.name = ["new"] ∧
      report.updated.map TemplateId.name = ["old", "new"] ∧
      report.failed.map ApplyFailure.index = [1, 2] ∧
      report.created.length + report.updated.length + report.failed.length = raws.length ∧
      (∀ i id e, ⟨i, id, e⟩ ∈ report.failed ↔
        ∃ raw, raws[i]? = some raw ∧ EntryFails (fun _ => .timeout) ["stuck"] raw id e) ∧
      again.1.created = report.created ∧ again.1.updated = report.updated ∧
      again.2.cluster = (s.run (applyAll raws "team")).2.cluster := by
  intro s raws report again
  have hs : s.cluster.Reachable := Cluster.reachable_sample
  have hfaults : s.faults = Fault.refusing (fun _ => .timeout) ["stuck"] := rfl
  have hfailing : report.failed.map ApplyFailure.index = [1, 2] := by decide +kernel
  obtain ⟨hlength, -, hfailed, -, -, hkept⟩ := apply_accounts_for_entries hs hfaults raws "team"
  have hone : ∀ i < raws.length, decide (i ≠ 1) = false →
      i ∈ report.failed.map ApplyFailure.index := by
    rw [hfailing]
    decide
  exact ⟨hs, hfaults, by decide +kernel, by decide +kernel, hfailing, hlength, hfailed,
    hkept (· ≠ 1) hone⟩

end ClassReconciler
