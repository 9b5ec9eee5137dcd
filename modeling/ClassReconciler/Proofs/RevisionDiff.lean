import Mathlib.Data.List.Basic
import ClassReconciler.Proofs.ClassUpdate
import ClassReconciler.Proofs.Positions

/-!
# Differences and removals

Three computations compare two revisions: the difference with its four parts, the identities
that are gone, and the templates that the update of a class removes. They go by identity alike.

A revision may hold an identity several times. Each position of the current one gets one mark, by
the last template of its identity before (`Diff.became_iff`), and each part of the difference is
what has one mark, in order (`marked_map`). Which identities are gone depends on what the two
revisions hold and not on order or repetition (`Diff.removedIds_congr`).
-/

namespace ClassReconciler

/-- What is found in a list of identities. -/
theorem TemplateId.find?_ofList (ids : List TemplateId) (id : TemplateId) :
    (SortedMap.ofList (ids.map fun id => (id, ()))).find? id =
      if id ∈ ids then some () else none := by
  have hkeys : ((SortedMap.ofList (ids.map fun id => (id, ()))).find? id).isSome ↔ id ∈ ids := by
    rw [← SortedMap.mem_keys_iff, SortedMap.mem_keys_ofList]
    simp
  split
  case isTrue hid =>
    obtain ⟨u, hu⟩ := Option.isSome_iff_exists.1 (hkeys.2 hid)
    exact hu
  case isFalse hid => exact Option.not_isSome_iff_eq_none.1 fun h => hid (hkeys.1 h)

/-- Identities in ascending order do not depend on the order in which they were given, nor on how
often. -/
theorem TemplateId.sorted_congr {ids ids' : List TemplateId} (h : ∀ id, id ∈ ids ↔ id ∈ ids') :
    sorted ids = sorted ids' := by
  refine congrArg SortedMap.keys (SortedMap.ext_find? fun id => ?_)
  simp only [TemplateId.find?_ofList, h]

/-- Two templates are equal if their identities, their kinds and their objects are. -/
theorem Template.beq_iff {t u : Template} : (t == u) = true ↔
    t.id = u.id ∧ t.kind = u.kind ∧ (t.object == u.object) = true := by
  have hbeq : (t == u) = (t.id == u.id && (t.kind == u.kind && t.object == u.object)) := rfl
  rw [hbeq, Bool.and_eq_true, Bool.and_eq_true, beq_iff_eq, beq_iff_eq]

namespace Diff

variable {previous current templates : List Template} {t : Template}

/-! ## The last template of an identity -/

/-- The template is the last one of its identity. -/
def IsLast (templates : List Template) (p : Template) : Prop :=
  ∃ before after, templates = before ++ p :: after ∧ ∀ q ∈ after, q.id ≠ p.id

theorem last?_eq_none_iff {id : TemplateId} :
    last? templates id = none ↔ ∀ p ∈ templates, p.id ≠ id := by
  simp [last?]

theorem last?_eq_some_iff {id : TemplateId} {p : Template} :
    last? templates id = some p ↔ p.id = id ∧ IsLast templates p := by
  rw [last?, List.getLast?_eq_some_iff]
  constructor
  · rintro ⟨earlier, hfilter⟩
    obtain ⟨before, rest, rfl, -, hrest⟩ := List.filter_eq_append_iff.1 hfilter
    obtain ⟨skipped, after, rfl, -, hid, hafter⟩ := List.filter_eq_cons_iff.1 hrest
    have hid : p.id = id := of_decide_eq_true hid
    refine ⟨hid, before ++ skipped, after, by simp, fun q hq => ?_⟩
    simpa [hid] using List.filter_eq_nil_iff.1 hafter q hq
  · rintro ⟨rfl, before, after, rfl, hafter⟩
    refine ⟨before.filter (·.id = p.id), ?_⟩
    have hnone : after.filter (·.id = p.id) = [] := List.filter_eq_nil_iff.2 (by simpa using hafter)
    rw [List.filter_append, List.filter_cons_of_pos (by simp), hnone]

/-! ## Marks -/

/-- What has become of a template since the previous revision. -/
inductive Became (previous : List Template) (t : Template) : Change → Prop where
  | added (fresh : ∀ p ∈ previous, p.id ≠ t.id) : Became previous t .added
  | unchanged {p : Template} (last : IsLast previous p) (same : p.id = t.id ∧ p.kind = t.kind ∧
    (p.object == t.object) = true) : Became previous t .unchanged
  | changed {p : Template} (last : IsLast previous p) (sameId : p.id = t.id)
    (differs : ¬(p.kind = t.kind ∧ (p.object == t.object) = true)) : Became previous t .changed

/-- Exactly one of the three has become of a template. -/
theorem became_iff {x : Change} : Became previous t x ↔ change previous t = x := by
  rw [change]
  cases hlast : last? previous t.id with
  | none =>
    have hfresh := last?_eq_none_iff.1 hlast
    -- no template of the identity is there to be the last one
    have hno : ∀ p, IsLast previous p → p.id ≠ t.id := by
      rintro p ⟨before, after, rfl, -⟩
      exact hfresh p (by simp)
    constructor
    · rintro (_ | ⟨hp, hsame⟩ | ⟨hp, hid, -⟩)
      · rfl
      · exact absurd hsame.1 (hno _ hp)
      · exact absurd hid (hno _ hp)
    · rintro rfl
      exact .added hfresh
  | some p =>
    obtain ⟨hid, hp⟩ := last?_eq_some_iff.1 hlast
    have hmem : p ∈ previous := by
      obtain ⟨before, after, rfl, -⟩ := hp
      simp
    have honly : ∀ q, IsLast previous q → q.id = t.id → q = p := fun q hq hqid =>
      Option.some.inj ((last?_eq_some_iff.2 ⟨hqid, hq⟩).symm.trans hlast)
    have hbeq : (p == t) = true ↔ p.kind = t.kind ∧ (p.object == t.object) = true := by
      rw [Template.beq_iff, and_iff_right hid]
    constructor
    · rintro (hfresh | ⟨hq, hsame⟩ | ⟨hq, hqid, hdiffers⟩)
      · exact absurd hid (hfresh p hmem)
      · obtain rfl := honly _ hq hsame.1
        exact if_pos (hbeq.2 hsame.2)
      · obtain rfl := honly _ hq hqid
        exact if_neg fun h => hdiffers (hbeq.1 h)
    · rintro rfl
      by_cases hsame : (p == t) = true
      · simp only [if_pos hsame]
        exact .unchanged hp ⟨hid, hbeq.1 hsame⟩
      · simp only [if_neg hsame]
        exact .changed hp hid fun h => hsame (hbeq.2 h)

/-! ## What is gone -/

theorem mem_removedIds {previous current : List TemplateId} {id : TemplateId} :
    id ∈ removedIds previous current ↔ id ∈ previous ∧ id ∉ current := by
  rw [removedIds, TemplateId.mem_sorted, List.mem_filter, decide_eq_true_eq]

/-- Only what the revisions hold decides what is gone. -/
theorem removedIds_congr {previous current previous' current' : List TemplateId}
    (hprevious : ∀ id, id ∈ previous ↔ id ∈ previous')
    (hcurrent : ∀ id, id ∈ current ↔ id ∈ current') :
    removedIds previous current = removedIds previous' current' := by
  refine TemplateId.sorted_congr fun id => ?_
  simp only [List.mem_filter, decide_eq_true_eq, hprevious, hcurrent]

theorem mem_removed : t ∈ (compute previous current).removed ↔
    t ∈ previous ∧ ∀ u ∈ current, u.id ≠ t.id := by
  simp [compute]

end Diff

/-- Where all entries of a class are templates, they claim the identities of these. -/
theorem Revision.claimedIds_of_parse {raws : List Json}
    (h : ∀ raw ∈ raws, ∃ t, Template.parse raw = .ok t) :
    claimedIds raws = (Template.parseAll raws).map Template.id := by
  rw [claimedIds, Template.parseAll, List.map_filterMap]
  refine List.filterMap_congr fun raw hraw => ?_
  obtain ⟨t, ht⟩ := h raw hraw
  rw [(Template.parse_eq_ok ht).1, Template.parse?_eq_some.2 ht]
  rfl

theorem Revision.map_fst_recorded (raws : List Json) :
    (recorded raws).map Prod.fst = Template.parseAll raws := by
  rw [recorded, List.map_filterMap, Template.parseAll]
  refine List.filterMap_congr fun raw _ => ?_
  cases Template.parse? raw <;> rfl

/-- Where all entries of a class are templates, the update of the class removes what the
difference between its record and its declaration holds as removed. -/
theorem Revision.templates_eq_removed {c : NamespaceClass}
    (h : ∀ raw ∈ c.spec.resources, ∃ t, Template.parse raw = .ok t) :
    (Revision.of c).templates = (Diff.compute (Template.parseAll c.lastApplied)
      (Template.parseAll c.spec.resources)).removed := by
  rw [templates, removed_of, claimedIds_of_parse h, ← map_fst_recorded c.lastApplied]
  rw [Diff.compute, List.filter_map]
  rfl

/-- The difference of two revisions, the identities that are gone and the templates that the
update of a class removes agree. Each position of the current revision is in exactly one of the
three parts of the difference, which keep its order: among the added ones if the previous revision
does not have its identity, and else by whether it equals the last template that has it there. What
is removed keeps the order and the repetitions of the previous revision; its identities are those
that are gone, of which the order and the repetitions of the revisions decide nothing, and none of
them is in another part. Of a class whose entries are all templates, that is what its update
removes. -/
theorem difference_agrees_with_removal (previous current : List Template) {c : NamespaceClass}
    (htemplates : ∀ raw ∈ c.spec.resources, ∃ t, Template.parse raw = .ok t) :
    let d := Diff.compute previous current
    let gone := Diff.removedIds (previous.map Template.id) (current.map Template.id)
    (∃ marks : List Change, d.added = marked current marks .added ∧
      d.changed = marked current marks .changed ∧
      d.unchanged = marked current marks .unchanged ∧ marks.length = current.length ∧
      ∀ (i : Nat) (t : Template), current[i]? = some t →
        ∃ x, marks[i]? = some x ∧ ∀ y, Diff.Became previous t y ↔ y = x) ∧
    d.removed = previous.filter (fun p => ∀ t ∈ current, t.id ≠ p.id) ∧
    (∀ id, id ∈ d.removed.map Template.id ↔ id ∈ gone) ∧
    (∀ id, id ∈ gone ↔ id ∈ previous.map Template.id ∧ id ∉ current.map Template.id) ∧
    (∀ previousIds currentIds : List TemplateId,
      (∀ id, id ∈ previousIds ↔ id ∈ previous.map Template.id) →
      (∀ id, id ∈ currentIds ↔ id ∈ current.map Template.id) →
      Diff.removedIds previousIds currentIds = gone) ∧
    (∀ p ∈ d.removed, ∀ t ∈ d.added ++ d.changed ++ d.unchanged, p.id ≠ t.id) ∧
    (Revision.of c).templates = (Diff.compute (Template.parseAll c.lastApplied)
      (Template.parseAll c.spec.resources)).removed := by
  intro d gone
  refine ⟨⟨current.map (Diff.change previous), ?_, ?_, ?_, List.length_map .., fun i t ht => ?_⟩,
    ?_, fun id => ?_, fun id => Diff.mem_removedIds, fun _ _ => Diff.removedIds_congr,
    fun p hp t ht => ?_, Revision.templates_eq_removed htemplates⟩
  · exact (marked_map _ _ _).symm
  · exact (marked_map _ _ _).symm
  · exact (marked_map _ _ _).symm
  · exact ⟨Diff.change previous t, by rw [List.getElem?_map, ht]; rfl,
      fun y => Diff.became_iff.trans eq_comm⟩
  · refine List.filter_congr fun p _ => ?_
    simp
  · rw [Diff.mem_removedIds, List.mem_map]
    simp only [Diff.mem_removed, List.mem_map, d]
    constructor
    · rintro ⟨p, ⟨hp, hnone⟩, rfl⟩
      exact ⟨⟨p, hp, rfl⟩, fun ⟨t, ht, hid⟩ => hnone t ht hid⟩
    · rintro ⟨⟨p, hp, rfl⟩, hnone⟩
      exact ⟨p, ⟨hp, fun t ht hid => hnone ⟨t, ht, hid⟩⟩, rfl⟩
  · have hmem : t ∈ current := by
      simp only [d, Diff.compute, List.mem_append, List.mem_filter] at ht
      rcases ht with (ht | ht) | ht <;> exact ht.1
    exact ((Diff.mem_removed.1 hp).2 t hmem).symm

/-- A class that has recorded an entry twice and declares another one. -/
theorem difference_agrees_with_removal_sample :
    let c : NamespaceClass := {
      metadata := {}
      spec := ⟨[Cluster.sampleEntry "new"]⟩
      status := some ⟨[Cluster.sampleEntry "old", Cluster.sampleEntry "old"]⟩ }
    let previous := Template.parseAll c.lastApplied
    let current := Template.parseAll c.spec.resources
    let d := Diff.compute previous current
    (∀ raw ∈ c.spec.resources, ∃ t, Template.parse raw = .ok t) ∧
      d.removed.map Template.name = ["old", "old"] ∧ d.added.map Template.name = ["new"] ∧
      (∀ id, id ∈ d.removed.map Template.id ↔
        id ∈ Diff.removedIds (previous.map Template.id) (current.map Template.id)) ∧
      (Revision.of c).templates = d.removed := by
  intro c previous current d
  obtain ⟨t, ht, -⟩ := Template.exists_parse_sampleEntry
  have htemplates : ∀ raw ∈ c.spec.resources, ∃ t, Template.parse raw = .ok t :=
    fun raw hraw => ⟨t, List.mem_singleton.1 hraw ▸ ht⟩
  obtain ⟨-, -, hgone, -, -, -, hremoved⟩ :=
    difference_agrees_with_removal previous current htemplates
  exact ⟨htemplates, by decide +kernel, by decide +kernel, hgone, hremoved⟩

end ClassReconciler
