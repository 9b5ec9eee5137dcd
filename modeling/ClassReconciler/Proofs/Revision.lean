import ClassReconciler.Reconcile.Reconciler

/-!
# What a revision removes

A revision is read off a class: `mem_removed` says which recorded entries it removes, and
`prunes_iff` when it prunes at all. What still has to be deleted somewhere stays on the record
(`mem_record`).
-/

namespace ClassReconciler

theorem TemplateId.mem_sorted {ids : List TemplateId} {id : TemplateId} :
    id ∈ TemplateId.sorted ids ↔ id ∈ ids := by
  simp [TemplateId.sorted, SortedMap.mem_keys_ofList]

theorem except_toOption_eq_some {ε α : Type} {x : Except ε α} {a : α} :
    x.toOption = some a ↔ x = .ok a := by
  cases x <;> simp [Except.toOption]

theorem except_toOption_isSome {ε α : Type} {x : Except ε α} :
    x.toOption.isSome ↔ ∃ a, x = .ok a := by
  simp only [Option.isSome_iff_exists, except_toOption_eq_some]

theorem Template.parse?_eq_some {raw : Json} {t : Template} :
    Template.parse? raw = some t ↔ Template.parse raw = .ok t :=
  except_toOption_eq_some

theorem Template.mem_parseAll {raws : List Json} {t : Template} :
    t ∈ Template.parseAll raws ↔ ∃ raw ∈ raws, Template.parse raw = .ok t := by
  simp only [Template.parseAll, List.mem_filterMap, Template.parse?_eq_some]

namespace Revision

theorem mem_claimedIds {raws : List Json} {id : TemplateId} :
    id ∈ claimedIds raws ↔ ∃ raw ∈ raws, TemplateId.of raw = .ok id := by
  simp only [claimedIds, List.mem_filterMap, except_toOption_eq_some]

theorem mem_recorded {raws : List Json} {t : Template} {raw : Json} :
    (t, raw) ∈ recorded raws ↔ raw ∈ raws ∧ Template.parse raw = .ok t := by
  simp only [recorded, List.mem_filterMap, Option.map_eq_some_iff, Prod.mk.injEq,
    Template.parse?_eq_some]
  constructor
  · rintro ⟨raw', hraw, t', ht, rfl, rfl⟩
    exact ⟨hraw, ht⟩
  · rintro ⟨hraw, ht⟩
    exact ⟨raw, hraw, t, ht, rfl, rfl⟩

/-- The removed templates are the recorded ones whose identity no entry claims. -/
theorem removed_of (c : NamespaceClass) : (Revision.of c).removed =
    (recorded c.lastApplied).filter fun r => r.1.id ∉ claimedIds c.spec.resources := by
  refine List.filter_congr fun r hr => ?_
  simp only [Diff.removedIds, TemplateId.mem_sorted, List.mem_filter, decide_eq_true_eq]
  have hmem : r.1.id ∈ (recorded c.lastApplied).map fun r => r.1.id := List.mem_map_of_mem hr
  simp only [hmem, true_and]

theorem mem_removed {c : NamespaceClass} {t : Template} {raw : Json} :
    (t, raw) ∈ (Revision.of c).removed ↔ raw ∈ c.lastApplied ∧ Template.parse raw = .ok t ∧
      ∀ entry ∈ c.spec.resources, TemplateId.of entry ≠ .ok t.id := by
  rw [removed_of, List.mem_filter, mem_recorded, decide_eq_true_eq, mem_claimedIds, and_assoc]
  simp only [not_exists, not_and, ne_eq]

theorem mem_templates {c : NamespaceClass} {t : Template} :
    t ∈ (Revision.of c).templates ↔ ∃ raw ∈ c.lastApplied, Template.parse raw = .ok t ∧
      ∀ entry ∈ c.spec.resources, TemplateId.of entry ≠ .ok t.id := by
  simp only [templates, List.mem_map, Prod.exists, exists_and_right, exists_eq_right, mem_removed]

/-- Something is pruned only if every entry of the class has an identity. -/
theorem prunes_iff {c : NamespaceClass} : (Revision.of c).prunes = true ↔
    ∀ entry ∈ c.spec.resources, ∃ id, TemplateId.of entry = .ok id := by
  have hle : (claimedIds c.spec.resources).length ≤ c.spec.resources.length :=
    List.length_filterMap_le _ _
  have hall : (claimedIds c.spec.resources).length = c.spec.resources.length ↔
      ∀ entry ∈ c.spec.resources, (TemplateId.of entry).toOption.isSome :=
    List.filterMap_length_eq_length
  simp only [except_toOption_isSome] at hall
  have hcount : (Revision.of c).unidentified =
      c.spec.resources.length - (claimedIds c.spec.resources).length := rfl
  rw [← hall, prunes, beq_iff_eq, hcount]
  omega

/-- A removed entry whose identity is retained stays on the record. -/
theorem mem_record {r : Revision} {declared : List Json} {retained : List TemplateId}
    {t : Template} {raw : Json} (h : (t, raw) ∈ r.removed) (hid : t.id ∈ retained) :
    raw ∈ r.record declared retained :=
  List.mem_append_right _ (List.mem_map.2 ⟨(t, raw), List.mem_filter.2 ⟨h, by simpa⟩, rfl⟩)

/-- While nothing is pruned, every removed identity is deferred. -/
theorem mem_deferred {r : Revision} (hr : r.prunes = false) {t : Template} (h : t ∈ r.templates) :
    t.id ∈ r.deferred := by
  rw [deferred, hr]
  exact List.mem_map_of_mem h

end Revision

/-! ## Declared templates -/

theorem mem_of_mem_firstOfEachId {seen : List TemplateId} {templates : List Template}
    {t : Template} (h : t ∈ firstOfEachId seen templates) : t ∈ templates := by
  induction templates generalizing seen with
  | nil => exact h
  | cons u rest ih =>
    rw [firstOfEachId] at h
    split at h
    · exact List.mem_cons_of_mem _ (ih h)
    · rcases List.mem_cons.1 h with rfl | h
      · exact List.mem_cons_self
      · exact List.mem_cons_of_mem _ (ih h)

/-- Of each identity among the templates, one is kept, unless it was seen before. -/
theorem exists_mem_firstOfEachId (templates : List Template) (seen : List TemplateId)
    {t : Template} (ht : t ∈ templates) :
    t.id ∈ seen ∨ ∃ u ∈ firstOfEachId seen templates, u.id = t.id := by
  induction templates generalizing seen with
  | nil => cases ht
  | cons v rest ih =>
    rw [firstOfEachId]
    by_cases hv : v.id ∈ seen
    · rw [if_pos hv]
      rcases List.mem_cons.1 ht with rfl | ht
      · exact Or.inl hv
      · exact ih seen ht
    · rw [if_neg hv]
      rcases List.mem_cons.1 ht with rfl | ht
      · exact Or.inr ⟨t, List.mem_cons_self, rfl⟩
      · rcases ih (v.id :: seen) ht with hmem | ⟨u, hu, hid⟩
        · rcases List.mem_cons.1 hmem with hid | hmem
          · exact Or.inr ⟨v, List.mem_cons_self, hid.symm⟩
          · exact Or.inl hmem
        · exact Or.inr ⟨u, List.mem_cons_of_mem _ hu, hid⟩

theorem parse_of_mem_declaredTemplates {c : NamespaceClass} {t : Template}
    (h : t ∈ declaredTemplates c) :
    ∃ raw ∈ c.spec.resources ++ c.lastApplied, Template.parse raw = .ok t :=
  Template.mem_parseAll.1 (mem_of_mem_firstOfEachId h)

end ClassReconciler
