import ClassReconciler.Proofs.RefusedRun

/-!
# What work on objects leaves behind

Work on the objects of namespaces writes objects of templates and nothing else. The lemmas named
`..._writes` say of every function of the reconciler which templates those are, whatever it is
answered. `Cluster.Worked` is what such work may have done by any of its calls, on a store that
refuses the writes to the objects of some names: every object is as before, or it is the one of
a template whose name is not refused, or it is erased (`ensures_worked`).
-/

namespace ClassReconciler

/-! ## Written objects -/

/-- An object that is written is the one of a template, for its own namespace. -/
def Effect.Writes (templates : List Template) : Effect → Prop
  | .call (.createObject _ o) | .call (.replaceObject _ o) =>
    ∃ t ∈ templates, o.unversioned = t.toObject o.namespaceName
  | _ => True

theorem Effect.Writes.mono {templates templates' : List Template} {e : Effect}
    (h : e.Writes templates) (ht : ∀ t ∈ templates, t ∈ templates') : e.Writes templates' := by
  cases e with
  | warn w => trivial
  | call c => cases c with
    | createObject kind o | replaceObject kind o =>
      obtain ⟨t, hmem, ho⟩ := h
      exact ⟨t, ht t hmem, ho⟩
    | _ => trivial

theorem upsert_writes (t : Template) (n : String) : (upsert t n).Asks (Effect.Writes [t]) := by
  refine ⟨trivial, fun r => ?_⟩
  match r with
  | .error e => trivial
  | .ok none => exact ⟨⟨t, List.mem_singleton_self t, rfl⟩, fun _ => trivial⟩
  | .ok (some existing) => exact ⟨⟨t, List.mem_singleton_self t, rfl⟩, fun _ => trivial⟩

theorem applyEntry_writes (index : Nat) (raw : Json) (n : String) :
    (applyEntry index raw n).Asks (Effect.Writes (Template.parseAll [raw])) := by
  rw [applyEntry]
  split
  case h_1 => trivial
  case h_2 t ht =>
    have hparse : Template.parseAll [raw] = [t] := by
      rw [Template.parseAll, List.filterMap_cons, Template.parse?_eq_some.2 ht]
      rfl
    rw [hparse]
    refine (upsert_writes t n).bind fun r => ?_
    cases r with
    | error e => trivial
    | ok outcome => cases outcome with
      | created | updated => trivial

/-- Applying writes the templates among the entries. -/
theorem applyFrom_writes (raws : List Json) (index : Nat) (n : String) :
    (applyFrom index raws n).Asks (Effect.Writes (Template.parseAll raws)) := by
  induction raws generalizing index with
  | nil => trivial
  | cons raw rest ih =>
    have hparse : Template.parseAll (raw :: rest) =
        Template.parseAll [raw] ++ Template.parseAll rest :=
      List.filterMap_append (l := [raw])
    rw [hparse]
    refine ((applyEntry_writes index raw n).mono fun e he => ?_).bind fun _ =>
      ((ih (index + 1)).mono fun e he => ?_).bind fun _ => trivial
    · exact he.mono fun t ht => List.mem_append_left _ ht
    · exact he.mono fun t ht => List.mem_append_right _ ht

section Deleting

variable (written : List Template)

theorem deleteEach_writes (templates : List Template) (n : String) :
    (deleteEach templates n).Asks (Effect.Writes written) := by
  induction templates with
  | nil => trivial
  | cons t rest ih => exact .bind ⟨trivial, fun _ => trivial⟩ fun _ => ih.bind fun _ => trivial

theorem pruneObsolete_writes (ns : Namespace) (removed : List Template) :
    (pruneObsolete ns removed).Asks (Effect.Writes written) := by
  rw [pruneObsolete]
  split
  · trivial
  · exact (deleteEach_writes written removed ns.nameAny).bind fun _ => trivial

/-- Cleaning up writes nothing. -/
theorem finalizeEach_writes (className : String) (templates : List Template)
    (namespaces : List Namespace) :
    (finalizeEach className templates namespaces).Asks (Effect.Writes written) := by
  induction namespaces with
  | nil => trivial
  | cons ns rest ih =>
    refine .bind ?_ fun _ => ih.bind fun _ => trivial
    rw [finalizeNamespace]
    split
    · exact (deleteEach_writes written templates ns.nameAny).bind fun _ => trivial
    · exact ⟨trivial, fun _ => trivial⟩

end Deleting

/-- Updating writes the templates among the resources. -/
theorem updateEach_writes (resources : List Json) (revision : Revision) (tally : Tally)
    (namespaces : List Namespace) :
    (updateEach resources revision tally namespaces).Asks
      (Effect.Writes (Template.parseAll resources)) := by
  induction namespaces generalizing tally with
  | nil => trivial
  | cons ns rest ih =>
    refine .bind ?_ fun r => ih (tally.add r.1 r.2)
    rw [updateNamespace_eq]
    refine (applyFrom_writes resources 0 ns.nameAny).bind fun applied => .map ?_ _
    split
    · exact pruneObsolete_writes _ ns revision.templates
    · trivial

/-! ## Work on objects -/

/-- What work in namespaces has done: it has written objects of templates and erased others,
except where their names are refused. -/
structure Cluster.Worked (names : List String) (listed : List Namespace)
    (written : List Template) (erased : Namespace → List Template) (s s' : Cluster) : Prop where
  namespaces : s'.namespaces = s.namespaces
  classes : s'.classes = s.classes
  objects : ∀ k, s'.objects.find? k = s.objects.find? k ∨ ∃ ns ∈ listed,
    (∃ t ∈ written, t.name ∉ names ∧ k = ObjectKey.new t.kind ns.nameAny t.name ∧
      (s'.objects.find? k).map Manifest.unversioned = some (t.toObject ns.nameAny)) ∨
    ∃ t ∈ erased ns, t.name ∉ names ∧ k = ObjectKey.new t.kind ns.nameAny t.name ∧
      s'.objects.find? k = none

namespace Cluster.Worked

variable {names : List String} {listed : List Namespace} {written : List Template}
  {erased : Namespace → List Template} {s s₁ : Cluster}

theorem refl (s : Cluster) : s.Worked names listed written erased s :=
  ⟨rfl, rfl, fun _ => Or.inl rfl⟩

/-- The object of a template is written. -/
theorem writeObject (h : s.Worked names listed written erased s₁)
    (hwritten : ∀ t ∈ written, ∃ raw, Template.parse raw = .ok t) {ns : Namespace}
    (hns : ns ∈ listed) {o : Manifest} (ho : ∃ t ∈ written, o.unversioned = t.toObject ns.nameAny)
    (hname : o.nameAny ∉ names) :
    s.Worked names listed written erased (s₁.writeObject o).2 where
  namespaces := h.namespaces
  classes := h.classes
  objects k := by
    obtain ⟨t, ht, ho⟩ := ho
    obtain ⟨raw, hparse⟩ := hwritten t ht
    have hnameAny : o.nameAny = t.name :=
      (congrArg Manifest.nameAny ho).trans (t.nameAny_toObject hparse ns.nameAny)
    have hkey : ObjectKey.of o = ObjectKey.new t.kind ns.nameAny t.name :=
      (congrArg ObjectKey.of ho).trans (t.key_toObject hparse ns.nameAny)
    by_cases hk : k = ObjectKey.of o
    · refine Or.inr ⟨ns, hns, Or.inl ⟨t, ht, hnameAny ▸ hname, hk.trans hkey, ?_⟩⟩
      rw [Cluster.writeObject, SortedMap.find?_insert, if_pos hk, ← ho]
      rfl
    · rw [Cluster.writeObject, SortedMap.find?_insert, if_neg hk]
      exact h.objects k

/-- A template is erased. -/
theorem removeObject (h : s.Worked names listed written erased s₁) {ns : Namespace}
    (hns : ns ∈ listed) {t : Template} (ht : t ∈ erased ns) (hname : t.name ∉ names) :
    s.Worked names listed written erased
      (s₁.removeObject (ObjectKey.new t.kind ns.nameAny t.name)).2 where
  namespaces := h.namespaces
  classes := h.classes
  objects k := by
    by_cases hk : k = ObjectKey.new t.kind ns.nameAny t.name
    · refine Or.inr ⟨ns, hns, Or.inr ⟨t, ht, hname, hk, ?_⟩⟩
      rw [Cluster.removeObject, SortedMap.find?_erase, if_pos hk]
    · rw [Cluster.removeObject, SortedMap.find?_erase, if_neg hk]
      exact h.objects k

end Cluster.Worked

section Courses

variable {error : String → StoreError} {names : List String} {listed : List Namespace}
  {written : List Template} {erased : Namespace → List Template}

/-- A call that works in a namespace and writes templates, where the writes to some names are
refused. -/
theorem Cluster.Worked.meet {s s₁ : Cluster} (h : s.Worked names listed written erased s₁)
    (hwritten : ∀ t ∈ written, ∃ raw, Template.parse raw = .ok t) {c : StoreCall} {ns : Namespace}
    (hns : ns ∈ listed)
    (hworks : Effect.WorksIn ns.nameAny
      (fun kind name => ∃ t ∈ erased ns, t.kind = kind ∧ t.name = name) (.call c))
    (hwrites : Effect.Writes written (.call c)) :
    s.Worked names listed written erased (s₁.meet c (FateRule.refusal error names c)).2 := by
  rw [FateRule.refusal]
  split
  case isTrue => exact h
  case isFalse hserved =>
  cases c with
  | getObject => exact h
  | deleteObject kind n name =>
    obtain ⟨rfl, t, ht, rfl, rfl⟩ := hworks
    exact h.removeObject hns ht fun hname => hserved ⟨rfl, hname⟩
  | createObject kind o =>
    rw [Effect.Writes, show o.namespaceName = ns.nameAny from hworks] at hwrites
    simp only [Cluster.meet, Cluster.perform, Cluster.createObject]
    split
    · exact h
    · exact h.writeObject hwritten hns hwrites fun hname => hserved ⟨rfl, hname⟩
  | replaceObject kind o =>
    rw [Effect.Writes, show o.namespaceName = ns.nameAny from hworks] at hwrites
    simp only [Cluster.meet, Cluster.perform, Cluster.replaceObject]
    split
    · exact h
    · split
      · exact h
      · exact h.writeObject hwritten hns hwrites fun hname => hserved ⟨rfl, hname⟩
  | _ => exact hworks.elim

/-- Work in namespaces that writes templates has, at each of its calls and in the end, done no
more than that. -/
theorem ensures_worked (error : String → StoreError) (names : List String) {α : Type}
    {a : Action α}
    (hworks : a.Asks fun e => ∃ ns ∈ listed, e.WorksIn ns.nameAny fun kind name =>
      ∃ t ∈ erased ns, t.kind = kind ∧ t.name = name)
    (hwrites : a.Asks (Effect.Writes written))
    (hwritten : ∀ t ∈ written, ∃ raw, Template.parse raw = .ok t) (s : Cluster) :
    a.Ensures (FateRule.refusing error names).Answers
      (fun s₁ _ => s.Worked names listed written erased s₁) s
      fun _ s₁ => s.Worked names listed written erased s₁ := by
  refine .of_asks _ (hworks.and hwrites) (.refl s) (fun _ _ _ h => h) ?_
  rintro s₁ e x s₂ ⟨⟨ns, hns, hwork⟩, hwrite⟩ h hanswer
  cases e with
  | warn w =>
    obtain rfl : s₂ = s₁ := hanswer
    exact h
  | call c =>
    obtain ⟨f, rfl, hm⟩ := hanswer
    rw [show s₂ = (s₁.meet c (FateRule.refusal error names c)).2 by rw [hm]]
    exact h.meet hwritten hns hwork hwrite

end Courses

end ClassReconciler
