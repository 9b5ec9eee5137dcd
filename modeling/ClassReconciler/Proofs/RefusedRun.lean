import ClassReconciler.Proofs.Contents
import ClassReconciler.Proofs.ObjectWork
import ClassReconciler.Proofs.Revision
import ClassReconciler.Proofs.TemplateKey

/-!
# Runs on a store that refuses names

Where the writes to the objects of some names are refused and nothing else fails, every
function of the reconciler does to the contents of a cluster what a fold over templates does:
a template that is applied is inserted (`runRefusing_upsert`), pruning and cleaning up erase
(`runRefusing_deleteEach`). The reports count the refused ones.
-/

namespace ClassReconciler

/-! ## Changes by templates -/

/-- The object of a template is written, unless its name is refused. -/
def writeTemplate (names : List String) (n : String) (objects : Objects) (t : Template) :
    Objects :=
  if t.name ∈ names then objects
  else objects.insert (ObjectKey.new t.kind n t.name) (t.toObject n)

/-- The object of a template is erased, unless its name is refused. -/
def eraseTemplate (names : List String) (n : String) (objects : Objects) (t : Template) :
    Objects :=
  if t.name ∈ names then objects else objects.erase (ObjectKey.new t.kind n t.name)

theorem actsIn_writeTemplate (names : List String) (n : String) (t : Template) :
    ActsIn n (writeTemplate names n · t) :=
  (ActsIn.id n).ite (.insert (ObjectKey.new t.kind n t.name) rfl _)

theorem actsIn_eraseTemplate (names : List String) (n : String) (t : Template) :
    ActsIn n (eraseTemplate names n · t) :=
  (ActsIn.id n).ite (.erase (ObjectKey.new t.kind n t.name) rfl)

/-- After templates are written, the last one of a key is found there. -/
theorem find?_foldl_writeTemplate (names : List String) (n : String) (templates : List Template)
    (objects : Objects) (k : ObjectKey) :
    (templates.foldl (writeTemplate names n) objects).find? k =
      ((templates.filter fun t => t.name ∉ names ∧ ObjectKey.new t.kind n t.name = k).getLast?.map
        (·.toObject n)).or (objects.find? k) := by
  induction templates generalizing objects with
  | nil => rfl
  | cons t rest ih =>
    rw [List.foldl_cons, ih, List.filter_cons, writeTemplate]
    by_cases hname : t.name ∈ names
    · rw [if_pos hname, if_neg (by simp [hname])]
    · rw [if_neg hname, SortedMap.find?_insert]
      by_cases hk : ObjectKey.new t.kind n t.name = k
      · rw [if_pos hk.symm, if_pos (by simp [hname, hk]), List.getLast?_cons, Option.map_some]
        cases (rest.filter fun t =>
          t.name ∉ names ∧ ObjectKey.new t.kind n t.name = k).getLast? with
        | none => rfl
        | some u => rfl
      · rw [if_neg (Ne.symm hk), if_neg (by simp [hk])]

/-- After templates are erased, none of their keys is found. -/
theorem find?_foldl_eraseTemplate (names : List String) (n : String) (templates : List Template)
    (objects : Objects) (k : ObjectKey) :
    (templates.foldl (eraseTemplate names n) objects).find? k =
      if ∃ t ∈ templates, t.name ∉ names ∧ k = ObjectKey.new t.kind n t.name then none
      else objects.find? k := by
  induction templates generalizing objects with
  | nil => simp
  | cons t rest ih =>
    rw [List.foldl_cons, ih]
    simp only [List.mem_cons, exists_eq_or_imp]
    by_cases hrest : ∃ u ∈ rest, u.name ∉ names ∧ k = ObjectKey.new u.kind n u.name
    · rw [if_pos hrest, if_pos (Or.inr hrest)]
    · rw [if_neg hrest, eraseTemplate]
      by_cases hname : t.name ∈ names
      · rw [if_pos hname, if_neg fun h => h.elim (fun h => h.1 hname) hrest]
      · rw [if_neg hname, SortedMap.find?_erase]
        by_cases hk : k = ObjectKey.new t.kind n t.name
        · rw [if_pos hk, if_pos (Or.inl ⟨hname, hk⟩)]
        · rw [if_neg hk, if_neg fun h => h.elim (fun h => hk h.2) hrest]

/-- The entry is no template, or its name is refused. -/
def isUnwritable (names : List String) (raw : Json) : Bool :=
  match Template.parse? raw with
  | some t => t.name ∈ names
  | none => true

/-- Why the deletion of a template fails, if it does. -/
def deletionError (error : String → StoreError) (names : List String) (t : Template) :
    Option StoreError :=
  if t.name ∈ names then some (error t.name) else none

/-- The report of the deletion of templates of which those with some names are refused. -/
structure PruneReport.Reports (names : List String)
    (templates : List Template) (report : PruneReport) : Prop where
  failed : report.failed.length = templates.countP (·.name ∈ names)
  deleted : report.deleted.length = templates.countP (·.name ∉ names)
  mem_failed : ∀ id, id ∈ report.failed.map Prod.fst ↔
    ∃ t ∈ templates, t.name ∈ names ∧ t.id = id

/-! ## Runs -/

namespace Cluster

theorem WellFormed.meet {s : Cluster} (h : s.WellFormed) (c : StoreCall) (f : Fate) :
    (s.meet c f).2.WellFormed := by
  rcases s.meet_cluster c f with hs | hs <;> rw [hs]
  · exact h
  · exact h.perform c

/-- A cluster stays well-formed on every course of an action. -/
theorem WellFormed.ensures {α : Type} {s : Cluster} (h : s.WellFormed) (rule : FateRule)
    (a : Action α) : a.Ensures rule.Answers (fun s₁ _ => s₁.WellFormed) s
      fun _ s₁ => s₁.WellFormed := by
  induction a generalizing s with
  | done a => exact h
  | ask q next ih =>
    refine ⟨h, fun x s₁ hanswer => ih x ?_⟩
    cases q with
    | warn w =>
      obtain rfl : s₁ = s := hanswer
      exact h
    | call c =>
      obtain ⟨f, -, hm⟩ := hanswer
      rw [show s₁ = (s.meet c f).2 by rw [hm]]
      exact h.meet c f

variable (error : String → StoreError) (names : List String) {α β : Type}

theorem WellFormed.runRefusing {s : Cluster} (h : s.WellFormed) (a : Action α) :
    (s.runRefusing error names a).2.WellFormed := by
  induction a generalizing s with
  | done a => exact h
  | ask q next ih => cases q with
    | warn w => exact ih () h
    | call c => exact ih _ (h.meet c _)

@[simp] theorem runRefusing_map (s : Cluster) (f : α → β) (a : Action α) :
    s.runRefusing error names (f <$> a) =
      (f (s.runRefusing error names a).1, (s.runRefusing error names a).2) :=
  runRefusing_bind error names s a fun x => pure (f x)

/-- Work in some namespaces leaves all else alone. -/
theorem runRefusing_sameOutside {a : Action α} {namespaces : List Namespace}
    {deletes : Namespace → ObjectKind → String → Prop}
    (ha : a.Asks fun e => ∃ ns ∈ namespaces, e.WorksIn ns.nameAny (deletes ns)) (s : Cluster) :
    s.SameOutside (fun n => ∃ ns ∈ namespaces, ns.nameAny = n)
      (s.runRefusing error names a).2 := by
  have h : a.Ensures (FateRule.refusing error names).Answers (fun _ _ => True) s
      fun _ s' => s.SameOutside (fun n => ∃ ns ∈ namespaces, ns.nameAny = n) s' :=
    ensures_sameOutside ha s fun _ _ _ _ => trivial
  exact runRefusing_ensures error names h

/-- A call that writes no object is served. -/
theorem runRefusing_call_of_not_writesObject (s : Cluster) {c : StoreCall}
    (h : c.writesObject = false) :
    s.runRefusing error names (Action.call c) = s.perform c := by
  rw [runRefusing_call, FateRule.refusal, if_neg (by simp [h]), meet]

/-- A write of an object fails where its name is refused, and is served else. -/
theorem runRefusing_write (s : Cluster) (c : StoreCall) (hc : c.writesObject = true)
    (f : c.Answer → β) :
    s.runRefusing error names (Action.call c >>= fun written => pure (written.map f)) =
      if c.subject ∈ names then (.error (error c.subject), s)
      else ((s.perform c).1.map f, (s.perform c).2) := by
  refine (runRefusing_bind error names s _ _).trans ?_
  rw [runRefusing_call, FateRule.refusal]
  by_cases hname : c.subject ∈ names
  · rw [if_pos ⟨hc, hname⟩, if_pos hname]
    rfl
  · rw [if_neg fun h => hname h.2, if_neg hname]
    rfl

/-! ### Reconciles -/

/-- A step of a reconcile that succeeds is followed by the next one. -/
theorem runRefusing_bind_of_ok {s s' : Cluster} {x : ReconcileAction α} {a : α}
    (h : s.runRefusing error names x.run = (.ok a, s')) (f : α → ReconcileAction β) :
    s.runRefusing error names (x >>= f).run = s'.runRefusing error names (f a).run := by
  refine (runRefusing_bind error names s x.run _).trans ?_
  rw [h]
  rfl

theorem runRefusing_liftM (s : Cluster) (a : Action α) :
    s.runRefusing error names (liftM a : ReconcileAction α).run =
      (.ok (s.runRefusing error names a).1, (s.runRefusing error names a).2) :=
  runRefusing_map error names s Except.ok a

/-- A step of a reconcile that writes no object is served. -/
theorem runRefusing_callOrFail {s s' : Cluster} {c : StoreCall} {a : c.Answer}
    (hc : c.writesObject = false) (h : s.perform c = (.ok a, s')) :
    s.runRefusing error names (callOrFail c).run = (.ok a, s') := by
  refine (runRefusing_bind error names s (Action.call c) _).trans ?_
  rw [runRefusing_call_of_not_writesObject error names s hc, h]
  rfl

/-- A reconcile goes on with the answer of a step that writes no object. -/
theorem runRefusing_callOrFail_bind {s s' : Cluster} {c : StoreCall} {a : c.Answer}
    (hc : c.writesObject = false) (h : s.perform c = (.ok a, s'))
    (f : c.Answer → ReconcileAction β) :
    s.runRefusing error names (callOrFail c >>= f).run = s'.runRefusing error names (f a).run :=
  runRefusing_bind_of_ok error names (runRefusing_callOrFail error names hc h) f

/-- A key of a class has the stored class of its name reconciled. -/
theorem runRefusing_reconcile_ofClass {s : Cluster} {name : String} {c : NamespaceClass}
    (hc : s.classes.find? name = some c) :
    s.runRefusing error names (reconcile (.ofClass name)).run =
      s.runRefusing error names (reconcileClass c).run := by
  have hread : s.perform (.getClass name) = (.ok (some c), s) := by rw [perform, hc]
  exact runRefusing_callOrFail_bind error names rfl hread _

/-! ### Applying -/

theorem createObject_of_absent {s : Cluster} {o : Manifest}
    (h : s.objects.find? (ObjectKey.of o) = none) :
    s.createObject o = (.ok (s.writeObject o).1, (s.writeObject o).2) := by
  rw [createObject, SortedMap.contains, h]
  rfl

theorem replaceObject_of_version {s : Cluster} {o stored : Manifest}
    (h : s.objects.find? (ObjectKey.of o) = some stored)
    (hv : stored.metadata.resourceVersion = o.metadata.resourceVersion)
    (hsome : o.metadata.resourceVersion.isSome) :
    s.replaceObject o = (.ok (s.writeObject o).1, (s.writeObject o).2) := by
  rw [replaceObject, h]
  have hmatches : ¬(o.metadata.resourceVersion.isNone ∨
      stored.metadata.resourceVersion ≠ o.metadata.resourceVersion) := by
    simp [hv, Option.isSome_iff_ne_none.1 hsome]
  simp only [if_neg hmatches]

/-- A template is written into a namespace, unless its name is refused. -/
theorem runRefusing_upsert {raw : Json} {t : Template} (ht : Template.parse raw = .ok t)
    (n : String) {s : Cluster} (hs : s.WellFormed) :
    s.runRefusing error names (upsert t n) =
      if t.name ∈ names then (.error (error t.name), s)
      else (.ok (if s.objects.contains (ObjectKey.new t.kind n t.name) then .updated
        else .created), (s.writeObject (t.toObject n)).2) := by
  have hkey : ObjectKey.of (t.toObject n) = ObjectKey.new t.kind n t.name := t.key_toObject ht n
  rw [upsert, runRefusing_bind, runRefusing_call_of_not_writesObject error names s rfl, perform,
    SortedMap.contains]
  cases hfind : s.objects.find? (ObjectKey.new t.kind n t.name) with
  | none =>
    let o := t.toObject n
    refine (runRefusing_write error names s (.createObject t.kind o) rfl _).trans ?_
    have hsubject : (StoreCall.createObject t.kind o).subject = t.name := t.nameAny_toObject ht n
    rw [hsubject, perform, createObject_of_absent (hkey ▸ hfind)]
    rfl
  | some existing =>
    let o := (t.toObject n).withVersion existing.metadata.resourceVersion
    refine (runRefusing_write error names s (.replaceObject t.kind o) rfl _).trans ?_
    have hsubject : (StoreCall.replaceObject t.kind o).subject = t.name := t.nameAny_toObject ht n
    have hstored : s.objects.find? (ObjectKey.of o) = some existing := hkey ▸ hfind
    have hversion : existing.metadata.resourceVersion.isSome := hs.versioned hfind
    rw [hsubject, perform, replaceObject_of_version hstored rfl hversion]
    rfl

/-! ### Deleting -/

/-- A template is deleted from a namespace, unless its name is refused. -/
theorem runRefusing_deleteTemplate (t : Template) (n : String) (s : Cluster) :
    s.runRefusing error names (deleteTemplate t n) =
      if t.name ∈ names then (.error (error t.name), s)
      else (.ok (), (s.removeObject (ObjectKey.new t.kind n t.name)).2) :=
  runRefusing_write error names s (.deleteObject t.kind n t.name) rfl fun _ => ()

/-- Deleting templates erases their objects and changes nothing else. -/
theorem runRefusing_deleteEach (templates : List Template) (n : String) (s : Cluster) :
    s.runRefusing error names (deleteEach templates n) =
      (templates.map fun t => (t.id, deletionError error names t),
        { s with objects := templates.foldl (eraseTemplate names n) s.objects }) := by
  induction templates generalizing s with
  | nil => rfl
  | cons t rest ih =>
    simp only [deleteEach, runRefusing_bind, runRefusing_pure, runRefusing_deleteTemplate,
      List.map_cons, List.foldl_cons, deletionError, eraseTemplate]
    by_cases hname : t.name ∈ names
    · simp only [if_pos hname, ih]
      rfl
    · simp only [if_neg hname, ih]
      rfl

/-- Erasing objects does not regard their versions. -/
theorem map_foldl_eraseTemplate (f : Manifest → Manifest) (templates : List Template) (n : String)
    (objects : Objects) : (templates.foldl (eraseTemplate names n) objects).map f =
      templates.foldl (eraseTemplate names n) (objects.map f) := by
  induction templates generalizing objects with
  | nil => rfl
  | cons t rest ih =>
    rw [List.foldl_cons, List.foldl_cons, ih, eraseTemplate, eraseTemplate]
    split
    · rfl
    · rw [SortedMap.map_erase]

/-- As many deletions fail as templates have refused names. -/
theorem length_deletionErrors {γ : Type} (templates : List Template)
    (f : TemplateId → StoreError → γ) :
    ((templates.map fun t => (t.id, deletionError error names t)).filterMap
        fun r => r.2.map (f r.1)).length = templates.countP (·.name ∈ names) := by
  induction templates with
  | nil => rfl
  | cons t rest ih =>
    by_cases hname : t.name ∈ names
    · simpa [deletionError, hname] using ih
    · simpa [deletionError, hname] using ih

theorem reports_deletionErrors (templates : List Template) :
    let results := templates.map fun t => (t.id, deletionError error names t)
    PruneReport.Reports names templates {
      deleted := results.filterMap fun r => if r.2.isNone then some r.1 else none
      failed := results.filterMap fun r => r.2.map (r.1, ·) } where
  failed := length_deletionErrors error names templates Prod.mk
  deleted := by
    induction templates with
    | nil => rfl
    | cons t rest ih =>
      by_cases hname : t.name ∈ names
      · simpa [deletionError, hname] using ih
      · simpa [deletionError, hname] using ih
  mem_failed id := by
    constructor
    · intro hid
      obtain ⟨⟨id', e⟩, he, rfl⟩ := List.mem_map.1 hid
      obtain ⟨r, hr, he⟩ := List.mem_filterMap.1 he
      obtain ⟨t, ht, rfl⟩ := List.mem_map.1 hr
      by_cases hname : t.name ∈ names
      · rw [deletionError, if_pos hname] at he
        exact ⟨t, ht, hname, congrArg Prod.fst (Option.some.inj he)⟩
      · rw [deletionError, if_neg hname] at he
        cases he
    · rintro ⟨t, ht, hname, rfl⟩
      have hfailed : deletionError error names t = some (error t.name) := if_pos hname
      refine List.mem_map.2 ⟨(t.id, error t.name), List.mem_filterMap.2 ?_, rfl⟩
      exact ⟨_, List.mem_map_of_mem ht, by rw [hfailed]; rfl⟩

/-- Pruning a namespace that opts in erases the objects of the templates. -/
theorem runRefusing_pruneObsolete (ns : Namespace) (removed : List Template) (s : Cluster) :
    let pruned := if ns.cleanupObsoleteEnabled then removed else []
    (s.runRefusing error names (pruneObsolete ns removed)).1.Reports names pruned ∧
      (s.runRefusing error names (pruneObsolete ns removed)).2.contents = { s.contents with
        objects := pruned.foldl (eraseTemplate names ns.nameAny) s.contents.objects } := by
  intro pruned
  rw [pruneObsolete]
  split
  case isTrue hskip =>
    have hpruned : pruned = [] := by
      rcases Bool.or_eq_true_iff.1 hskip with hempty | hopted
      · simp [pruned, List.isEmpty_iff.1 hempty]
      · have hkept : ns.cleanupObsoleteEnabled = false := by simpa using hopted
        simp [pruned, hkept]
    rw [hpruned]
    exact ⟨⟨rfl, rfl, by simp⟩, rfl⟩
  case isFalse hskip =>
    have hopted : ns.cleanupObsoleteEnabled = true := by simp_all
    have hpruned : pruned = removed := if_pos hopted
    simp only [runRefusing_bind, runRefusing_pure, runRefusing_deleteEach, hpruned]
    refine ⟨reports_deletionErrors error names removed, ?_⟩
    rw [contents, contents]
    simp only [map_foldl_eraseTemplate]

end Cluster

end ClassReconciler
