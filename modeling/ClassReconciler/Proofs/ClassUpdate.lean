import Mathlib.Algebra.GroupWithZero.Nat
import ClassReconciler.Proofs.AppliedEntries

/-!
# The update of a class

What the reconcile of a class that is not being deleted comes to, where the writes to the
objects of some names are refused and nothing else fails: the contents of the cluster
afterwards are a function of those before.
-/

namespace ClassReconciler

/-! ## What is updated -/

namespace NamespaceClass

variable (c : NamespaceClass)

/-- Every entry says what it stands for. -/
def isIdentified : Bool := c.spec.resources.all fun entry => (TemplateId.of entry).toOption.isSome

/-- A class all of whose entries are templates is identified. -/
theorem isIdentified_of_parse {c : NamespaceClass}
    (h : ∀ raw ∈ c.spec.resources, ∃ t, Template.parse raw = .ok t) : c.isIdentified = true := by
  refine List.all_eq_true.2 fun raw hraw => ?_
  obtain ⟨t, ht⟩ := h raw hraw
  rw [(Template.parse_eq_ok ht).1]
  rfl

/-- The recorded entries that are templates and whose identity no entry has. -/
def removedEntries : List Json :=
  c.lastApplied.filter fun raw => (Template.parse? raw).any fun t =>
    c.spec.resources.all fun entry => (TemplateId.of entry).toOption ≠ some t.id

/-- The templates that are deleted from a namespace: the removed ones, where that is safe and
asked for. -/
def prunedFrom (ns : Namespace) : List Template :=
  if ns.cleanupObsoleteEnabled ∧ c.isIdentified then Template.parseAll c.removedEntries else []

theorem mem_prunedFrom {c : NamespaceClass} {ns : Namespace} {t : Template} :
    t ∈ c.prunedFrom ns ↔ (ns.cleanupObsoleteEnabled ∧ c.isIdentified) ∧
      t ∈ Template.parseAll c.removedEntries := by
  rw [prunedFrom]
  split
  case isTrue h => simp [h]
  case isFalse h => simp [h]

theorem exists_parse_of_mem_removedEntries {c : NamespaceClass} {raw : Json}
    (h : raw ∈ c.removedEntries) : ∃ t, Template.parse? raw = some t := by
  obtain ⟨t, ht, -⟩ := (Option.any_eq_true _ _).1 (List.mem_filter.1 h).2
  exact ⟨t, ht⟩

/-- The objects after the update of a namespace: the declared ones are written in order, and
then the removed ones are erased. -/
def updateObjects (names : List String) (objects : Objects) (ns : Namespace) : Objects :=
  (c.prunedFrom ns).foldl (eraseTemplate names ns.nameAny)
    ((Template.parseAll c.spec.resources).foldl (writeTemplate names ns.nameAny) objects)

theorem actsIn_updateObjects (names : List String) (ns : Namespace) :
    ActsIn ns.nameAny (c.updateObjects names · ns) := by
  have hwritten := ActsIn.foldl (Template.parseAll c.spec.resources)
    fun t _ => actsIn_writeTemplate names ns.nameAny t
  have herased := ActsIn.foldl (c.prunedFrom ns)
    fun t _ => actsIn_eraseTemplate names ns.nameAny t
  exact herased.comp hwritten

/-- How many entries cannot be written into a namespace or deleted from it. -/
def failedIn (names : List String) (ns : Namespace) : Nat :=
  c.spec.resources.countP (isUnwritable names) + (c.prunedFrom ns).countP (·.name ∈ names)

/-- How many removed templates are deleted from a namespace. -/
def deletedFrom (names : List String) (ns : Namespace) : Nat :=
  (c.prunedFrom ns).countP (·.name ∉ names)

/-- The record after the update: what is declared, and the removed entries that are still to be
deleted somewhere. -/
def recordAfter (names : List String) (namespaces : List Namespace) : List Json :=
  c.spec.resources ++ c.removedEntries.filter fun raw =>
    !c.isIdentified || (Template.parse? raw).any (·.name ∈ names) &&
      namespaces.any (·.cleanupObsoleteEnabled)

/-- The class after the update: it holds the finalizer, and where its record was another one,
that is replaced. -/
def updated (names : List String) (namespaces : List Namespace) : NamespaceClass :=
  let record := c.recordAfter names namespaces
  { c.addFinalizer.2 with
    status := if c.lastApplied == record then c.status else some ⟨record⟩ }

theorem hasFinalizer_updated (names : List String) (namespaces : List Namespace) :
    (c.updated names namespaces).hasFinalizer = true :=
  c.hasFinalizer_addFinalizer

/-- The record is the written one, as far as values can be told apart. -/
theorem lastApplied_updated (names : List String) (namespaces : List Namespace) :
    ((c.updated names namespaces).lastApplied == c.recordAfter names namespaces) = true := by
  by_cases hsame : (c.lastApplied == c.recordAfter names namespaces) = true
  · have hstatus : (c.updated names namespaces).status = c.status := if_pos hsame
    rw [lastApplied, hstatus]
    exact hsame
  · have hstatus : (c.updated names namespaces).status = some ⟨c.recordAfter names namespaces⟩ :=
      if_neg hsame
    rw [lastApplied, hstatus]
    exact beq_self_eq_true _

/-- The contents after the update of the class in the namespaces that name it. -/
def updateContents (names : List String) (namespaces : List Namespace) (s : Contents) :
    Contents where
  namespaces := s.namespaces
  classes := s.classes.insert c.nameAny (c.updated names namespaces).unversioned
  objects := namespaces.foldl (c.updateObjects names) s.objects

/-! ### The revision of a class -/

theorem prunes_eq : (Revision.of c).prunes = c.isIdentified := by
  refine Bool.eq_iff_iff.2 (Revision.prunes_iff.trans ?_)
  simp only [isIdentified, List.all_eq_true, except_toOption_isSome]

theorem removed_eq : (Revision.of c).removed =
    c.removedEntries.filterMap fun raw => (Template.parse? raw).map (·, raw) := by
  rw [Revision.removed_of, Revision.recorded, List.filter_filterMap, removedEntries,
    List.filterMap_filter]
  refine congrArg (List.filterMap · c.lastApplied) (funext fun raw => ?_)
  cases Template.parse? raw with
  | none => rfl
  | some t =>
    have hclaimed : t.id ∉ Revision.claimedIds c.spec.resources ↔
        ∀ entry ∈ c.spec.resources, (TemplateId.of entry).toOption ≠ some t.id := by
      simp only [Revision.mem_claimedIds, not_exists, not_and, ne_eq, except_toOption_eq_some]
    simp [Option.filter, hclaimed]

theorem templates_eq : (Revision.of c).templates = Template.parseAll c.removedEntries := by
  rw [Revision.templates, removed_eq, List.map_filterMap, Template.parseAll]
  refine congrArg (List.filterMap · c.removedEntries) (funext fun raw => ?_)
  cases Template.parse? raw <;> rfl

end NamespaceClass

/-! ## Runs -/

namespace Cluster

variable (error : String → StoreError) (names : List String)

/-- Pruning erases the templates that are pruned from the namespace. -/
theorem runRefusing_prune (c : NamespaceClass) (ns : Namespace) (s : Cluster) :
    let prune := if (Revision.of c).prunes then pruneObsolete ns (Revision.of c).templates
      else pure {}
    (s.runRefusing error names prune).1.Reports names (c.prunedFrom ns) ∧
      (s.runRefusing error names prune).2.contents = { s.contents with
        objects :=
          (c.prunedFrom ns).foldl (eraseTemplate names ns.nameAny) s.contents.objects } := by
  intro prune
  cases hidentified : c.isIdentified with
  | true =>
    have hprune : prune = pruneObsolete ns (Template.parseAll c.removedEntries) := by
      simp only [prune, c.prunes_eq, hidentified, if_true, c.templates_eq]
    have hpruned : c.prunedFrom ns =
        if ns.cleanupObsoleteEnabled then Template.parseAll c.removedEntries else [] := by
      simp only [NamespaceClass.prunedFrom, hidentified, and_true]
    rw [hprune, hpruned]
    exact runRefusing_pruneObsolete error names ns (Template.parseAll c.removedEntries) s
  | false =>
    have hprune : prune = pure {} := by
      simp only [prune, c.prunes_eq, hidentified, Bool.false_eq_true, if_false]
    have hpruned : c.prunedFrom ns = [] := by
      simp only [NamespaceClass.prunedFrom, hidentified, Bool.false_eq_true, and_false, if_false]
    rw [hprune, hpruned]
    exact ⟨⟨rfl, rfl, by simp⟩, rfl⟩

theorem runRefusing_updateNamespace (c : NamespaceClass) (ns : Namespace) {s : Cluster}
    (hs : s.WellFormed) :
    let r := s.runRefusing error names (updateNamespace c.spec.resources (Revision.of c) ns)
    r.1.1.failed.length = c.spec.resources.countP (isUnwritable names) ∧
      r.1.2.Reports names (c.prunedFrom ns) ∧
      r.2.contents =
        { s.contents with objects := c.updateObjects names s.contents.objects ns } := by
  obtain ⟨hwritten, hfailed⟩ := contents_applyFrom error names c.spec.resources 0 ns.nameAny hs
  obtain ⟨hreport, herased⟩ := runRefusing_prune error names c ns
    (s.runRefusing error names (applyAll c.spec.resources ns.nameAny)).2
  simp only [updateNamespace_eq, runRefusing_bind, runRefusing_map]
  refine ⟨hfailed, hreport, herased.trans ?_⟩
  rw [applyAll, hwritten]
  rfl

/-- Updating namespaces updates the objects of each of them and adds up what became of them. -/
theorem runRefusing_updateEach (c : NamespaceClass) (namespaces : List Namespace) (tally : Tally)
    {s : Cluster} (hs : s.WellFormed) :
    let r := s.runRefusing error names
      (updateEach c.spec.resources (Revision.of c) tally namespaces)
    r.1.failed = tally.failed + (namespaces.map (c.failedIn names)).sum ∧
      r.1.pruned = tally.pruned + (namespaces.map (c.deletedFrom names)).sum ∧
      (∀ id, id ∈ r.1.retained ↔ id ∈ tally.retained ∨
        ∃ ns ∈ namespaces, ∃ t ∈ c.prunedFrom ns, t.name ∈ names ∧ t.id = id) ∧
      r.2.contents = { s.contents with
        objects := namespaces.foldl (c.updateObjects names) s.contents.objects } := by
  induction namespaces generalizing tally s with
  | nil => exact ⟨rfl, rfl, by simp [updateEach], rfl⟩
  | cons ns rest ih =>
    obtain ⟨hfailed, hreport, hcontents⟩ := runRefusing_updateNamespace error names c ns hs
    have hs₁ := hs.runRefusing error names
      (updateNamespace c.spec.resources (Revision.of c) ns)
    simp only [updateEach, runRefusing_bind]
    obtain ⟨hfailed', hpruned', hretained', hcontents'⟩ := ih (tally.add _ _) hs₁
    refine ⟨hfailed'.trans ?_, hpruned'.trans ?_, fun id => (hretained' id).trans ?_,
      hcontents'.trans ?_⟩
    · simp only [Tally.add, hfailed, hreport.failed, List.map_cons, List.sum_cons,
        NamespaceClass.failedIn]
      omega
    · simp only [Tally.add, hreport.deleted, List.map_cons, List.sum_cons,
        NamespaceClass.deletedFrom]
      omega
    · rw [Tally.add, List.mem_append, hreport.mem_failed]
      simp only [List.mem_cons, exists_eq_or_imp, or_assoc]
    · rw [hcontents]
      rfl

end Cluster

/-! ## The record -/

/-- The entries of a list that stay when the templates read from them do. -/
theorem map_snd_filter_recorded {entries : List Json} {p : Template × Json → Bool}
    {q : Json → Bool}
    (h : ∀ raw ∈ entries, ∃ t, Template.parse? raw = some t ∧ p (t, raw) = q raw) :
    ((entries.filterMap fun raw => (Template.parse? raw).map (·, raw)).filter p).map Prod.snd =
      entries.filter q := by
  induction entries with
  | nil => rfl
  | cons raw rest ih =>
    obtain ⟨t, ht, hpq⟩ := h raw List.mem_cons_self
    have ih := ih fun raw' hraw => h raw' (List.mem_cons_of_mem _ hraw)
    simp only [List.filterMap_cons, ht, Option.map_some, List.filter_cons, hpq]
    cases q raw with
    | true => exact congrArg _ ih
    | false => exact ih

/-- The record that is written holds the entries that are still to be deleted somewhere. -/
theorem record_eq (names : List String) (c : NamespaceClass) (namespaces : List Namespace)
    {retained : List TemplateId}
    (hretained : ∀ id, id ∈ retained ↔ id ∈ (Revision.of c).deferred ∨
      ∃ ns ∈ namespaces, ∃ t ∈ c.prunedFrom ns, t.name ∈ names ∧ t.id = id) :
    (Revision.of c).record c.spec.resources retained = c.recordAfter names namespaces := by
  rw [Revision.record, NamespaceClass.recordAfter, c.removed_eq, map_snd_filter_recorded]
  intro raw hraw
  obtain ⟨t, ht⟩ := NamespaceClass.exists_parse_of_mem_removedEntries hraw
  have hremoved : t ∈ Template.parseAll c.removedEntries := List.mem_filterMap.2 ⟨raw, hraw, ht⟩
  refine ⟨t, ht, Bool.eq_iff_iff.2 ?_⟩
  rw [decide_eq_true_iff, hretained, Revision.deferred, c.prunes_eq, c.templates_eq, ht]
  cases hidentified : c.isIdentified with
  | false => simpa using Or.inl ⟨t, hremoved, rfl⟩
  | true =>
    -- templates of one identity have one name, so that all of them are refused or none
    have hname : ∀ u : Template, u.id = t.id → u.name = t.name := fun u h =>
      congrArg TemplateId.name h
    simp only [if_true, List.not_mem_nil, false_or, Option.any_some, Bool.not_true, Bool.false_or,
      Bool.and_eq_true, decide_eq_true_eq, List.any_eq_true]
    constructor
    · rintro ⟨ns, hns, u, hu, hrefused, hid⟩
      obtain ⟨⟨hopted, -⟩, -⟩ := NamespaceClass.mem_prunedFrom.1 hu
      exact ⟨hname u hid ▸ hrefused, ns, hns, hopted⟩
    · rintro ⟨hrefused, ns, hns, hopted⟩
      exact ⟨ns, hns, t, NamespaceClass.mem_prunedFrom.2 ⟨⟨hopted, hidentified⟩, hremoved⟩,
        hrefused, rfl⟩

/-! ## The class -/

namespace Cluster

variable (error : String → StoreError) (names : List String) {s : Cluster} {c : NamespaceClass}

/-- The finalizer is added to a class that is not being deleted. -/
theorem runRefusing_ensureFinalizer (hs : s.WellFormed)
    (hc : s.classes.find? c.nameAny = some c) (active : c.isDeleting = false) :
    ∃ c' s', s.runRefusing error names (ensureFinalizer c).run = (.ok c', s') ∧
      s.StoresClass s' c.nameAny c' ∧ c'.unversioned = c.addFinalizer.2.unversioned := by
  cases hf : c.hasFinalizer with
  | true =>
    rw [ensureFinalizer, NamespaceClass.addFinalizer_of_hasFinalizer hf]
    exact ⟨c, s, rfl, .refl hc, rfl⟩
  | false =>
    have hc' : s.classes.find? c.addFinalizer.2.nameAny = some c := by
      rw [c.nameAny_addFinalizer, hc]
    have hv := c.resourceVersion_addFinalizer.symm
    have hcall := perform_replaceClass hc' hv
    have hstores := storesClass_replaceClass hc' hv (c.isDeleting_addFinalizer.trans active)
    rw [c.nameAny_addFinalizer] at hstores
    refine ⟨_, _, ?_, hstores, ?_⟩
    · rw [ensureFinalizer_of_not_hasFinalizer hf]
      exact runRefusing_callOrFail error names rfl hcall
    · rw [accepted_of_quiet (hs.find?_webhooks _)]
      simp only [NamespaceClass.unversioned, stamp, c.status_addFinalizer]

/-- The record is written where it differs from the stored one. -/
theorem runRefusing_writeRecord (hc : s.classes.find? c.nameAny = some c) (record : List Json) :
    ∃ c' s', s.runRefusing error names (writeRecord c record).run = (.ok (), s') ∧
      s.StoresClass s' c.nameAny c' ∧ c'.unversioned = { c.unversioned with
        status := if c.lastApplied == record then c.status else some ⟨record⟩ } := by
  rw [writeRecord]
  split
  case isTrue => exact ⟨c, s, rfl, .refl hc, rfl⟩
  case isFalse =>
    let written : NamespaceClass := { c with status := some ⟨record⟩ }
    have hwritten : s.classes.find? written.nameAny = some c := hc
    have hcall := perform_replaceClassStatus (c := written) hwritten
    refine ⟨_, _, ?_, storesClass_replaceClassStatus (c := written) hwritten, rfl⟩
    rw [runRefusing_callOrFail_bind error names rfl hcall]
    rfl

/-- The update of a class changes the contents as `updateContents` says. -/
theorem runRefusing_applyClass (hs : s.WellFormed) (hc : s.classes.find? c.nameAny = some c)
    (active : c.isDeleting = false) :
    let namespaces := s.namespacesForClass c.nameAny
    ∃ s', s.runRefusing error names (applyClass c).run =
        (.ok (.applied namespaces.length (namespaces.map (c.failedIn names)).sum
          (namespaces.map (c.deletedFrom names)).sum), s') ∧
      s'.contents = c.updateContents names namespaces s.contents := by
  intro namespaces
  obtain ⟨c₁, s₁, hrun₁, hstores₁, hc₁⟩ := runRefusing_ensureFinalizer error names hs hc active
  have hs₁ : s₁.WellFormed := by
    have h := hs.runRefusing error names (ensureFinalizer c).run
    rwa [hrun₁] at h
  -- but for the metadata, the class is the one that was read
  obtain ⟨m, rfl⟩ : ∃ m, c₁ = { c with metadata := m } := by
    have hspec : c₁.spec = c.spec :=
      (congrArg NamespaceClass.spec hc₁).trans c.spec_addFinalizer
    have hstatus : c₁.status = c.status :=
      (congrArg NamespaceClass.status hc₁).trans c.status_addFinalizer
    refine ⟨c₁.metadata, ?_⟩
    rw [← hspec, ← hstatus]
  have hread : s₁.perform (.namespacesForClass c.nameAny) = (.ok namespaces, s₁) := by
    rw [perform, hstores₁.namespacesForClass]
  -- the namespaces are updated
  let update := updateEach c.spec.resources (Revision.of c)
    { retained := (Revision.of c).deferred } namespaces
  obtain ⟨hfailed, hpruned, hretained, hcontents⟩ := runRefusing_updateEach error names c namespaces
    { retained := (Revision.of c).deferred } hs₁
  have hsame := runRefusing_sameOutside error names (updateEach_asks c.spec.resources
    (Revision.of c) { retained := (Revision.of c).deferred } namespaces) s₁
  -- the record is written
  have hname : ({ c with metadata := m } : NamespaceClass).nameAny = c.nameAny :=
    (congrArg NamespaceClass.nameAny hc₁).trans c.nameAny_addFinalizer
  have hc₂ : (s₁.runRefusing error names update).2.classes.find?
      ({ c with metadata := m } : NamespaceClass).nameAny = some { c with metadata := m } := by
    rw [hsame.classes, hname, hstores₁.stored]
  obtain ⟨c₃, s₃, hrun₃, hstores₃, hc₃⟩ := runRefusing_writeRecord error names hc₂
    (c.recordAfter names namespaces)
  refine ⟨s₃, ?_, ?_⟩
  · rw [applyClass, runRefusing_bind_of_ok error names hrun₁]
    refine (runRefusing_callOrFail_bind error names rfl hread _).trans ?_
    refine (runRefusing_bind_of_ok error names (runRefusing_liftM error names s₁ update) _).trans ?_
    rw [← record_eq names c namespaces hretained] at hrun₃
    refine (runRefusing_bind_of_ok error names hrun₃ _).trans ?_
    rw [hfailed, hpruned, Nat.zero_add, Nat.zero_add]
    rfl
  · have hupdated : c₃.unversioned = (c.updated names namespaces).unversioned := by
      rw [hc₃, hc₁]
      rfl
    rw [hstores₃.contents, hcontents, hstores₁.contents, hname, hupdated,
      SortedMap.insert_insert]
    rfl

/-- A key of a class that is not being deleted has it updated. -/
theorem runRefusing_reconcile_active {className : String} (hs : s.WellFormed)
    (hc : s.classes.find? className = some c) (active : c.isDeleting = false) :
    let namespaces := s.namespacesForClass className
    ∃ s', s.runRefusing error names (reconcile (.ofClass className)).run =
        (.ok (.applied namespaces.length (namespaces.map (c.failedIn names)).sum
          (namespaces.map (c.deletedFrom names)).sum), s') ∧
      s'.contents = c.updateContents names namespaces s.contents := by
  obtain rfl := hs.classes hc
  rw [runRefusing_reconcile_ofClass error names hc, reconcileClass, active]
  exact runRefusing_applyClass error names hs hc active

end Cluster

/-! ## The reconcile -/

/-- Where the writes to the objects of some names are refused and nothing else fails, the
reconcile of a class that is not being deleted updates it: the contents afterwards are those
that `updateContents` makes of the ones before. In each namespace that names the class, the
objects are what `updateObjects` makes of them, and all other objects stay. The class holds the
finalizer and has on record what is declared and what is still to be deleted. -/
theorem reconcile_updates_class {s : Simulation} (hs : s.cluster.Reachable)
    {error : String → StoreError} {names : List String}
    (hfaults : s.faults = Fault.refusing error names) {className : String} {c : NamespaceClass}
    (hc : s.cluster.classes.find? className = some c) (active : c.isDeleting = false) :
    let namespaces := s.cluster.namespacesForClass className
    let before := s.cluster.contents
    let after := (s.reconcile (.ofClass className) .never).2.cluster.contents
    (s.reconcile (.ofClass className) .never).1 =
        .ok (.applied namespaces.length (namespaces.map (c.failedIn names)).sum
          (namespaces.map (c.deletedFrom names)).sum) ∧
      after = c.updateContents names namespaces before ∧
      (∀ ns ∈ namespaces, ∀ k, k.namespaceName = ns.nameAny →
        after.objects.find? k = (c.updateObjects names before.objects ns).find? k) ∧
      (∀ k, (∀ ns ∈ namespaces, k.namespaceName ≠ ns.nameAny) →
        after.objects.find? k = before.objects.find? k) ∧
      (c.updated names namespaces).hasFinalizer = true ∧
      ((c.updated names namespaces).lastApplied == c.recordAfter names namespaces) = true := by
  intro namespaces before after
  have hnamed : s.cluster.Named := hs.wellFormed.toNamed
  obtain rfl := hnamed.classes hc
  obtain ⟨s', hrun, hcontents⟩ :=
    Cluster.runRefusing_applyClass error names hs.wellFormed hc active
  have hreconcile : s.cluster.runRefusing error names (reconcile (.ofClass c.nameAny)).run =
      s.cluster.runRefusing error names (applyClass c).run := by
    rw [Cluster.runRefusing_reconcile_ofClass error names hc, reconcileClass, active]
    rfl
  obtain ⟨hresult, hcluster, -⟩ :=
    Simulation.run_refusing hfaults (reconcile (.ofClass c.nameAny)).run
  rw [hreconcile, hrun] at hresult hcluster
  have hafter : after = c.updateContents names namespaces before :=
    (congrArg Cluster.contents hcluster).trans hcontents
  refine ⟨hresult, hafter, fun ns hns k hk => ?_, fun k hk => ?_,
    c.hasFinalizer_updated names namespaces, c.lastApplied_updated names namespaces⟩
  · rw [hafter]
    exact find?_foldl_actsIn (c.actsIn_updateObjects names)
      (hnamed.pairwise_namespacesForClass c.nameAny) hns hk before.objects
  · rw [hafter]
    exact find?_foldl_of_forall_ne (c.actsIn_updateObjects names) hk before.objects

/-- In the small cluster, where the deletion of an obsolete object is refused. -/
theorem reconcile_updates_class_sample :
    let s : Simulation :=
      { cluster := Cluster.sample, faults := Fault.refusing (fun _ => .timeout) ["stuck"] }
    let namespaces := s.cluster.namespacesForClass "gold"
    s.cluster.Reachable ∧ ∃ c, s.cluster.classes.find? "gold" = some c ∧ c.isDeleting = false ∧
      (s.reconcile (.ofClass "gold") .never).1 =
        .ok (.applied namespaces.length (namespaces.map (c.failedIn ["stuck"])).sum
          (namespaces.map (c.deletedFrom ["stuck"])).sum) ∧
      (s.reconcile (.ofClass "gold") .never).2.cluster.contents =
        c.updateContents ["stuck"] namespaces s.cluster.contents := by
  intro s namespaces
  have hs : s.cluster.Reachable := Cluster.reachable_sample
  obtain ⟨c, hc, active⟩ : ∃ c, s.cluster.classes.find? "gold" = some c ∧ c.isDeleting = false :=
    ⟨_, rfl, rfl⟩
  obtain ⟨hresult, hafter, -⟩ := reconcile_updates_class hs rfl hc active
  exact ⟨hs, c, hc, active, hresult, hafter⟩

end ClassReconciler
