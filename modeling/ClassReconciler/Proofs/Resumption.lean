import ClassReconciler.Proofs.Underway

/-!
# Reconciles that are run again

A reconcile that is cut at one of its calls and then run again comes to the same contents and
the same result as the reconcile that is not cut. What it may have done until then is one of
the stages of `Cluster.Underway`. In each of them the second run starts from objects that differ
only where it writes or erases them itself, and what a fold over templates leaves at such a key
does not depend on what it found there (`Cluster.Worked.foldl_writeTemplate_eq`,
`Cluster.Worked.foldl_updateObjects_eq`, `Cluster.Worked.foldl_cleanObjects_eq`). The class
differs in its version and in the finalizer, which the second run adds as the first one did
(`NamespaceClass.unversioned_updated_of_guarded`).
-/

namespace ClassReconciler

/-! ## Objects that are written again -/

/-- What changes of namespaces leave at a key depends on what was there. -/
theorem find?_foldl_congr {step : Objects → Namespace → Objects}
    (hstep : ∀ ns, ActsIn ns.nameAny (step · ns)) (namespaces : List Namespace)
    {objects objects' : Objects} {k : ObjectKey} (h : objects.find? k = objects'.find? k) :
    (namespaces.foldl step objects).find? k = (namespaces.foldl step objects').find? k := by
  induction namespaces generalizing objects objects' with
  | nil => exact h
  | cons ns rest ih => exact ih ((hstep ns).inside h)

/-- What is written at the key of a template does not depend on what was there. -/
theorem find?_foldl_writeTemplate_eq {names : List String} {templates : List Template}
    {t : Template} (ht : t ∈ templates) (hname : t.name ∉ names) (n : String)
    (objects objects' : Objects) :
    (templates.foldl (writeTemplate names n) objects).find? (ObjectKey.new t.kind n t.name) =
      (templates.foldl (writeTemplate names n) objects').find?
        (ObjectKey.new t.kind n t.name) := by
  rw [find?_foldl_writeTemplate, find?_foldl_writeTemplate]
  obtain ⟨u, hu⟩ : ∃ u, (templates.filter fun u => u.name ∉ names ∧
      ObjectKey.new u.kind n u.name = ObjectKey.new t.kind n t.name).getLast? = some u := by
    refine Option.isSome_iff_exists.1 (List.getLast?_isSome.2 (List.ne_nil_of_mem (a := t) ?_))
    exact List.mem_filter.2 ⟨ht, by simp [hname]⟩
  rw [hu]
  rfl

namespace NamespaceClass

variable {c : NamespaceClass} {names : List String} {ns : Namespace} {t : Template}

/-- What an update leaves at the key of a declared template does not depend on what was there. -/
theorem find?_updateObjects_of_declared (ht : t ∈ Template.parseAll c.spec.resources)
    (hname : t.name ∉ names) (objects objects' : Objects) :
    (c.updateObjects names objects ns).find? (ObjectKey.new t.kind ns.nameAny t.name) =
      (c.updateObjects names objects' ns).find? (ObjectKey.new t.kind ns.nameAny t.name) := by
  rw [updateObjects, updateObjects, find?_foldl_eraseTemplate, find?_foldl_eraseTemplate,
    find?_foldl_writeTemplate_eq ht hname]

/-- An update leaves nothing at the key of a template that it prunes. -/
theorem find?_updateObjects_of_pruned (ht : t ∈ c.prunedFrom ns) (hname : t.name ∉ names)
    (objects : Objects) :
    (c.updateObjects names objects ns).find? (ObjectKey.new t.kind ns.nameAny t.name) = none := by
  rw [updateObjects, find?_foldl_eraseTemplate, if_pos ⟨t, ht, hname, rfl⟩]

end NamespaceClass

namespace Cluster.Worked

variable {names : List String} {listed : List Namespace} {written : List Template}
  {erased : Namespace → List Template} {s s₁ : Cluster}

/-- The contents show the same objects, except where templates are written or erased. -/
theorem find?_contents (h : s.Worked names listed written erased s₁) (k : ObjectKey) :
    s₁.contents.objects.find? k = s.contents.objects.find? k ∨ ∃ ns ∈ listed, ∃ t,
      (t ∈ written ∨ t ∈ erased ns) ∧ t.name ∉ names ∧
        k = ObjectKey.new t.kind ns.nameAny t.name := by
  rcases h.objects k with hsame | ⟨ns, hns, ⟨t, ht, hname, hk, -⟩ | ⟨t, ht, hname, hk, -⟩⟩
  · refine Or.inl ?_
    rw [Cluster.contents, Cluster.contents, SortedMap.find?_map, SortedMap.find?_map, hsame]
  · exact Or.inr ⟨ns, hns, t, Or.inl ht, hname, hk⟩
  · exact Or.inr ⟨ns, hns, t, Or.inr ht, hname, hk⟩

/-- Templates that have been written into a namespace are written into it again. -/
theorem foldl_writeTemplate_eq {ns : Namespace}
    (h : s.Worked names [ns] written (fun _ => []) s₁) :
    written.foldl (writeTemplate names ns.nameAny) s₁.contents.objects =
      written.foldl (writeTemplate names ns.nameAny) s.contents.objects := by
  refine SortedMap.ext_find? fun k => ?_
  rcases h.find?_contents k with hsame | ⟨ns', hns, t, ht, hname, rfl⟩
  · exact (ActsIn.foldl written fun t _ => actsIn_writeTemplate names ns.nameAny t).inside hsame
  · obtain rfl := List.mem_singleton.1 hns
    exact find?_foldl_writeTemplate_eq (ht.resolve_right List.not_mem_nil) hname _ _ _

/-- Namespaces in which the templates of a class have been written and erased are updated
again. -/
theorem foldl_updateObjects_eq {c : NamespaceClass}
    (h : s.Worked names listed (Template.parseAll c.spec.resources) c.prunedFrom s₁)
    (hnames : listed.Pairwise fun ns ns' => ns.nameAny ≠ ns'.nameAny) :
    listed.foldl (c.updateObjects names) s₁.contents.objects =
      listed.foldl (c.updateObjects names) s.contents.objects := by
  have hacts := c.actsIn_updateObjects names
  refine SortedMap.ext_find? fun k => ?_
  rcases h.find?_contents k with hsame | ⟨ns, hns, t, ht, hname, rfl⟩
  · exact find?_foldl_congr hacts listed hsame
  · rw [find?_foldl_actsIn hacts hnames hns rfl, find?_foldl_actsIn hacts hnames hns rfl]
    rcases ht with ht | ht
    · exact NamespaceClass.find?_updateObjects_of_declared ht hname _ _
    · rw [NamespaceClass.find?_updateObjects_of_pruned ht hname,
        NamespaceClass.find?_updateObjects_of_pruned ht hname]

/-- Namespaces that have been cleaned up are cleaned up again. -/
theorem foldl_cleanObjects_eq {c : NamespaceClass}
    (h : s.Worked names listed [] c.cleanedFrom s₁) :
    listed.foldl (cleanObjects names c.ownTemplates) s₁.objects =
      listed.foldl (cleanObjects names c.ownTemplates) s.objects := by
  refine SortedMap.ext_find? fun k => ?_
  rw [find?_foldl_cleanObjects, find?_foldl_cleanObjects]
  split
  case isTrue => rfl
  case isFalse hkept =>
    rcases h.objects k with hsame | ⟨ns, hns, ⟨t, ht, -⟩ | ⟨t, ht, hname, hk, -⟩⟩
    · exact hsame
    · exact absurd ht List.not_mem_nil
    · rw [NamespaceClass.cleanedFrom] at ht
      split at ht
      case isTrue hopted => exact absurd ⟨ns, hns, hopted, t, ht, hname, hk⟩ hkept
      case isFalse => exact absurd ht List.not_mem_nil

/-- But for the objects, the contents are the same. -/
theorem contents_with_eq (h : s.Worked names listed written erased s₁) (objects : Objects) :
    { s₁.contents with objects := objects } = { s.contents with objects := objects } := by
  rw [Cluster.contents, Cluster.contents, h.namespaces, h.classes]

end Cluster.Worked

/-! ## A class that is guarded again -/

namespace NamespaceClass

variable (c : NamespaceClass)

theorem unversioned_addFinalizer : c.addFinalizer.2.unversioned = c.unversioned.addFinalizer.2 := by
  have hsame : c.unversioned.hasFinalizer = c.hasFinalizer := rfl
  cases hf : c.hasFinalizer with
  | true => rw [addFinalizer_of_hasFinalizer hf, addFinalizer_of_hasFinalizer (hsame.trans hf)]
  | false =>
    rw [addFinalizer_of_not_hasFinalizer hf, addFinalizer_of_not_hasFinalizer (hsame.trans hf)]
    rfl

theorem addFinalizer_addFinalizer : c.addFinalizer.2.addFinalizer.2 = c.addFinalizer.2 := by
  rw [addFinalizer_of_hasFinalizer c.hasFinalizer_addFinalizer]

/-- But for versions, a class that has been guarded is guarded as it was before. -/
theorem unversioned_addFinalizer_of_guarded {m : Metadata}
    (hm : ∃ version, m = { c.metadata with resourceVersion := version } ∨
      m = { c.addFinalizer.2.metadata with resourceVersion := version }) :
    ({ c with metadata := m } : NamespaceClass).addFinalizer.2.unversioned =
      c.addFinalizer.2.unversioned := by
  obtain ⟨version, rfl | rfl⟩ := hm
  · rw [unversioned_addFinalizer, unversioned_addFinalizer]
    rfl
  · have hguarded : ({ c with metadata := { c.addFinalizer.2.metadata with
        resourceVersion := version } } : NamespaceClass).unversioned =
          c.addFinalizer.2.unversioned := by
      rw [unversioned, unversioned, c.spec_addFinalizer, c.status_addFinalizer]
    rw [unversioned_addFinalizer, hguarded, ← unversioned_addFinalizer, addFinalizer_addFinalizer]

/-- But for versions, a class that has been guarded is updated as it was before. -/
theorem unversioned_updated_of_guarded {m : Metadata}
    (hm : ∃ version, m = { c.metadata with resourceVersion := version } ∨
      m = { c.addFinalizer.2.metadata with resourceVersion := version })
    (names : List String) (namespaces : List Namespace) :
    (({ c with metadata := m } : NamespaceClass).updated names namespaces).unversioned =
      (c.updated names namespaces).unversioned := by
  have hguarded := congrArg (fun d : NamespaceClass => { d with
    status := (c.updated names namespaces).status }) (c.unversioned_addFinalizer_of_guarded hm)
  exact hguarded

end NamespaceClass

/-! ## Runs -/

namespace Cluster

variable (error : String → StoreError) (names : List String) {s : Cluster} {key : Key}

/-- A key that stands for a namespace has its class applied into it. -/
theorem runRefusing_reconcile_inNamespace (hs : s.WellFormed) (hkind : key.kind ≠ some .ofClass)
    {ns : Namespace} (hns : s.namespaces.find? key.name = some ns) {className : String}
    (hclass : ns.className? = some className) {c : NamespaceClass}
    (hc : s.classes.find? className = some c) (active : c.isDeleting = false) :
    let r := s.runRefusing error names (reconcile key).run
    r.1 = .ok (.inNamespace className (c.spec.resources.countP (isUnwritable names))) ∧
      r.2.contents = { s.contents with
        objects := (Template.parseAll c.spec.resources).foldl (writeTemplate names ns.nameAny)
          s.contents.objects } := by
  intro r
  have hread : s.perform (.getNamespace key.name) = (.ok (some ns), s) := by rw [perform, hns]
  have hget : s.perform (.getClass className) = (.ok (some c), s) := by rw [perform, hc]
  obtain ⟨hcontents, hfailed⟩ :=
    contents_applyFrom error names c.spec.resources 0 ns.nameAny hs
  have hrun : r = (.ok (.inNamespace className (c.spec.resources.countP (isUnwritable names))),
      (s.runRefusing error names (applyAll c.spec.resources ns.nameAny)).2) := by
    rw [← hfailed]
    simp only [r, reconcile, if_neg hkind]
    refine (runRefusing_callOrFail_bind error names rfl hread _).trans ?_
    simp only [reconcileNamespace, hclass]
    refine (runRefusing_callOrFail_bind error names rfl hget _).trans ?_
    simp only [active, Bool.false_eq_true, if_false]
    exact (runRefusing_bind_of_ok error names (runRefusing_liftM error names s _) _)
  rw [hrun]
  exact ⟨rfl, hcontents⟩

end Cluster

section Again

variable {error : String → StoreError} {names : List String} {listed : List Namespace}
  {s s₀ s₁ : Cluster} {c : NamespaceClass}

/-- What an update makes of the contents does not depend on how far an update has come before. -/
theorem updateContents_of_underway {m : Metadata}
    (hguards : s.Guards s₀ c { c with metadata := m })
    (hworked : s₀.Worked names listed (Template.parseAll c.spec.resources) c.prunedFrom s₁)
    (hnames : listed.Pairwise fun ns ns' => ns.nameAny ≠ ns'.nameAny) :
    ({ c with metadata := m } : NamespaceClass).updateContents names listed s₁.contents =
      c.updateContents names listed s.contents := by
  have hclasses : s₁.contents.classes = s.contents.classes.insert c.nameAny
      ({ c with metadata := m } : NamespaceClass).unversioned := by
    refine Eq.trans ?_ (congrArg Contents.classes hguards.contents)
    rw [Cluster.contents, Cluster.contents, hworked.classes]
  have hnamespaces : s₁.contents.namespaces = s.contents.namespaces :=
    hworked.namespaces.trans hguards.namespaces
  have hobjects : listed.foldl (c.updateObjects names) s₁.contents.objects =
      listed.foldl (c.updateObjects names) s.contents.objects := by
    rw [hworked.foldl_updateObjects_eq hnames, Cluster.contents, Cluster.contents, hguards.objects]
  have hupdated := c.unversioned_updated_of_guarded hguards.metadata names listed
  rw [NamespaceClass.updateContents, NamespaceClass.updateContents, hguards.nameAny, hupdated,
    hclasses, SortedMap.insert_insert, hnamespaces, ← hobjects]
  rfl

/-- The cleanup after a class comes to the same end however far a cleanup has come before. -/
theorem finalize_of_underway (hs : s.WellFormed) (hs₁ : s₁.WellFormed)
    (hc : s.classes.find? c.nameAny = some c) (deleting : c.isDeleting = true)
    (held : c.hasFinalizer = true)
    (hworked : s.Worked names (s.namespacesForClass c.nameAny) [] c.cleanedFrom s₁) :
    let whole := s.runRefusing error names (reconcile (.ofClass c.nameAny)).run
    let again := s₁.runRefusing error names (reconcile (.ofClass c.nameAny)).run
    again.1 = whole.1 ∧ again.2.contents = whole.2.contents := by
  intro whole again
  have hlisted : s₁.namespacesForClass c.nameAny = s.namespacesForClass c.nameAny := by
    rw [Cluster.namespacesForClass, hworked.namespaces, Cluster.namespacesForClass]
  obtain ⟨hobjects, hnamespaces, hothers, hrefused, hdone⟩ :=
    Cluster.runRefusing_reconcile_deleting error names hs hc deleting held
  obtain ⟨hobjects₁, hnamespaces₁, hothers₁, hrefused₁, hdone₁⟩ :=
    Cluster.runRefusing_reconcile_deleting error names hs₁ (hworked.classes ▸ hc) deleting held
  rw [hlisted] at hobjects₁ hrefused₁ hdone₁
  -- the class is left alone by both runs, or released by both
  obtain ⟨hresult, hclass⟩ : again.1 = whole.1 ∧
      (again.2.classes.find? c.nameAny).map NamespaceClass.unversioned =
        (whole.2.classes.find? c.nameAny).map NamespaceClass.unversioned := by
    rcases Nat.eq_zero_or_pos (c.refusedDeletions names (s.namespacesForClass c.nameAny)) with
      hnone | hsome
    · exact ⟨(hdone₁ hnone).1.trans (hdone hnone).1.symm,
        (hdone₁ hnone).2.trans (hdone hnone).2.symm⟩
    · refine ⟨(hrefused₁ hsome).1.trans (hrefused hsome).1.symm, ?_⟩
      rw [(hrefused₁ hsome).2, (hrefused hsome).2]
  have hobjects : again.2.objects = whole.2.objects :=
    hobjects₁.trans (hworked.foldl_cleanObjects_eq.trans hobjects.symm)
  have hnamespaces : again.2.namespaces = whole.2.namespaces :=
    hnamespaces₁.trans (hworked.namespaces.trans hnamespaces.symm)
  have hclasses : again.2.classes.map NamespaceClass.unversioned =
      whole.2.classes.map NamespaceClass.unversioned := by
    refine SortedMap.ext_find? fun d => ?_
    rw [SortedMap.find?_map, SortedMap.find?_map]
    by_cases hd : d = c.nameAny
    · rw [hd, hclass]
    · rw [hothers₁ d hd, hothers d hd, hworked.classes]
  refine ⟨hresult, ?_⟩
  rw [Cluster.contents, Cluster.contents, hobjects, hnamespaces, hclasses]

end Again

/-- From every stage of a reconcile, running it again comes to the same result and contents. -/
theorem Cluster.Underway.resumes (error : String → StoreError) {names : List String} {key : Key}
    {s s₁ : Cluster} (h : s.Underway names key s₁) (hs : s.WellFormed) (hs₁ : s₁.WellFormed) :
    let whole := s.runRefusing error names (reconcile key).run
    let again := s₁.runRefusing error names (reconcile key).run
    again.1 = whole.1 ∧ again.2.contents = whole.2.contents := by
  intro whole again
  cases h with
  | started => exact ⟨rfl, rfl⟩
  | @inNamespace ns className c _ hkind hns hclass hc active hworked =>
    obtain ⟨hresult, hcontents⟩ := Cluster.runRefusing_reconcile_inNamespace error names hs hkind
      hns hclass hc active
    obtain ⟨hresult', hcontents'⟩ := Cluster.runRefusing_reconcile_inNamespace error names hs₁
      hkind (hworked.namespaces ▸ hns) hclass (hworked.classes ▸ hc) active
    refine ⟨hresult'.trans hresult.symm, hcontents'.trans (Eq.trans ?_ hcontents.symm)⟩
    rw [hworked.foldl_writeTemplate_eq]
    exact hworked.contents_with_eq _
  | @updating c c₁ s₀ _ hkey hname hc active hguards hworked =>
    have hnamespaces : s₁.namespaces = s.namespaces :=
      hworked.namespaces.trans hguards.namespaces
    have hlisted : s₁.namespacesForClass key.name = s.namespacesForClass key.name := by
      rw [Cluster.namespacesForClass, hnamespaces, Cluster.namespacesForClass]
    have hkey₁ : key.NamesClass s₁ := by
      rw [Key.NamesClass, hnamespaces]
      exact hkey
    have hc₁ : s₁.classes.find? key.name = some c₁ := by
      rw [hworked.classes, ← hname, hguards.stored]
    obtain ⟨s', hrun, hcontents⟩ :=
      Cluster.runRefusing_reconcile_active error names hs hc active
    obtain ⟨s₁', hrun₁, hcontents₁⟩ := Cluster.runRefusing_reconcile_active error names hs₁ hc₁
      (hguards.isDeleting.trans active)
    rw [← Cluster.runRefusing_reconcile_of_namesClass error names hkey] at hrun
    rw [← Cluster.runRefusing_reconcile_of_namesClass error names hkey₁, hlisted] at hrun₁
    -- but for the metadata, the class is the one that was read
    obtain ⟨hspec, hstatus⟩ := hguards.unamended (hs.find?_webhooks c.nameAny)
    obtain ⟨m, rfl⟩ : ∃ m, c₁ = { c with metadata := m } :=
      ⟨c₁.metadata, by rw [← hspec, ← hstatus]⟩
    have hwhole : whole = _ := hrun
    have hagain : again = _ := hrun₁
    rw [hwhole, hagain]
    refine ⟨rfl, hcontents₁.trans (Eq.trans ?_ hcontents.symm)⟩
    rw [hlisted]
    exact updateContents_of_underway hguards hworked
      (hs.pairwise_namespacesForClass key.name)
  | @finalizing c _ hkey hname hc deleting held hworked =>
    have hkey₁ : key.NamesClass s₁ := by
      rw [Key.NamesClass, hworked.namespaces]
      exact hkey
    have hwhole : whole = _ := Cluster.runRefusing_reconcile_of_namesClass error names hkey
    have hagain : again = _ := Cluster.runRefusing_reconcile_of_namesClass error names hkey₁
    rw [hwhole, hagain]
    rw [← hname] at hc hworked ⊢
    exact finalize_of_underway hs hs₁ hc deleting held hworked

/-! ## Simulated runs -/

/-- Where the writes to the objects of some names are refused and nothing else fails, a reconcile
of any key that is cut before one of its calls ends as cancelled. Reconciling the key again from
there comes to the same result as the reconcile that is not cut, and to the same namespaces,
classes and objects but for their versions. -/
theorem reconcile_resumes {s : Simulation} (hs : s.cluster.Reachable)
    {error : String → StoreError} {names : List String}
    (hfaults : s.faults = Fault.refusing error names) (key : Key) {calls : Nat}
    (hcalls : s.calls.length + calls < (s.reconcile key .never).2.calls.length) :
    let whole := s.reconcile key .never
    let cut := s.reconcile key (.afterFirst calls)
    let again := cut.2.reconcile key .never
    cut.1 = .error .cancelled ∧ again.1 = whole.1 ∧
      again.2.cluster.contents = whole.2.cluster.contents := by
  intro whole cut again
  have hw : s.cluster.WellFormed := hs.wellFormed
  have hnone := Simulation.runFirst_eq_none hcalls
  -- the cut leaves a cluster under way
  obtain ⟨hfaults₁, _, hunderway⟩ := Simulation.runFirst_ensures hfaults
    (ensures_underway error names hw key) hnone
  obtain ⟨-, _, hw₁⟩ := Simulation.runFirst_ensures hfaults
    (hw.ensures (FateRule.refusing error names) (reconcile key).run) hnone
  obtain ⟨hresult, hcontents⟩ := hunderway.resumes error hw hw₁
  -- both whole runs are those of the store that refuses the names
  obtain ⟨hwhole, hwholeCluster, -⟩ := Simulation.run_refusing hfaults (reconcile key).run
  obtain ⟨hagain, hagainCluster, -⟩ := Simulation.run_refusing hfaults₁ (reconcile key).run
  have hcut : cut = (.error .cancelled, (s.runFirst calls (reconcile key).run).2) := by
    simp only [cut, Simulation.reconcile, hnone]
    rfl
  have hagainRun : again = (s.runFirst calls (reconcile key).run).2.run (reconcile key).run := by
    simp only [again, hcut, Simulation.reconcile]
  refine ⟨congrArg Prod.fst hcut, ?_, ?_⟩
  · rw [hagainRun, hagain, hresult]
    exact hwhole.symm
  · rw [hagainRun, hagainCluster, hcontents]
    exact congrArg Cluster.contents hwholeCluster.symm

/-- In the small cluster, a reconcile that is cut after it has written and erased objects and
before it has written the record, and then run again. -/
theorem reconcile_resumes_sample :
    let s : Simulation :=
      { cluster := Cluster.sample, faults := Fault.refusing (fun _ => .timeout) ["stuck"] }
    s.cluster.Reachable ∧ s.faults = Fault.refusing (fun _ => .timeout) ["stuck"] ∧
      s.calls.length + 6 < (s.reconcile (.ofClass "gold") .never).2.calls.length ∧
      let whole := s.reconcile (.ofClass "gold") .never
      let cut := s.reconcile (.ofClass "gold") (.afterFirst 6)
      let again := cut.2.reconcile (.ofClass "gold") .never
      cut.1 = .error .cancelled ∧ again.1 = whole.1 ∧
        again.2.cluster.contents = whole.2.cluster.contents := by
  intro s
  have hs : s.cluster.Reachable := Cluster.reachable_sample
  have hfaults : s.faults = Fault.refusing (fun _ => .timeout) ["stuck"] := rfl
  have hcalls : s.calls.length + 6 < (s.reconcile (.ofClass "gold") .never).2.calls.length := by
    decide +kernel
  exact ⟨hs, hfaults, hcalls, reconcile_resumes hs hfaults (.ofClass "gold") hcalls⟩

end ClassReconciler
