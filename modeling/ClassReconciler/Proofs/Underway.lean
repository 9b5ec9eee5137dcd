import ClassReconciler.Proofs.ClassUpdate
import ClassReconciler.Proofs.Finalization
import ClassReconciler.Proofs.TemplateWrites

/-!
# Reconciles under way

What a reconcile may have done by any of its calls, on a store that refuses the writes to the
objects of some names and fails nothing else. `Cluster.Underway` lists it: nothing yet, or objects
of a namespace's class are written into it, or the finalizer of a class is added and objects are
written and erased in its namespaces, or objects of a class that is being deleted are erased. A
reconcile that goes to its end then makes at most one more write, of its class (`Cluster.Ends`).
`ensures_underway` says both of every key.

A run that is cut at a call leaves the cluster that the call would have met
(`Simulation.runFirst_ensures`), so that it is one of those under way.
-/

namespace ClassReconciler

/-! ## Stages -/

/-- The templates of a class that its cleanup deletes from a namespace. -/
def NamespaceClass.cleanedFrom (c : NamespaceClass) (ns : Namespace) : List Template :=
  if ns.cleanupEnabled then c.ownTemplates else []

/-- What the reconcile of a key may have made of a cluster by any of its calls. -/
inductive Cluster.Underway (names : List String) (key : Key) (s : Cluster) : Cluster → Prop where
  | started : s.Underway names key s
  /-- The class of a namespace is being applied into it. -/
  | inNamespace {ns : Namespace} {className : String} {c : NamespaceClass} {s₁ : Cluster} :
    key.kind ≠ some .ofClass → s.namespaces.find? key.name = some ns →
    ns.className? = some className → s.classes.find? className = some c → c.isDeleting = false →
    s.Worked names [ns] (Template.parseAll c.spec.resources) (fun _ => []) s₁ →
    s.Underway names key s₁
  /-- A class is being updated. -/
  | updating {c c₁ : NamespaceClass} {s₀ s₁ : Cluster} :
    key.NamesClass s → c.nameAny = key.name → s.classes.find? key.name = some c →
    c.isDeleting = false → s.Guards s₀ c c₁ →
    s₀.Worked names (s.namespacesForClass key.name) (Template.parseAll c.spec.resources)
      c.prunedFrom s₁ →
    s.Underway names key s₁
  /-- A class that is being deleted is being cleaned up after. -/
  | finalizing {c : NamespaceClass} {s₁ : Cluster} :
    key.NamesClass s → c.nameAny = key.name → s.classes.find? key.name = some c →
    c.isDeleting = true → c.hasFinalizer = true →
    s.Worked names (s.namespacesForClass key.name) [] c.cleanedFrom s₁ →
    s.Underway names key s₁

/-- The reconcile has applied a class to all its namespaces. -/
def ReconcileResult.isApplied : ReconcileResult → Bool
  | .ok (.applied ..) => true
  | _ => false

theorem ReconcileResult.isApplied_iff {r : ReconcileResult} :
    r.isApplied = true ↔ ∃ m f p, r = .ok (.applied m f p) := by
  constructor
  · intro h
    unfold isApplied at h
    split at h
    case h_1 m f p => exact ⟨m, f, p, rfl⟩
    case h_2 => cases h
  · rintro ⟨m, f, p, rfl⟩
    rfl

/-- How the reconcile of a key goes to its end: it leaves what it has done as it is, or it has
recorded what it applied of the class of its name, or it releases that class, which was being
deleted. -/
inductive Cluster.Ends (names : List String) (key : Key) (s : Cluster) :
    ReconcileResult → Cluster → Prop where
  | left {r : ReconcileResult} {s₁ : Cluster} :
    r.isApplied = false → s.Underway names key s₁ → s.Ends names key r s₁
  | recorded {m f p : Nat} {c c₁ : NamespaceClass} {s₁ s₂ : Cluster} :
    key.NamesClass s → s.classes.find? key.name = some c → c.isDeleting = false →
    s.Underway names key s₁ → s₁.StoresClass s₂ key.name c₁ → c₁.spec = c.spec →
    c₁.isDeleting = false → s.Ends names key (.ok (.applied m f p)) s₂
  | released {m n : Nat} {c : NamespaceClass} {s₁ s₂ : Cluster} :
    s.classes.find? key.name = some c → c.isDeleting = true → s.Underway names key s₁ →
    s₂.namespaces = s₁.namespaces → s₂.objects = s₁.objects →
    (∀ d, d ≠ key.name → s₂.classes.find? d = s₁.classes.find? d) →
    (∀ c₁, s₂.classes.find? key.name = some c₁ → c₁.isDeleting = true) →
    s.Ends names key (.ok (.finalized m n)) s₂

/-! ## Courses -/

section Courses

variable {error : String → StoreError} {names : List String} {s : Cluster}

/-- A step that writes no object and succeeds does so although names are refused. -/
theorem ensures_callOrFail_of_ok {c : StoreCall} {a : c.Answer} {s' : Cluster}
    {asks : Cluster → Effect → Prop} {post : Except ReconcileError c.Answer → Cluster → Prop}
    (hc : c.writesObject = false) (h : s.perform c = (.ok a, s')) (hasks : asks s (.call c))
    (hpost : post (.ok a) s') :
    (callOrFail c).run.Ensures (FateRule.refusing error names).Answers asks s post := by
  refine (ensures_callOrFail c s post).2 ⟨hasks, ?_⟩
  rintro f rfl
  rw [FateRule.refusal, if_neg (by simp [hc]), Cluster.meet, h]
  exact hpost

/-- The record is written where it differs from the stored one. -/
theorem writeRecord_ends {name : String} {c : NamespaceClass} (hname : c.nameAny = name)
    (hc : s.classes.find? name = some c) (record : List Json) (asks : Cluster → Effect → Prop)
    (hasks : ∀ c', asks s (.call (.replaceClassStatus c'))) :
    (writeRecord c record).run.Ensures (FateRule.refusing error names).Answers asks s
      fun r s₁ => r = .ok () ∧ ∃ c₁, s.StoresClass s₁ name c₁ ∧ c₁.spec = c.spec ∧
        c₁.isDeleting = c.isDeleting := by
  subst hname
  rw [writeRecord]
  split
  · exact ⟨rfl, c, .refl hc, rfl, rfl⟩
  · let written : NamespaceClass := { c with status := some ⟨record⟩ }
    have hwritten : s.classes.find? written.nameAny = some c := hc
    refine (ensures_exceptT_bind _ _ s _).2 (ensures_callOrFail_of_ok rfl
      (Cluster.perform_replaceClassStatus (c := written) hwritten) (hasks written) ?_)
    exact ⟨rfl, _, Cluster.storesClass_replaceClassStatus (c := written) hwritten, rfl, rfl⟩

/-- What stays stored of a class that is being deleted when it is replaced. -/
theorem isDeleting_of_replaceClass {c c' c₁ : NamespaceClass}
    (hc : s.classes.find? c'.nameAny = some c)
    (hv : c.metadata.resourceVersion = c'.metadata.resourceVersion)
    (hc₁ : (s.replaceClass c').2.classes.find? c'.nameAny = some c₁) :
    c₁.isDeleting = c'.isDeleting := by
  rw [Cluster.replaceClass_of_version hc hv] at hc₁
  simp only at hc₁
  split at hc₁
  · rw [SortedMap.find?_erase, if_pos rfl] at hc₁
    cases hc₁
  · rw [SortedMap.find?_insert, if_pos rfl] at hc₁
    obtain rfl := Option.some.inj hc₁
    rw [NamespaceClass.isDeleting, Cluster.accepted_metadata]
    rfl

/-- The reconcile of a namespace. -/
theorem reconcileNamespace_underway {key : Key} {ns : Namespace}
    (hkind : key.kind ≠ some .ofClass) (hns : s.namespaces.find? key.name = some ns) :
    (reconcileNamespace ns).run.Ensures (FateRule.refusing error names).Answers
      (fun s₁ _ => s.Underway names key s₁) s (s.Ends names key) := by
  have hleft : ∀ r : ReconcileResult, r.isApplied = false → s.Ends names key r s :=
    fun r hr => .left hr .started
  rw [reconcileNamespace]
  split
  case h_1 => exact hleft _ rfl
  case h_2 className hclass =>
  refine (ensures_exceptT_bind _ _ s _).2 (ensures_read rfl .started ?_ fun _ => hleft _ rfl)
  cases hc : s.classes.find? className with
  | none =>
    refine (ensures_exceptT_bind _ _ s _).2 ((ensures_liftM _ s _).2 ?_)
    exact (FateRule.ensures_warn _ s _).2 ⟨.started, hleft _ rfl⟩
  | some c =>
    simp only
    split
    case isTrue => exact hleft _ rfl
    case isFalse active =>
      have active : c.isDeleting = false := by simpa using active
      have hworks := (applyFrom_asks c.spec.resources 0 ns.nameAny).mono fun e he =>
        (⟨ns, List.mem_singleton_self ns, he.mono fun _ _ => False.elim⟩ :
          ∃ ns' ∈ [ns], e.WorksIn ns'.nameAny fun kind name =>
            ∃ t ∈ ([] : List Template), t.kind = kind ∧ t.name = name)
      have hworked := ensures_worked error names
        hworks (applyFrom_writes c.spec.resources 0 ns.nameAny)
        (fun t ht => (Template.mem_parseAll.1 ht).imp fun _ h => h.2) s
      refine (ensures_exceptT_bind _ _ s _).2 ((ensures_liftM _ s _).2 (hworked.mono ?_ ?_))
      · exact fun s₁ _ h => .inNamespace hkind hns hclass hc active h
      · exact fun report s₁ h => .left rfl (.inNamespace hkind hns hclass hc active h)

/-- The update of a class. -/
theorem applyClass_underway (hs : s.WellFormed) {key : Key} (hkey : key.NamesClass s)
    {c : NamespaceClass} (hname : c.nameAny = key.name)
    (hc : s.classes.find? c.nameAny = some c) (active : c.isDeleting = false) :
    (applyClass c).run.Ensures (FateRule.refusing error names).Answers
      (fun s₁ _ => s.Underway names key s₁) s (s.Ends names key) := by
  have hunderway : ∀ {s₀ s₁ : Cluster} {c₁ : NamespaceClass}, s.Guards s₀ c c₁ →
      s₀.Worked names (s.namespacesForClass c.nameAny) (Template.parseAll c.spec.resources)
        c.prunedFrom s₁ → s.Underway names key s₁ :=
    fun hguards h => .updating hkey hname (hname ▸ hc) active hguards (hname ▸ h)
  refine ensures_applyClass hc active .started (fun s₁ c₁ hguards => hunderway hguards (.refl s₁))
    (fun s₁ c₁ hguards e => .left rfl (hunderway hguards (.refl s₁))) ?_
  intro s₁ c₁ hguards namespaces revision
  obtain ⟨hspec, hstatus⟩ := hguards.unamended (hs.find?_webhooks c.nameAny)
  -- the finalizer does not change what is updated
  obtain ⟨m, rfl⟩ : ∃ m, c₁ = { c with metadata := m } := by
    refine ⟨c₁.metadata, ?_⟩
    rw [← hspec, ← hstatus]
  have hworks := (updateEach_asks c.spec.resources revision { retained := revision.deferred }
    namespaces).mono fun e ⟨ns, hns, he⟩ =>
      (⟨ns, hns, he.mono fun kind name ⟨hprunes, hopted, t, ht, h⟩ =>
        ⟨t, NamespaceClass.mem_prunedFrom.2
          ⟨⟨hopted, c.prunes_eq ▸ hprunes⟩, c.templates_eq ▸ ht⟩, h⟩⟩ :
        ∃ ns ∈ namespaces, e.WorksIn ns.nameAny fun kind name =>
          ∃ t ∈ c.prunedFrom ns, t.kind = kind ∧ t.name = name)
  have hworked := ensures_worked error names hworks
    (updateEach_writes c.spec.resources revision { retained := revision.deferred } namespaces)
    (fun t ht => (Template.mem_parseAll.1 ht).imp fun _ h => h.2) s₁
  refine hworked.mono (fun s₂ _ h => hunderway hguards h) fun tally s₂ h => ?_
  have hstored : s₂.classes.find? key.name = some { c with metadata := m } := by
    rw [h.classes, ← hname, hguards.stored]
  refine (writeRecord_ends (hguards.nameAny.trans hname) hstored _
    (fun s₃ _ => s.Underway names key s₃) fun _ => hunderway hguards h).imp ?_
  rintro r s₃ ⟨rfl, c₃, hstores, hspec₃, hdeleting⟩
  exact .recorded hkey (hname ▸ hc) active (hunderway hguards h) hstores hspec₃
    (hdeleting.trans (hguards.isDeleting.trans active))

/-- The cleanup after a class. -/
theorem finalizeClass_underway {key : Key} (hkey : key.NamesClass s) {c : NamespaceClass}
    (hname : c.nameAny = key.name) (hc : s.classes.find? c.nameAny = some c)
    (deleting : c.isDeleting = true) (held : c.hasFinalizer = true) :
    (finalizeClass c).run.Ensures (FateRule.refusing error names).Answers
      (fun s₁ _ => s.Underway names key s₁) s (s.Ends names key) := by
  have hunderway : ∀ {s₁ : Cluster}, s.Worked names (s.namespacesForClass c.nameAny) []
      c.cleanedFrom s₁ → s.Underway names key s₁ :=
    fun h => .finalizing hkey hname (hname ▸ hc) deleting held (hname ▸ h)
  refine ensures_finalizeClass .started (fun e => .left rfl .started) ?_
  have hcleaned : ∀ ns : Namespace, ns.cleanupEnabled = true → ∀ t ∈ declaredTemplates c,
      t ∈ c.cleanedFrom ns := by
    intro ns hopted t ht
    rw [NamespaceClass.cleanedFrom, if_pos hopted, ← declaredTemplates_eq]
    exact ht
  have hworks := (finalizeEach_asks c.nameAny (declaredTemplates c)
    (s.namespacesForClass c.nameAny)).mono fun e ⟨ns, hns, he⟩ =>
      (⟨ns, hns, he.mono fun kind name ⟨hopted, t, ht, h⟩ =>
        ⟨t, hcleaned ns hopted t ht, h⟩⟩ :
        ∃ ns ∈ s.namespacesForClass c.nameAny, e.WorksIn ns.nameAny fun kind name =>
          ∃ t ∈ c.cleanedFrom ns, t.kind = kind ∧ t.name = name)
  have hworked := ensures_worked error names hworks
    (finalizeEach_writes [] c.nameAny (declaredTemplates c) (s.namespacesForClass c.nameAny))
    (fun t ht => absurd ht List.not_mem_nil) s
  rw [finalizeNamespaces]
  refine hworked.mono (fun s₁ _ h => hunderway h) fun report s₁ h => ?_
  split
  case isFalse => exact .left rfl (hunderway h)
  case isTrue =>
    have hname₁ : c.removeFinalizer.2.nameAny = key.name :=
      c.nameAny_removeFinalizer.trans hname
    have hc₁ : s₁.classes.find? c.removeFinalizer.2.nameAny = some c := by
      rw [h.classes, hname₁, ← hname, hc]
    have hv := c.resourceVersion_removeFinalizer.symm
    let released := (s₁.replaceClass c.removeFinalizer.2).2
    have hothers : ∀ d, d ≠ key.name → released.classes.find? d = s₁.classes.find? d :=
      fun d hd => Cluster.find?_replaceClass_of_ne s₁ (hname₁.symm ▸ hd)
    have hdeleting : ∀ c₁, released.classes.find? key.name = some c₁ → c₁.isDeleting = true := by
      intro c₁ hstored
      rw [← hname₁] at hstored
      rw [isDeleting_of_replaceClass hc₁ hv hstored, c.isDeleting_removeFinalizer, deleting]
    refine ensures_callOrFail_of_ok rfl (Cluster.perform_replaceClass hc₁ hv) (hunderway h) ?_
    exact .released (hname ▸ hc) deleting (hunderway h) (Cluster.namespaces_replaceClass _ _)
      (Cluster.objects_replaceClass _ _) hothers hdeleting

/-- What a reconcile may have done by any of its calls, and how it ends. -/
theorem ensures_underway (error : String → StoreError) (names : List String) {s : Cluster}
    (hs : s.WellFormed) (key : Key) :
    (reconcile key).run.Ensures (FateRule.refusing error names).Answers
      (fun s₁ _ => s.Underway names key s₁) s (s.Ends names key) := by
  have hleft : ∀ r : ReconcileResult, r.isApplied = false → s.Ends names key r s :=
    fun r hr => .left hr .started
  refine ensures_reconcile .started (fun ns hkind hns => reconcileNamespace_underway hkind hns)
    (fun hkey => ?_) (hleft _ rfl) fun _ => hleft _ rfl
  refine ensures_reconcileClassNamed hs.toNamed .started ?_
    (fun c hname hc active => applyClass_underway hs hkey hname hc active)
    (fun c hname hc deleting held => finalizeClass_underway hkey hname hc deleting held)
    (hleft _ rfl) fun _ => hleft _ rfl
  refine (ensures_exceptT_bind _ _ s _).2 (ensures_read rfl .started ?_ fun _ => hleft _ rfl)
  refine (ensures_exceptT_bind _ _ s _).2 ((ensures_liftM _ s _).2 ?_)
  refine (ensures_warnEach key.name _ s fun _ => .started).imp ?_
  rintro _ s₁ rfl
  exact hleft _ rfl

end Courses

/-! ## Runs -/

/-- A key that stands for a class has that class reconciled. -/
theorem Cluster.runRefusing_reconcile_of_namesClass (error : String → StoreError)
    (names : List String) {s : Cluster} {key : Key} (h : key.NamesClass s) :
    s.runRefusing error names (reconcile key).run =
      s.runRefusing error names (reconcile (.ofClass key.name)).run := by
  rw [reconcile_ofClass]
  rcases h with hkind | ⟨hkind, hns⟩
  · rw [reconcile, if_pos hkind]
  · have hread : s.perform (.getNamespace key.name) = (.ok none, s) := by rw [perform, hns]
    rw [reconcile, if_neg (by simp [hkind])]
    refine (runRefusing_callOrFail_bind error names rfl hread _).trans ?_
    rw [hkind]
    rfl

/-! ### Runs that are cut -/

namespace Simulation

variable {α : Type}

/-- A run that is not cut is the whole run. -/
theorem runFirst_of_some {s : Simulation} {limit : Nat} {a : Action α} {x : α}
    (h : (s.runFirst limit a).1 = some x) :
    s.runFirst limit a = (some (s.run a).1, (s.run a).2) := by
  induction a generalizing s limit with
  | done a => rfl
  | ask q next ih => cases q with
    | warn w => exact ih () h
    | call c => cases limit with
      | zero => cases h
      | succ limit => exact ih _ h

/-- A run that is cut before its last call has no result. -/
theorem runFirst_eq_none {s : Simulation} {limit : Nat} {a : Action α}
    (h : s.calls.length + limit < (s.run a).2.calls.length) : (s.runFirst limit a).1 = none := by
  induction a generalizing s limit with
  | done a => exact absurd h (by simp [run])
  | ask q next ih => cases q with
    | warn w => exact ih () h
    | call c => cases limit with
      | zero => rfl
      | succ limit =>
        have hcalls : (s.answer c).2.calls.length = s.calls.length + 1 := List.length_append
        have h : s.calls.length + (limit + 1) <
          ((s.answer c).2.run (next (s.answer c).1)).2.calls.length := h
        exact ih (s.answer c).1 (s := (s.answer c).2) (by omega)

variable {error : String → StoreError} {names : List String}

/-- A run that is cut leaves a cluster that one of the calls would have met. -/
theorem runFirst_ensures {s : Simulation} (hs : s.faults = Fault.refusing error names)
    {a : Action α} {asks : Cluster → Effect → Prop} {post : α → Cluster → Prop}
    (h : a.Ensures (FateRule.refusing error names).Answers asks s.cluster post) {limit : Nat}
    (hcut : (s.runFirst limit a).1 = none) :
    (s.runFirst limit a).2.faults = Fault.refusing error names ∧
      ∃ e, asks (s.runFirst limit a).2.cluster e := by
  induction a generalizing s limit with
  | done a => cases hcut
  | ask q next ih => cases q with
    | warn w =>
      exact ih () (s := { s with warnings := s.warnings ++ [w] }) hs (h.2 () s.cluster rfl) hcut
    | call c => cases limit with
      | zero => exact ⟨hs, _, h.1⟩
      | succ limit =>
        obtain ⟨hresult, hcluster, hfaults⟩ := answer_refusing hs c
        refine ih (s.answer c).1 hfaults (h.2 _ _ ⟨_, rfl, ?_⟩) hcut
        exact Prod.ext hresult.symm hcluster.symm

/-- A reconcile that ends with an outcome has gone to its end. -/
theorem reconcile_of_ok {s : Simulation} {key : Key} {cancellation : Cancellation} {o : Outcome}
    (h : (s.reconcile key cancellation).1 = .ok o) :
    s.reconcile key cancellation = s.reconcile key .never := by
  cases cancellation with
  | never => rfl
  | beforeAll => cases h
  | afterFirst calls =>
    simp only [reconcile] at h ⊢
    cases hresult : (s.runFirst calls (ClassReconciler.reconcile key).run).1 with
    | none =>
      rw [hresult] at h
      cases h
    | some r =>
      have hwhole := runFirst_of_some hresult
      obtain rfl := Option.some.inj (hresult.symm.trans (congrArg Prod.fst hwhole))
      rw [hwhole]
      rfl

/-- However a reconcile is cancelled, it has been under way and ends as it may, and it keeps the
faults and the form of the cluster. -/
theorem reconcile_ends {s : Simulation} (hs : s.faults = Fault.refusing error names)
    (hw : s.cluster.WellFormed) (key : Key) (cancellation : Cancellation) :
    let r := s.reconcile key cancellation
    r.2.faults = Fault.refusing error names ∧ r.2.cluster.WellFormed ∧
      s.cluster.Ends names key r.1 r.2.cluster := by
  have hunderway := ensures_underway error names hw key
  have hform := hw.ensures (FateRule.refusing error names)
    (ClassReconciler.reconcile key).run
  have hwhole : (s.reconcile key .never).2.faults = Fault.refusing error names ∧
      (s.reconcile key .never).2.cluster.WellFormed ∧
      s.cluster.Ends names key (s.reconcile key .never).1 (s.reconcile key .never).2.cluster :=
    ⟨(run_refusing hs _).2.2, run_ensures hs hform, run_ensures hs hunderway⟩
  cases cancellation with
  | never => exact hwhole
  | beforeAll => exact ⟨hs, hw, .left rfl .started⟩
  | afterFirst calls =>
    cases hresult : (s.runFirst calls (ClassReconciler.reconcile key).run).1 with
    | none =>
      obtain ⟨hfaults, _, hstage⟩ := runFirst_ensures hs hunderway hresult
      obtain ⟨-, _, hw'⟩ := runFirst_ensures hs hform hresult
      simp only [reconcile, hresult]
      exact ⟨hfaults, hw', .left rfl hstage⟩
    | some r =>
      simp only [reconcile, runFirst_of_some hresult]
      exact hwhole

end Simulation

end ClassReconciler
