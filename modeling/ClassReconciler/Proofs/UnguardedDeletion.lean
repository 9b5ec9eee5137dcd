import Mathlib.Data.List.Induction
import ClassReconciler.Proofs.ReconcileEnds

/-!
# Deletion of a class by a user

A user who deletes a class removes it at once if it has no finalizers, and else marks it. Here
reconciles of any keys come one after the other, each to its end and with no call failing, and
deletions of one class come between them. The spec of the class and the namespaces stay.

The reconcile of a namespace applies the class and adds no finalizer to it. If the class is
deleted before its own first reconcile, it disappears with no cleanup and what was applied stays
(`deleted_class_leaves_object`). That is the only way: else nothing is left in a namespace that
opted into cleanup when the class is gone (`empty_of_deleted_class`).

A class is active, or marked and held by a finalizer, or its namespaces are empty for good, or it
was deleted unguarded (`ClassPhase`), and every event leads from one of these to one of these
(`ClassPhase.reconcile`, `ClassPhase.deletion`).
-/

namespace ClassReconciler

/-! ## Events -/

/-- A key is reconciled, or a user deletes the class that is followed. -/
inductive ClassEvent where
  | reconcile (key : Key)
  | deletion

namespace Cluster

/-- The cluster after the reconcile of a key in which no call fails. -/
def reconciled (s : Cluster) (key : Key) : Cluster :=
  (({ cluster := s } : Simulation).reconcile key .never).2.cluster

/-- A user deletes a class. It disappears at once if it has no finalizers, else it is marked. -/
def deletedByUser (s : Cluster) (name : String) : Cluster :=
  match s.classes.find? name with
  | none => s
  | some c =>
    if c.finalizers = [] then (s.deleteClass name).2 else (s.markDeleted name).getD s

def occur (name : String) (s : Cluster) : ClassEvent → Cluster
  | .reconcile key => s.reconciled key
  | .deletion => s.deletedByUser name

def afterEvents (s : Cluster) (name : String) (events : List ClassEvent) : Cluster :=
  events.foldl (occur name) s

theorem afterEvents_append_singleton (s : Cluster) (name : String) (events : List ClassEvent)
    (event : ClassEvent) :
    s.afterEvents name (events ++ [event]) = (s.afterEvents name events).occur name event :=
  List.foldl_concat ..

end Cluster

/-- The reconcile of the key is that of the class of a name. -/
def Key.StandsFor (key : Key) (s : Cluster) (name : String) : Prop :=
  key.NamesClass s ∧ key.name = name

/-! ## Deletions -/

namespace Cluster

variable {s : Cluster} {name : String}

theorem deletedByUser_of_missing (h : s.classes.find? name = none) : s.deletedByUser name = s := by
  rw [deletedByUser, h]

/-- A class that a user deletes is gone if it had no finalizers, and else it is marked. -/
theorem find?_deletedByUser {c : NamespaceClass} (hc : s.classes.find? name = some c) :
    (c.finalizers = [] ∧ (s.deletedByUser name).classes.find? name = none) ∨
      c.finalizers ≠ [] ∧ ∃ c', (s.deletedByUser name).classes.find? name = some c' ∧
        c'.isDeleting = true ∧ c'.finalizers = c.finalizers ∧ c'.spec = c.spec := by
  simp only [deletedByUser, hc]
  by_cases hnone : c.finalizers = []
  · rw [if_pos hnone]
    exact Or.inl ⟨hnone, (SortedMap.find?_erase _ _ _).trans (if_pos rfl)⟩
  · rw [if_neg hnone, markDeleted_of_stored hc, Option.getD_some]
    exact Or.inr ⟨hnone, _, (SortedMap.find?_insert _ _ _ _).trans (if_pos rfl), rfl, rfl, rfl⟩

/-- A deletion is no more than a write of the class. -/
theorem deletedByUser_keeps (s : Cluster) (name : String) :
    (s.deletedByUser name).namespaces = s.namespaces ∧
      (s.deletedByUser name).objects = s.objects := by
  cases hc : s.classes.find? name with
  | none => simp only [deletedByUser_of_missing hc, and_self]
  | some c =>
    simp only [deletedByUser, hc]
    split
    · exact ⟨rfl, rfl⟩
    · rw [markDeleted_of_stored hc]
      exact ⟨rfl, rfl⟩

theorem WellFormed.deletedByUser (hs : s.WellFormed) (name : String) :
    (s.deletedByUser name).WellFormed := by
  cases hc : s.classes.find? name with
  | none => rwa [deletedByUser_of_missing hc]
  | some c =>
    have hmarked := markDeleted_of_stored hc
    simp only [Cluster.deletedByUser, hc]
    split
    · exact hs.deleteClass name
    · rw [hmarked]
      exact hs.markDeleted hmarked

end Cluster

/-! ## Reconciles -/

/-- The reconcile of a key that stands for no class writes no class. -/
theorem reconcile_classes {rule : FateRule} {s : Cluster} {key : Key} (h : ¬key.NamesClass s) :
    (reconcile key).run.Ensures rule.Answers (fun _ _ => True) s
      fun _ s' => s'.classes = s.classes :=
  ensures_reconcile trivial (fun ns _ _ => reconcileNamespace_classes ns s)
    (fun hkey => absurd hkey h) rfl fun _ => rfl

namespace Cluster

variable {s : Cluster} {key : Key} {name : String} {c : NamespaceClass}

theorem reconciled_ends (hs : s.WellFormed) (key : Key) :
    (s.reconciled key).WellFormed ∧ ∃ r, s.Ends [] key r (s.reconciled key) := by
  obtain ⟨-, hs', hends⟩ := Simulation.reconcile_ends_of_faultless (s := { cluster := s }) rfl hs
    key .never
  exact ⟨hs', _, hends⟩

/-- It is the run on a store that refuses no name. -/
theorem reconciled_eq (s : Cluster) (key : Key) :
    s.reconciled key = (s.runRefusing (fun _ => .timeout) [] (reconcile key).run).2 :=
  (Simulation.run_refusing (s := { cluster := s }) rfl (reconcile key).run).2.1

/-- The cluster of a simulation in which no call fails is reconciled. -/
theorem reconciled_of_faultless {s : Simulation} (hfaults : s.faults = []) (key : Key) :
    (s.reconcile key .never).2.cluster = s.cluster.reconciled key := by
  have hrefusing : s.faults = Fault.refusing (fun _ => .timeout) [] := hfaults
  rw [reconciled_eq]
  exact (Simulation.run_refusing hrefusing (ClassReconciler.reconcile key).run).2.1

/-- Only its own reconcile writes a class. -/
theorem find?_reconciled (hs : s.WellFormed) (h : ¬key.StandsFor s name) :
    (s.reconciled key).classes.find? name = s.classes.find? name := by
  by_cases hname : name = key.name
  · have hkey : ¬key.NamesClass s := fun hkey => h ⟨hkey, hname.symm⟩
    have hclasses := runRefusing_ensures (fun _ => .timeout) [] (reconcile_classes hkey)
    rw [reconciled_eq, hclasses]
  · obtain ⟨-, _, hends⟩ := reconciled_ends hs key
    exact hends.find?_classes_of_ne hname

/-- The reconcile of a key that stands for a class is the one by the class's own key. -/
theorem reconciled_of_standsFor (h : key.StandsFor s name) :
    s.reconciled key =
      (s.runRefusing (fun _ => .timeout) [] (reconcile (.ofClass name)).run).2 := by
  obtain ⟨hkey, rfl⟩ := h
  rw [reconciled_eq, runRefusing_reconcile_of_namesClass _ _ hkey]

/-- A class that is not being deleted stays so and keeps its spec. It holds the finalizer after
its own reconcile, and from then on. -/
theorem reconciled_active (hs : s.WellFormed) (hc : s.classes.find? name = some c)
    (active : c.isDeleting = false) (key : Key) :
    ∃ c', (s.reconciled key).classes.find? name = some c' ∧ c'.isDeleting = false ∧
      c'.spec = c.spec ∧
      (c.hasFinalizer = true ∨ key.StandsFor s name → c'.hasFinalizer = true) := by
  obtain ⟨-, r, hends⟩ := reconciled_ends hs key
  obtain ⟨c', hc', hactive, hspec, -⟩ := hends.active hs hc active
  refine ⟨c', hc', hactive, hspec, ?_⟩
  rintro (held | hkey)
  · -- only the cleanup after a class removes the finalizer, and this class is not being deleted
    have hkept := runRefusing_ensures (fun _ => .timeout) [] (FateRule.ensures_of_imp
      (reconcile_keepsFinalizers hs.toNamed key) fun _ _ => FateRule.effectless_of_refusing)
    rw [← reconciled_eq] at hkept
    rcases hkept name c hc with ⟨c₁, hc₁, hsame | ⟨hnone, -⟩⟩ | ⟨-, deleting, -⟩
    · obtain rfl := Option.some.inj (hc'.symm.trans hc₁)
      rwa [NamespaceClass.hasFinalizer, hsame]
    · rw [held] at hnone
      cases hnone
    · rw [active] at deleting
      cases deleting
  · -- its own reconcile is the update, after which the class is guarded
    obtain ⟨s', hrun, hcontents⟩ := runRefusing_reconcile_active (fun _ => .timeout) [] hs hc active
    have hs' : s.reconciled key = s' :=
      (reconciled_of_standsFor hkey).trans (congrArg Prod.snd hrun)
    obtain ⟨c₁, hc₁, hstored⟩ := find?_of_updateContents hcontents
    rw [hs.classes hc, ← hs', hc'] at hc₁
    obtain rfl := Option.some.inj hc₁
    have hfinalizers := congrArg NamespaceClass.hasFinalizer hstored
    exact hfinalizers.trans (c.hasFinalizer_updated [] _)

/-- The reconcile of a class that is being deleted and does not hold the finalizer does nothing. -/
theorem reconciled_of_not_hasFinalizer (hkey : key.StandsFor s name)
    (hc : s.classes.find? name = some c) (deleting : c.isDeleting = true)
    (hnone : c.hasFinalizer = false) : s.reconciled key = s := by
  rw [reconciled_of_standsFor hkey, runRefusing_reconcile_ofClass _ _ hc, reconcileClass, deleting,
    hnone]
  rfl

/-- The reconcile of a class that is being deleted and holds the finalizer cleans up after it. -/
theorem find?_reconciled_of_hasFinalizer (hs : s.WellFormed) (hkey : key.StandsFor s name)
    (hc : s.classes.find? name = some c) (deleting : c.isDeleting = true)
    (held : c.hasFinalizer = true) (k : ObjectKey) : (s.reconciled key).objects.find? k =
      if c.CleansUp [] (s.namespacesForClass name) k then none else s.objects.find? k := by
  obtain rfl := hs.classes hc
  obtain ⟨hobjects, -⟩ := runRefusing_reconcile_deleting (fun _ => .timeout) [] hs hc deleting held
  rw [reconciled_of_standsFor hkey, hobjects, find?_foldl_cleanObjects]

end Cluster

/-! ## Objects in a namespace -/

namespace Cluster

/-- Every object in the namespace is at the key of a template of the class. -/
def HoldsOnly (s : Cluster) (n : String) (c : NamespaceClass) : Prop :=
  ∀ k, k.namespaceName = n → s.objects.find? k ≠ none →
    ∃ t ∈ Template.parseAll c.spec.resources, k = ObjectKey.new t.kind n t.name

def IsEmptyIn (s : Cluster) (n : String) : Prop :=
  ∀ k, k.namespaceName = n → s.objects.find? k = none

variable {s : Cluster} (hs : s.WellFormed) {name : String} {ns : Namespace}
  (hns : ns ∈ s.namespacesForClass name) {c : NamespaceClass} (key : Key)

include hs hns

/-- A reconcile brings objects of the class only. -/
theorem HoldsOnly.reconciled (h : s.HoldsOnly ns.nameAny c) (hc : s.classes.find? name = some c)
    {c' : NamespaceClass} (hspec : c'.spec = c.spec) :
    (s.reconciled key).HoldsOnly ns.nameAny c' := by
  intro k hk hfound
  obtain ⟨-, _, hends⟩ := reconciled_ends hs key
  obtain ⟨o, ho⟩ := Option.ne_none_iff_exists'.1 hfound
  rw [hspec]
  rcases hends.find?_objects hs.toNamed hns hk ho with hbefore | ⟨-, c₁, hc₁, -, t, ht, hmade⟩
  · exact h k hk (hbefore ▸ nofun)
  · obtain rfl := Option.some.inj (hc.symm.trans hc₁)
    exact ⟨t, ht, hmade.key⟩

/-- Of a class that is missing or being deleted, a reconcile brings no object. -/
theorem find?_of_reconciled (deleting : ∀ c, s.classes.find? name = some c → c.isDeleting = true)
    {k : ObjectKey} (hk : k.namespaceName = ns.nameAny)
    (hfound : (s.reconciled key).objects.find? k ≠ none) : s.objects.find? k ≠ none := by
  obtain ⟨-, _, hends⟩ := reconciled_ends hs key
  obtain ⟨o, ho⟩ := Option.ne_none_iff_exists'.1 hfound
  rcases hends.find?_objects hs.toNamed hns hk ho with hbefore | ⟨-, c₁, hc₁, active, -⟩
  · exact hbefore ▸ nofun
  · rw [deleting c₁ hc₁] at active
    cases active

theorem IsEmptyIn.reconciled (h : s.IsEmptyIn ns.nameAny)
    (deleting : ∀ c, s.classes.find? name = some c → c.isDeleting = true) :
    (s.reconciled key).IsEmptyIn ns.nameAny := by
  intro k hk
  by_contra hfound
  exact find?_of_reconciled hs hns key deleting hk hfound (h k hk)

/-- Where the namespace opts into cleanup, nothing is left in it after the cleanup of the class. -/
theorem HoldsOnly.isEmptyIn_of_cleanup {key : Key} (h : s.HoldsOnly ns.nameAny c)
    (hopted : ns.cleanupEnabled = true) (hkey : key.StandsFor s name)
    (hc : s.classes.find? name = some c) (deleting : c.isDeleting = true)
    (held : c.hasFinalizer = true) : (s.reconciled key).IsEmptyIn ns.nameAny := by
  intro k hk
  rw [find?_reconciled_of_hasFinalizer hs hkey hc deleting held]
  by_cases hfound : s.objects.find? k = none
  · simp [hfound]
  · obtain ⟨t, ht, rfl⟩ := h k hk hfound
    obtain ⟨u, hu, hsame⟩ := exists_declaredTemplate (mem_parseAll_of_declared ht) ns.nameAny
    rw [declaredTemplates_eq] at hu
    exact if_pos ⟨ns, hns, hopted, u, hu, List.not_mem_nil, hsame.symm⟩

end Cluster

/-! ## Phases -/

/-- The deletion of a class that has no finalizers, where no reconcile of it has come before. -/
def Cluster.DeletedUnguarded (start : Cluster) (name : String) (events : List ClassEvent) : Prop :=
  ∃ before later c, events = before ++ .deletion :: later ∧
    (start.afterEvents name before).classes.find? name = some c ∧ c.finalizers = [] ∧
    ∀ key, .reconcile key ∈ before → ¬key.StandsFor start name

theorem Cluster.DeletedUnguarded.append {start : Cluster} {name : String}
    {events : List ClassEvent} (h : start.DeletedUnguarded name events)
    (more : List ClassEvent) : start.DeletedUnguarded name (events ++ more) := by
  obtain ⟨before, later, c, rfl, hrest⟩ := h
  exact ⟨before, later ++ more, c, by simp, hrest⟩

/-- How far a class has come after some events, and what of it is in a namespace. -/
inductive ClassPhase (start : Cluster) (name n : String) (past : List ClassEvent) (s : Cluster) :
    Prop where
  /-- The class is not being deleted. It holds the finalizer since its first reconcile. -/
  | active {c : NamespaceClass} : s.classes.find? name = some c → c.isDeleting = false →
    s.HoldsOnly n c →
    ((∀ key, .reconcile key ∈ past → ¬key.StandsFor start name) ∨ c.hasFinalizer = true) →
    ClassPhase start name n past s
  /-- The class is being deleted and is held by a finalizer. -/
  | marked {c : NamespaceClass} : s.classes.find? name = some c → c.isDeleting = true →
    c.finalizers ≠ [] → s.HoldsOnly n c → ClassPhase start name n past s
  /-- The class is gone or is being deleted, and the namespace is empty. -/
  | clean : (∀ c, s.classes.find? name = some c → c.isDeleting = true) → s.IsEmptyIn n →
    ClassPhase start name n past s
  | unguarded : start.DeletedUnguarded name past → ClassPhase start name n past s

namespace ClassPhase

variable {start s : Cluster} {name : String} {past : List ClassEvent}

theorem start_phase {n : String} (h : s.IsEmptyIn n) : ClassPhase s name n [] s := by
  cases hc : s.classes.find? name with
  | none => exact .clean (fun c hc' => absurd (hc.symm.trans hc') nofun) h
  | some c =>
    cases hdeleting : c.isDeleting with
    | false =>
      refine .active hc hdeleting (fun k hk hfound => absurd (h k hk) hfound) (Or.inl ?_)
      exact fun _ hmem => absurd hmem List.not_mem_nil
    | true =>
      refine .clean (fun c' hc' => ?_) h
      obtain rfl := Option.some.inj (hc.symm.trans hc')
      exact hdeleting

theorem deletion {n : String} (h : ClassPhase start name n past s)
    (hpast : s = start.afterEvents name past) :
    ClassPhase start name n (past ++ [.deletion]) (s.deletedByUser name) := by
  obtain ⟨-, hobjects⟩ := s.deletedByUser_keeps name
  cases h with
  | @active c hc _ hholds hguarded =>
    rcases s.find?_deletedByUser hc with ⟨hnone, -⟩ | ⟨hheld, c', hc', deleting, hsame, hspec⟩
    · -- a class that has been reconciled would hold the finalizer
      have hunguarded : ∀ key, .reconcile key ∈ past → ¬key.StandsFor start name := by
        refine hguarded.resolve_right fun held => ?_
        rw [NamespaceClass.hasFinalizer, hnone] at held
        cases held
      exact .unguarded ⟨past, [], c, rfl, hpast ▸ hc, hnone, hunguarded⟩
    · refine .marked hc' deleting (hsame ▸ hheld) ?_
      rwa [Cluster.HoldsOnly, hobjects, hspec]
  | @marked c hc _ hheld hholds =>
    rcases s.find?_deletedByUser hc with ⟨hnone, -⟩ | ⟨-, c', hc', deleting, hsame, hspec⟩
    · exact absurd hnone hheld
    · refine .marked hc' deleting (hsame ▸ hheld) ?_
      rwa [Cluster.HoldsOnly, hobjects, hspec]
  | clean deleting hempty =>
    refine .clean (fun c' hc' => ?_) (by rwa [Cluster.IsEmptyIn, hobjects])
    cases hc : s.classes.find? name with
    | none =>
      rw [Cluster.deletedByUser_of_missing hc] at hc'
      exact deleting c' hc'
    | some c =>
      rcases s.find?_deletedByUser hc with ⟨-, hgone⟩ | ⟨-, c₁, hc₁, hdeleting, -⟩
      · exact absurd (hgone.symm.trans hc') (Option.some_ne_none _).symm
      · obtain rfl := Option.some.inj (hc₁.symm.trans hc')
        exact hdeleting
  | unguarded h => exact .unguarded (h.append _)

theorem reconcile {ns : Namespace} (h : ClassPhase start name ns.nameAny past s)
    (hs : s.WellFormed) (hnamespaces : s.namespaces = start.namespaces)
    (hns : ns ∈ s.namespacesForClass name) (hopted : ns.cleanupEnabled = true) (key : Key) :
    ClassPhase start name ns.nameAny (past ++ [.reconcile key]) (s.reconciled key) := by
  obtain ⟨-, _, hends⟩ := Cluster.reconciled_ends hs key
  cases h with
  | @active c hc active hholds hguarded =>
    obtain ⟨c', hc', active', hspec, hguard⟩ := Cluster.reconciled_active hs hc active key
    refine .active hc' active' (hholds.reconciled hs hns key hc hspec) ?_
    by_cases hkey : key.StandsFor s name
    · exact Or.inr (hguard (Or.inr hkey))
    refine hguarded.imp (fun hnone key' hmem => ?_) fun held => hguard (Or.inl held)
    rcases List.mem_append.1 hmem with hmem | hmem
    · exact hnone key' hmem
    · obtain ⟨rfl⟩ := List.mem_singleton.1 hmem
      rwa [Key.StandsFor, Key.NamesClass, ← hnamespaces]
  | @marked c hc deleting hheld hholds =>
    have hdeleting : ∀ c₁, s.classes.find? name = some c₁ → c₁.isDeleting = true :=
      fun c₁ hc₁ => Option.some.inj (hc.symm.trans hc₁) ▸ deleting
    -- a reconcile of the class cleans up, unless it is held by the finalizers of others only
    by_cases hkey : key.StandsFor s name
    · cases held : c.hasFinalizer with
      | true =>
        refine .clean (fun _ hc' => hends.deleting hs hdeleting hc') ?_
        exact hholds.isEmptyIn_of_cleanup hs hns hopted hkey hc deleting held
      | false =>
        rw [Cluster.reconciled_of_not_hasFinalizer hkey hc deleting held]
        exact .marked hc deleting hheld hholds
    · exact .marked ((Cluster.find?_reconciled hs hkey).trans hc) deleting hheld
        (hholds.reconciled hs hns key hc rfl)
  | clean deleting hempty =>
    refine .clean (fun _ hc' => hends.deleting hs deleting hc') ?_
    exact hempty.reconciled hs hns key deleting
  | unguarded h => exact .unguarded (h.append _)

end ClassPhase

/-! ## Runs -/

/-- After any events the class is in one of the phases. -/
theorem Cluster.WellFormed.classPhase {s : Cluster} (hs : s.WellFormed) {name : String}
    {ns : Namespace} (hns : ns ∈ s.namespacesForClass name) (hopted : ns.cleanupEnabled = true)
    (hempty : s.IsEmptyIn ns.nameAny) (events : List ClassEvent) :
    (s.afterEvents name events).WellFormed ∧
      (s.afterEvents name events).namespaces = s.namespaces ∧
      ClassPhase s name ns.nameAny events (s.afterEvents name events) := by
  induction events using List.reverseRecOn with
  | nil => exact ⟨hs, rfl, .start_phase hempty⟩
  | append_singleton past event ih =>
    obtain ⟨hpast, hnamespaces, hphase⟩ := ih
    rw [Cluster.afterEvents_append_singleton]
    cases event with
    | reconcile key =>
      have hns' : ns ∈ (s.afterEvents name past).namespacesForClass name := by
        rwa [Cluster.namespacesForClass, hnamespaces]
      obtain ⟨hafter, _, hends⟩ := Cluster.reconciled_ends hpast key
      exact ⟨hafter, hends.namespaces.trans hnamespaces,
        hphase.reconcile hpast hnamespaces hns' hopted key⟩
    | deletion =>
      exact ⟨hpast.deletedByUser name,
        ((s.afterEvents name past).deletedByUser_keeps name).1.trans hnamespaces,
        hphase.deletion rfl⟩

/-- Reconciles of any keys come one after the other with no call failing, and users delete a class.
When the class is gone, nothing is left in a namespace of the class that opted into cleanup and was
empty at the start, unless a user deleted the class when it had no finalizers and no reconcile of
it had come before. -/
theorem empty_of_deleted_class {s : Cluster} (hs : s.Reachable) {name : String} {ns : Namespace}
    (hns : ns ∈ s.namespacesForClass name) (hopted : ns.cleanupEnabled = true)
    (hempty : s.IsEmptyIn ns.nameAny) (events : List ClassEvent)
    (hgone : (s.afterEvents name events).classes.find? name = none) :
    (s.afterEvents name events).IsEmptyIn ns.nameAny ∨ s.DeletedUnguarded name events := by
  obtain ⟨-, -, hphase⟩ := hs.wellFormed.classPhase hns hopted hempty events
  cases hphase with
  | active hc => exact absurd (hc.symm.trans hgone) nofun
  | marked hc => exact absurd (hc.symm.trans hgone) nofun
  | clean _ hclean => exact Or.inl hclean
  | unguarded h => exact Or.inr h

/-! ## A class that is deleted too early -/

/-- One namespace that opts into cleanup and names a class without finalizers, of which nothing
has been applied. -/
def Cluster.unguarded : Cluster :=
  let ns : Namespace := { metadata := {
    name := some "team"
    labels := some (.ofList [(classLabel, "gold")])
    annotations := some (.ofList [(cleanupKey, "true")]) } }
  (({} : Cluster).putNamespace ns).putClass
    { metadata := { name := some "gold" }, spec := ⟨[sampleEntry "new"]⟩ }

namespace Cluster

theorem reachable_unguarded : unguarded.Reachable := (Reachable.empty.putNamespace _).putClass _

theorem isEmptyIn_unguarded (n : String) : unguarded.IsEmptyIn n := fun _ _ => rfl

theorem unguarded_namespace : ∃ ns, unguarded.namespacesForClass "gold" = [ns] ∧
    ns.cleanupEnabled = true ∧ ns.nameAny = "team" := ⟨_, rfl, rfl, rfl⟩

end Cluster

/-- The class is reconciled before it is deleted, and cleaned up after. -/
theorem empty_of_deleted_class_sample :
    let events : List ClassEvent := [.reconcile (.ofClass "gold"),
      .reconcile (.ofNamespace "team"), .deletion, .reconcile (.ofClass "gold")]
    let after := Cluster.unguarded.afterEvents "gold" events
    Cluster.unguarded.Reachable ∧ ∃ ns ∈ Cluster.unguarded.namespacesForClass "gold",
      ns.cleanupEnabled = true ∧ Cluster.unguarded.IsEmptyIn ns.nameAny ∧
      after.classes.find? "gold" = none ∧ after.IsEmptyIn ns.nameAny := by
  intro events after
  obtain ⟨ns, hlisted, hopted, -⟩ := Cluster.unguarded_namespace
  have hns : ns ∈ Cluster.unguarded.namespacesForClass "gold" :=
    hlisted ▸ List.mem_singleton_self ns
  have hempty := Cluster.isEmptyIn_unguarded ns.nameAny
  have hgone : after.classes.find? "gold" = none := by decide +kernel
  refine ⟨Cluster.reachable_unguarded, ns, hns, hopted, hempty, hgone, ?_⟩
  refine (empty_of_deleted_class Cluster.reachable_unguarded hns hopted hempty events
    hgone).resolve_right ?_
  -- the first event is a reconcile of the class
  rintro ⟨before, later, c, hevents, -, -, hnone⟩
  cases before with
  | nil => exact absurd (List.cons_eq_cons.1 hevents).1 nofun
  | cons event rest =>
    obtain ⟨rfl, -⟩ := List.cons_eq_cons.1 hevents
    exact hnone _ List.mem_cons_self ⟨Or.inl rfl, rfl⟩

/-- So an object can stay when the class is gone: a namespace is reconciled, and then the class is
deleted, which has no finalizer yet. -/
theorem deleted_class_leaves_object :
    ¬∀ (s : Cluster) (name : String) (c : NamespaceClass) (before after : List Key), s.Reachable →
      s.classes.find? name = some c → c.isDeleting = false →
      (∀ raw ∈ c.spec.resources, ∃ t, Template.parse raw = .ok t) →
      (∀ key ∈ before ++ after, key = .ofClass name ∨
        ∃ ns ∈ s.namespacesForClass name, key = .ofNamespace ns.nameAny) →
      (∀ ns ∈ s.namespacesForClass name, ns.cleanupEnabled = true ∧ s.IsEmptyIn ns.nameAny) →
      let s' := s.afterEvents name
        (before.map .reconcile ++ .deletion :: after.map .reconcile)
      s'.classes.find? name = none → ∀ ns ∈ s.namespacesForClass name,
        ∀ t ∈ Template.parseAll c.spec.resources,
          s'.objects.find? (ObjectKey.new t.kind ns.nameAny t.name) = none := by
  intro hclaim
  obtain ⟨ns, hlisted, hopted, hname⟩ := Cluster.unguarded_namespace
  obtain ⟨t, hparse, hkey⟩ := Template.exists_parse_sampleEntry
  obtain ⟨c, hc, active, hspec⟩ : ∃ c, Cluster.unguarded.classes.find? "gold" = some c ∧
      c.isDeleting = false ∧ c.spec.resources = [Cluster.sampleEntry "new"] := ⟨_, rfl, rfl, rfl⟩
  have hns : ns ∈ Cluster.unguarded.namespacesForClass "gold" :=
    hlisted ▸ List.mem_singleton_self ns
  let s' := Cluster.unguarded.afterEvents "gold" [.reconcile (.ofNamespace "team"), .deletion]
  obtain ⟨hgone, hkeys⟩ : s'.classes.find? "gold" = none ∧
      s'.objects.keys = [Cluster.sampleKey "new"] := by decide +kernel
  have hfound : s'.objects.find? (ObjectKey.new t.kind ns.nameAny t.name) ≠ none := by
    rw [hname, hkey, Option.ne_none_iff_isSome, ← SortedMap.mem_keys_iff, hkeys]
    exact List.mem_singleton_self _
  have hnone := hclaim Cluster.unguarded "gold" c [.ofNamespace "team"] []
    Cluster.reachable_unguarded hc active
    (by rw [hspec]; exact fun raw hraw => ⟨t, List.mem_singleton.1 hraw ▸ hparse⟩)
    (fun key hmem => Or.inr ⟨ns, hns, by rw [hname, List.mem_singleton.1 hmem]⟩)
    (fun ns' hns' => by
      obtain rfl := List.mem_singleton.1 (hlisted ▸ hns')
      exact ⟨hopted, Cluster.isEmptyIn_unguarded _⟩)
    hgone ns hns t (hspec ▸ Template.mem_parseAll.2 ⟨_, List.mem_singleton_self _, hparse⟩)
  exact hfound hnone

end ClassReconciler
