import ClassReconciler.Proofs.ObjectWork
import ClassReconciler.Proofs.ReconcileRules
import ClassReconciler.Proofs.Revision

/-!
# What has to be pruned is not forgotten

A recorded resource that its class declares no longer has to be deleted from every namespace
that opted into that. After a reconcile of the class, whatever became of its calls, the object
is absent from the namespace or the resource is still on the record, so that a later reconcile
deletes it (`absent_or_recorded`).

Each function of an update either deletes the object or reports the failure:
`deleteEach_ensures`, `pruneObsolete_ensures`, `updateNamespace_ensures`. `updateEach_ensures`
carries that over all namespaces: no two of them have the same name, so what happens in one
of them does not bring back an object of another one, and what is retained stays retained.
-/

namespace ClassReconciler

/-- The template's object is not there in the namespace. -/
def Cluster.Lacks (s : Cluster) (n : String) (t : Template) : Prop :=
  s.objects.find? (ObjectKey.new t.kind n t.name) = none

theorem Cluster.SameOutside.lacks_iff {p : String → Prop} {s s' : Cluster}
    (h : s.SameOutside p s') {n : String} (hn : ¬p n) (t : Template) :
    s'.Lacks n t ↔ s.Lacks n t := by
  rw [Cluster.Lacks, h.objects _ hn, Cluster.Lacks]

variable {rule : FateRule}

/-! ## Deletions -/

/-- After a deletion the object is absent or the deletion has failed, and no object has come
about. -/
theorem deleteTemplate_ensures (t : Template) (n : String) (s : Cluster) :
    (deleteTemplate t n).Ensures rule.Answers (fun _ _ => True) s fun r s' =>
      (∀ u : Template, s.Lacks n u → s'.Lacks n u) ∧ (s'.Lacks n t ∨ ∃ e, r = .error e) := by
  refine (Dialogue.ensures_bind _ _ s _).2
    ((FateRule.ensures_call _ s _).2 ⟨trivial, fun f _ => ?_⟩)
  have hgone : (s.removeObject (ObjectKey.new t.kind n t.name)).2.Lacks n t :=
    (SortedMap.find?_erase _ _ _).trans (if_pos rfl)
  have hkeeps : ∀ u : Template, s.Lacks n u →
      (s.removeObject (ObjectKey.new t.kind n t.name)).2.Lacks n u := fun u hu => by
    refine (SortedMap.find?_erase _ _ _).trans ?_
    split
    · rfl
    · exact hu
  cases f with
  | served => exact ⟨hkeeps, Or.inl hgone⟩
  | refused e => exact ⟨fun _ => id, Or.inr ⟨e, rfl⟩⟩
  | lost e => exact ⟨hkeeps, Or.inl hgone⟩

/-- After deletions each of the objects is absent or its deletion is said to have failed. -/
theorem deleteEach_ensures (templates : List Template) (n : String) (s : Cluster) :
    (deleteEach templates n).Ensures rule.Answers (fun _ _ => True) s fun results s' =>
      (∀ u : Template, s.Lacks n u → s'.Lacks n u) ∧
        ∀ t ∈ templates, s'.Lacks n t ∨ ∃ e, (t.id, some e) ∈ results := by
  induction templates generalizing s with
  | nil => exact ⟨fun _ => id, fun u hu => (List.not_mem_nil hu).elim⟩
  | cons t rest ih =>
    refine (Dialogue.ensures_bind _ _ s _).2 ((deleteTemplate_ensures t n s).imp ?_)
    rintro r s₁ ⟨hkeeps, hfirst⟩
    refine (Dialogue.ensures_bind _ _ s₁ _).2 ((ih s₁).imp ?_)
    rintro others s₂ ⟨hkeeps', hrest⟩
    refine ⟨fun u hu => hkeeps' u (hkeeps u hu), fun u hu => ?_⟩
    rcases List.mem_cons.1 hu with rfl | hu
    · rcases hfirst with hgone | ⟨e, rfl⟩
      · exact Or.inl (hkeeps' u hgone)
      · exact Or.inr ⟨e, List.mem_cons_self⟩
    · exact (hrest u hu).imp_right fun ⟨e, he⟩ => ⟨e, List.mem_cons_of_mem _ he⟩

/-! ## Pruning -/

/-- After pruning a namespace that opts in, each removed object is absent or its deletion is
reported. -/
theorem pruneObsolete_ensures (ns : Namespace) (removed : List Template) (s : Cluster) :
    (pruneObsolete ns removed).Ensures rule.Answers (fun _ _ => True) s fun report s' =>
      ns.cleanupObsoleteEnabled = true →
        ∀ t ∈ removed, s'.Lacks ns.nameAny t ∨ t.id ∈ report.failed.map Prod.fst := by
  rw [pruneObsolete]
  split
  case isTrue h =>
    intro hopted t ht
    have hnothing : removed = [] := by simpa [hopted] using h
    rw [hnothing] at ht
    exact (List.not_mem_nil ht).elim
  case isFalse =>
    refine (Dialogue.ensures_bind _ _ s _).2 ((deleteEach_ensures removed ns.nameAny s).imp ?_)
    rintro results s' ⟨-, hdeleted⟩ - t ht
    refine (hdeleted t ht).imp_right ?_
    rintro ⟨e, he⟩
    exact List.mem_map.2 ⟨(t.id, e), List.mem_filterMap.2 ⟨_, he, rfl⟩, rfl⟩

theorem updateNamespace_ensures (resources : List Json) {revision : Revision}
    (hprunes : revision.prunes = true) (ns : Namespace) (s : Cluster) :
    (updateNamespace resources revision ns).Ensures rule.Answers (fun _ _ => True) s fun r s' =>
      ns.cleanupObsoleteEnabled = true → ∀ t ∈ revision.templates,
        s'.Lacks ns.nameAny t ∨ t.id ∈ r.2.failed.map Prod.fst := by
  rw [updateNamespace_eq, if_pos hprunes]
  refine (Dialogue.ensures_bind _ _ s _).2 ?_
  refine (Dialogue.Ensures.of_asks_true (applyFrom_asks _ 0 _) s fun _ _ _ => trivial).imp
    fun applied s₁ _ => ?_
  exact (Dialogue.ensures_map _ _ s₁ _).2 (pruneObsolete_ensures ns revision.templates s₁)

/-- What is retained stays retained while namespaces are updated. -/
theorem updateEach_retains (resources : List Json) (revision : Revision) (tally : Tally)
    (namespaces : List Namespace) (s : Cluster) :
    (updateEach resources revision tally namespaces).Ensures rule.Answers (fun _ _ => True) s
      fun tally' _ => ∀ id ∈ tally.retained, id ∈ tally'.retained := by
  induction namespaces generalizing tally s with
  | nil => exact fun _ => id
  | cons ns rest ih =>
    refine (Dialogue.ensures_bind _ _ s _).2 ?_
    refine (Dialogue.Ensures.of_asks_true (updateNamespace_asks resources revision ns) s
      fun _ _ _ => trivial).imp fun r s₁ _ => ?_
    exact (ih (tally.add r.1 r.2) s₁).imp fun tally' _ h id hid =>
      h id (List.mem_append_left _ hid)

/-- After an update of namespaces each removed object is absent from each namespace that opts
in, or its identity is retained. -/
theorem updateEach_ensures (resources : List Json) {revision : Revision}
    (hprunes : revision.prunes = true) (tally : Tally) {namespaces : List Namespace}
    (hnames : namespaces.Pairwise fun ns ns' => ns.nameAny ≠ ns'.nameAny) (s : Cluster) :
    (updateEach resources revision tally namespaces).Ensures rule.Answers (fun _ _ => True) s
      fun tally' s' => ∀ ns ∈ namespaces, ns.cleanupObsoleteEnabled = true →
        ∀ t ∈ revision.templates, s'.Lacks ns.nameAny t ∨ t.id ∈ tally'.retained := by
  induction namespaces generalizing tally s with
  | nil => exact fun ns hns => (List.not_mem_nil hns).elim
  | cons ns rest ih =>
    obtain ⟨hfresh, hrest⟩ := List.pairwise_cons.1 hnames
    -- the updates after that of `ns` do not touch the objects in `ns`
    have hothers : ∀ tally' s₁, (updateEach resources revision tally' rest).Ensures rule.Answers
        (fun _ _ => True) s₁ fun _ s' => ∀ t, s'.Lacks ns.nameAny t ↔ s₁.Lacks ns.nameAny t := by
      intro tally' s₁
      refine (ensures_sameOutside (updateEach_asks resources revision tally' rest) s₁
        fun _ _ _ _ => trivial).imp fun _ s' hsame t => hsame.lacks_iff ?_ t
      rintro ⟨ns', hns', hname⟩
      exact hfresh ns' hns' hname.symm
    refine (Dialogue.ensures_bind _ _ s _).2
      ((updateNamespace_ensures resources hprunes ns s).imp fun r s₁ hr => ?_)
    have hall := (ih (tally.add r.1 r.2) hrest s₁).and
      ((hothers (tally.add r.1 r.2) s₁).and
        (updateEach_retains resources revision (tally.add r.1 r.2) rest s₁))
    refine hall.imp ?_
    rintro tally' s' ⟨hlater, hsame, hretains⟩ ns' hns' hopted t ht
    rcases List.mem_cons.1 hns' with rfl | hns'
    · rcases hr hopted t ht with hgone | hfailed
      · exact Or.inl ((hsame t).2 hgone)
      · exact Or.inr (hretains t.id (List.mem_append_right _ hfailed))
    · exact hlater ns' hns' hopted t ht

/-- Where nothing may be pruned, all removed identities are retained from the start. -/
theorem updateEach_deferred_ensures (rule : FateRule) (resources : List Json) (revision : Revision)
    {namespaces : List Namespace}
    (hnames : namespaces.Pairwise fun ns ns' => ns.nameAny ≠ ns'.nameAny) (s : Cluster) :
    (updateEach resources revision { retained := revision.deferred } namespaces).Ensures
      rule.Answers (fun _ _ => True) s fun tally s' =>
        ∀ ns ∈ namespaces, ns.cleanupObsoleteEnabled = true →
          ∀ t ∈ revision.templates, s'.Lacks ns.nameAny t ∨ t.id ∈ tally.retained := by
  cases hprunes : revision.prunes with
  | true => exact updateEach_ensures resources hprunes _ hnames s
  | false =>
    refine (updateEach_retains resources revision _ namespaces s).imp ?_
    intro tally s' hretains ns _ _ t ht
    exact Or.inr (hretains t.id (Revision.mem_deferred hprunes ht))

/-! ## The record -/

/-- The class is stored and has the raw resource on its record. -/
def Cluster.Records (s : Cluster) (className : String) (raw : Json) : Prop :=
  ∃ c, s.classes.find? className = some c ∧ raw ∈ c.lastApplied

theorem Cluster.StoresClass.records {s s' : Cluster} {name : String} {c c' : NamespaceClass}
    {raw : Json} (h : s.StoresClass s' name c') (hstatus : c'.status = c.status)
    (hraw : raw ∈ c.lastApplied) : s'.Records name raw := by
  refine ⟨c', h.stored, ?_⟩
  rw [NamespaceClass.lastApplied, hstatus]
  exact hraw

/-- The update of a class deletes a removed object from a namespace that opts in, or keeps the
resource on the record. -/
theorem applyClass_ensures (rule : FateRule) {s : Cluster} (hs : s.Named) {c : NamespaceClass}
    (hc : s.classes.find? c.nameAny = some c) (quiet : s.webhooks.find? c.nameAny = none)
    (active : c.isDeleting = false) {t : Template} {raw : Json}
    (hremoved : (t, raw) ∈ (Revision.of c).removed) {ns : Namespace}
    (hns : ns ∈ s.namespacesForClass c.nameAny) (hopted : ns.cleanupObsoleteEnabled = true) :
    (applyClass c).run.Ensures rule.Answers (fun _ _ => True) s fun _ s' =>
      s'.Lacks ns.nameAny t ∨ s'.Records c.nameAny raw := by
  have hraw : raw ∈ c.lastApplied := (Revision.mem_removed.1 hremoved).1
  have hnames := hs.pairwise_namespacesForClass c.nameAny
  refine ensures_applyClass hc active trivial (fun _ _ _ => trivial)
    (fun s₁ c₁ hguards e => ?_) ?_
  · exact Or.inr (hguards.records (hguards.unamended quiet).2 hraw)
  intro s₁ c₁ hguards namespaces revision
  obtain ⟨hspec, hstatus⟩ := hguards.unamended quiet
  have hrevision : revision = Revision.of c := by
    show Revision.of c₁ = Revision.of c
    rw [Revision.of, Revision.of, hspec, NamespaceClass.lastApplied, hstatus]
    rfl
  have ht : t ∈ revision.templates := hrevision ▸ List.mem_map_of_mem hremoved
  have hpruned := updateEach_deferred_ensures rule c₁.spec.resources revision hnames s₁
  have hwork := updateEach_asks c₁.spec.resources revision { retained := revision.deferred }
    namespaces
  refine (hpruned.and (ensures_sameOutside hwork s₁ fun _ _ _ _ => trivial)).imp ?_
  rintro tally s₂ ⟨hsettled, hsame⟩
  have hc₂ : s₂.classes.find? c₁.nameAny = some c₁ := by
    rw [hsame.classes, hguards.nameAny, hguards.stored]
  refine (writeRecord_ensures hc₂ _ trivial).imp ?_
  rintro r s₃ ⟨c₃, hstores₃, -, -, hstatus₃⟩
  rcases hsettled ns hns hopted t ht with hgone | hretained
  · rw [Cluster.Lacks, hstores₃.objects]
    exact Or.inl hgone
  · refine Or.inr ⟨c₃, hguards.nameAny ▸ hstores₃.stored, ?_⟩
    rcases hstatus₃ with hkept | hwritten
    · rw [NamespaceClass.lastApplied, hkept, hstatus]
      exact hraw
    · rw [NamespaceClass.lastApplied, hwritten]
      exact Revision.mem_record (hrevision ▸ hremoved) hretained

/-! ## Runs -/

/-- The cluster after a reconcile whose calls meet the given fates. -/
def Cluster.afterReconcile (s : Cluster) (key : Key) (fates : List Fate) : Cluster :=
  (ScheduledRun.run { cluster := s, fates } (reconcile key).run).2.cluster

/-- After a reconcile of a class, whatever became of its calls, each recorded resource whose
identity no entry of the class has is absent from each namespace that names the class and opts
in, or it is still on the record. -/
theorem absent_or_recorded {s : Cluster} (hs : s.Named) {className : String} {c : NamespaceClass}
    (hc : s.classes.find? className = some c) (active : c.isDeleting = false)
    (quiet : s.webhooks.find? className = none) (fates : List Fate) {raw : Json}
    (hraw : raw ∈ c.lastApplied) {t : Template} (ht : Template.parse raw = .ok t)
    (hunclaimed : ∀ entry ∈ c.spec.resources, TemplateId.of entry ≠ .ok t.id)
    {n : String} {ns : Namespace} (hns : s.namespaces.find? n = some ns)
    (hnames : ns.className? = some className)
    (hopted : ns.metadata.annotationValue? cleanupObsoleteKey = some "true") :
    let after := s.afterReconcile (.ofClass className) fates
    after.objects.find? (ObjectKey.new t.kind n t.name) = none ∨
      ∃ c', after.classes.find? className = some c' ∧ raw ∈ c'.lastApplied := by
  intro after
  obtain rfl := hs.classes hc
  obtain rfl := hs.namespaces hns
  have happly := applyClass_ensures FateRule.any hs hc quiet active
    (Revision.mem_removed.2 ⟨hraw, ht, hunclaimed⟩) (hs.mem_namespacesForClass.2 ⟨hns, hnames⟩)
    (by simp [Namespace.cleanupObsoleteEnabled, Namespace.optsInto, hopted])
  have hrun : (reconcile (.ofClass c.nameAny)).run.Ensures FateRule.any.Answers (fun _ _ => True) s
      fun _ s' => s'.Lacks ns.nameAny t ∨ s'.Records c.nameAny raw := by
    refine reconcileClassNamed_of_stored hc trivial ?_ fun _ => Or.inr ⟨c, hc, hraw⟩
    rw [reconcileClass, active]
    exact happly
  exact (ScheduledRun.run_ensures (r := { cluster := s, fates }) hrun).1

/-- In the small cluster, an object whose deletion is refused stays on the record. -/
theorem absent_or_recorded_sample :
    let fates : List Fate := List.replicate 5 .served ++ [.refused .timeout]
    let after := Cluster.sample.afterReconcile (.ofClass "gold") fates
    ∃ c t ns, Cluster.sample.Named ∧ Cluster.sample.classes.find? "gold" = some c ∧
      c.isDeleting = false ∧ Cluster.sample.webhooks.find? "gold" = none ∧
      Cluster.sampleEntry "stuck" ∈ c.lastApplied ∧
      Template.parse (Cluster.sampleEntry "stuck") = .ok t ∧
      (∀ entry ∈ c.spec.resources, TemplateId.of entry ≠ .ok t.id) ∧
      Cluster.sample.namespaces.find? "team" = some ns ∧ ns.className? = some "gold" ∧
      ns.metadata.annotationValue? cleanupObsoleteKey = some "true" ∧
      (after.objects.find? (ObjectKey.new t.kind "team" t.name) = none ∨
        ∃ c', after.classes.find? "gold" = some c' ∧
          Cluster.sampleEntry "stuck" ∈ c'.lastApplied) := by
  intro fates after
  have hnamed : Cluster.sample.Named := Cluster.reachable_sample.wellFormed.toNamed
  obtain ⟨c, hc, hspec, happlied, active⟩ : ∃ c, Cluster.sample.classes.find? "gold" = some c ∧
      c.spec.resources = [Cluster.sampleEntry "new"] ∧
      c.lastApplied = [Cluster.sampleEntry "old", Cluster.sampleEntry "stuck"] ∧
      c.isDeleting = false := ⟨_, rfl, rfl, rfl, rfl⟩
  obtain ⟨t, ht, hid⟩ : ∃ t, Template.parse (Cluster.sampleEntry "stuck") = .ok t ∧
      t.id = ⟨"v1", "ConfigMap", "stuck"⟩ := ⟨_, rfl, rfl⟩
  obtain ⟨ns, hns, hnames, hopted⟩ : ∃ ns, Cluster.sample.namespaces.find? "team" = some ns ∧
      ns.className? = some "gold" ∧
      ns.metadata.annotationValue? cleanupObsoleteKey = some "true" := ⟨_, rfl, rfl, rfl⟩
  have hraw : Cluster.sampleEntry "stuck" ∈ c.lastApplied := by
    rw [happlied]
    exact List.mem_cons_of_mem _ List.mem_cons_self
  have hunclaimed : ∀ entry ∈ c.spec.resources, TemplateId.of entry ≠ .ok t.id := by
    rw [hspec, hid]
    intro entry hentry h
    rw [List.mem_singleton.1 hentry] at h
    have hname : "new" = "stuck" := congrArg TemplateId.name (Except.ok.inj h)
    exact absurd hname (by decide)
  have quiet : Cluster.sample.webhooks.find? "gold" = none := rfl
  have hafter :=
    absent_or_recorded hnamed hc active quiet fates hraw ht hunclaimed hns hnames hopted
  exact ⟨c, t, ns, hnamed, hc, active, quiet, hraw, ht, hunclaimed, hns, hnames, hopted, hafter⟩

end ClassReconciler
