import ClassReconciler.Proofs.ReconcileEnds

/-!
# Histories of a class

A history of a class is a sequence of edits of its resources and of reconciles of any keys, each
of which runs to its end or is cut, while no call fails. A revision of the class is an `Epoch`,
which says how far the reconciles came while it stood. The record is written at the end of the
reconcile of the class only, so that it can miss an identity of which there are objects
(`Epoch.Loses`): they are written under a revision that is replaced before it is recorded, or a
revision is recorded in which the entry of that identity is no template.

`History.Tracks` is what every operation keeps (`History.Tracks.step`), and so every history
(`History.Tracks.run`): in the namespaces that have obsolete objects deleted, an object is one
from the start, or its identity is on record, or it was lost.
-/

namespace ClassReconciler

/-! ## Histories -/

/-- The resources that a class declares, if it is stored. -/
def Cluster.declared (s : Cluster) (className : String) : List Json :=
  ((s.classes.find? className).map (·.spec.resources)).getD []

/-- The record of a class, if it is stored. -/
def Cluster.record (s : Cluster) (className : String) : List Json :=
  ((s.classes.find? className).map (·.lastApplied)).getD []

inductive Operation where
  | edit (resources : List Json)
  | reconcile (key : Key) (cancellation : Simulation.Cancellation)

/-- How far a revision has come: nothing is applied of it, or some of it may be, or all of it is
applied and recorded. -/
inductive Stage where
  | declared
  | begun
  | recorded
deriving DecidableEq

/-- What a reconcile makes of the stage of a revision. -/
def Stage.next (stage : Stage) (applied concerned : Bool) : Stage :=
  if applied then .recorded
  else if concerned ∧ stage = .declared then .begun
  else stage

/-- A revision of a class while it stands. -/
structure Epoch where
  resources : List Json
  stage : Stage

/-- A simulation with the revisions of a class, the past ones latest first. -/
structure History where
  simulation : Simulation
  current : Epoch
  past : List Epoch

namespace History

def epochs (h : History) : List Epoch := h.current :: h.past

def start (className : String) (s : Simulation) : History where
  simulation := s
  current := ⟨s.cluster.declared className, .declared⟩
  past := []

def step (className : String) (h : History) : Operation → History
  | .edit resources =>
    match h.simulation.cluster.setResources className resources with
    | none => h
    | some cluster => ⟨{ h.simulation with cluster }, ⟨resources, .declared⟩, h.epochs⟩
  | .reconcile key cancellation =>
    let r := h.simulation.reconcile key cancellation
    let stage := h.current.stage.next (r.1.isApplied && key.name == className)
      (key.concerns h.simulation.cluster className)
    { h with simulation := r.2, current := { h.current with stage } }

def run (className : String) (h : History) (operations : List Operation) : History :=
  operations.foldl (step className) h

end History

/-! ## Lost identities -/

/-- The revision that was recorded last, or the record from the start. -/
def lastRecorded (record : List Json) : List Epoch → List Json
  | [] => record
  | e :: older => if e.stage = .recorded then e.resources else lastRecorded record older

/-- The revision loses an identity: it is not recorded although objects of the identity may have
been written, or it is recorded with an entry that claims the identity and is no template. -/
def Epoch.Loses (e : Epoch) (record : List Json) (older : List Epoch) (id : TemplateId) : Prop :=
  match e.stage with
  | .declared => False
  | .begun => id ∈ Template.ids e.resources ∧ id ∉ Template.ids (lastRecorded record older)
  | .recorded => id ∈ Revision.claimedIds e.resources ∧ id ∉ Template.ids e.resources

/-- A revision has lost the identity, and no revision that was recorded since has it again. -/
def Lost (record : List Json) (id : TemplateId) : List Epoch → Prop
  | [] => False
  | e :: older => e.Loses record older id ∨
    Lost record id older ∧ (e.stage = .recorded → id ∉ Template.ids e.resources)

theorem exists_loses_of_lost {record : List Json} {id : TemplateId} {epochs : List Epoch}
    (h : Lost record id epochs) : ∃ later e older, epochs = later ++ e :: older ∧
      e.Loses record older id ∧
        ∀ e' ∈ later, e'.stage = .recorded → id ∉ Template.ids e'.resources := by
  induction epochs with
  | nil => exact h.elim
  | cons e older ih =>
    rcases h with hloses | ⟨hlost, hmissing⟩
    · exact ⟨[], e, older, rfl, hloses, fun e' he => absurd he List.not_mem_nil⟩
    · obtain ⟨later, e', older', rfl, hloses, hlater⟩ := ih hlost
      refine ⟨e :: later, e', older', rfl, hloses, fun e'' he => ?_⟩
      rcases List.mem_cons.1 he with rfl | he
      · exact hmissing
      · exact hlater e'' he

section Next

variable {record : List Json} {e : Epoch} {past : List Epoch} {id : TemplateId}

theorem Stage.next_eq_recorded {stage : Stage} {concerned : Bool} :
    stage.next false concerned = .recorded ↔ stage = .recorded := by
  cases stage <;> cases concerned <;> simp [Stage.next]

theorem Stage.next_of_concerned {stage : Stage} (h : stage ≠ .recorded) :
    stage.next false true = .begun := by
  cases stage <;> simp_all [Stage.next]

/-- A reconcile that does not record the revision leaves the last recorded one. -/
theorem lastRecorded_next (concerned : Bool) :
    lastRecorded record ({ e with stage := e.stage.next false concerned } :: past) =
      lastRecorded record (e :: past) := by
  simp only [lastRecorded, Stage.next_eq_recorded]

/-- What was lost stays lost while the revision is not recorded. -/
theorem Lost.next (h : Lost record id (e :: past)) (concerned : Bool) :
    Lost record id ({ e with stage := e.stage.next false concerned } :: past) := by
  rcases h with hloses | ⟨hlost, hmissing⟩
  · refine Or.inl ?_
    cases hstage : e.stage with
    | declared => simp [Epoch.Loses, hstage] at hloses
    | begun => simpa [Epoch.Loses, hstage, Stage.next] using hloses
    | recorded => simpa [Epoch.Loses, hstage, Stage.next] using hloses
  · exact Or.inr ⟨hlost, fun h => hmissing (Stage.next_eq_recorded.1 h)⟩

/-- Once the revision is recorded, what was lost stays lost unless the revision has it. -/
theorem Lost.recorded (h : Lost record id (e :: past))
    (hmissing : id ∉ Template.ids e.resources) :
    Lost record id (⟨e.resources, .recorded⟩ :: past) := by
  rcases h with hloses | ⟨hlost, -⟩
  · cases hstage : e.stage with
    | declared => simp [Epoch.Loses, hstage] at hloses
    | begun =>
      simp only [Epoch.Loses, hstage] at hloses
      exact absurd hloses.1 hmissing
    | recorded => exact Or.inl (by simpa [Epoch.Loses, hstage] using hloses)
  · exact Or.inr ⟨hlost, fun _ => hmissing⟩

/-- What was lost stays lost when the revision is replaced. -/
theorem Lost.declared (h : Lost record id past) (resources : List Json) :
    Lost record id (⟨resources, .declared⟩ :: past) :=
  Or.inr ⟨h, nofun⟩

end Next

/-! ## What every operation keeps -/

/-- In the namespaces of a class that have obsolete objects deleted, every object is one from the
start, or a template of an identity that is accounted for made it. -/
def Cluster.Accounts (s after : Cluster) (className : String) (accounted : TemplateId → Prop) :
    Prop :=
  ∀ ns ∈ s.namespacesForClass className, ns.cleanupObsoleteEnabled = true →
    ∀ k o, k.namespaceName = ns.nameAny → after.objects.find? k = some o →
      s.objects.find? k = some o ∨ ∃ t : Template, t.Made ns.nameAny k o ∧ accounted t.id

/-- A class that is missing or being deleted has nothing applied. -/
structure Cluster.Idles (s after : Cluster) (className : String) : Prop where
  deleting : ∀ c, after.classes.find? className = some c → c.isDeleting = true
  objects : s.Accounts after className fun _ => False

namespace History

/-- The objects of a class that is not being deleted are on record, or they were lost. -/
structure Tracks (className : String) (s : Cluster) (h : History) (c : NamespaceClass) :
    Prop where
  stored : h.simulation.cluster.classes.find? className = some c
  active : c.isDeleting = false
  declared : c.spec.resources = h.current.resources
  /-- The record holds what was recorded last. -/
  covers : Template.ids (lastRecorded (s.record className) h.epochs) ⊆ Template.ids c.lastApplied
  /-- Once an identified revision is recorded, the record holds nothing else. -/
  settles : h.current.stage = .recorded → c.isIdentified = true →
    Template.ids c.lastApplied ⊆ Template.ids h.current.resources
  objects : s.Accounts h.simulation.cluster className fun id =>
    id ∈ Template.ids c.lastApplied ∨ Lost (s.record className) id h.epochs

/-- No call fails, and the namespaces are those from the start. -/
structure Sound (s : Cluster) (h : History) : Prop where
  faults : h.simulation.faults = []
  wellFormed : h.simulation.cluster.WellFormed
  namespaces : h.simulation.cluster.namespaces = s.namespaces

variable {className : String} {s : Cluster} {h : History}

theorem Sound.namespacesForClass (hsound : h.Sound s) (d : String) :
    h.simulation.cluster.namespacesForClass d = s.namespacesForClass d := by
  rw [Cluster.namespacesForClass, hsound.namespaces, Cluster.namespacesForClass]

theorem sound_start {s : Simulation} (hfaults : s.faults = []) (hs : s.cluster.WellFormed)
    (className : String) : (start className s).Sound s.cluster :=
  ⟨hfaults, hs, rfl⟩

/-- At the start a class is tracked, unless it is missing or being deleted. -/
theorem idles_or_tracks_start (className : String) (s : Simulation) :
    s.cluster.Idles s.cluster className ∨
      ∃ c, (start className s).Tracks className s.cluster c := by
  have hobjects : ∀ accounted, s.cluster.Accounts s.cluster className accounted :=
    fun accounted ns _ _ k o _ ho => Or.inl ho
  by_cases hactive : ∃ c, s.cluster.classes.find? className = some c ∧ c.isDeleting = false
  · obtain ⟨c, hc, active⟩ := hactive
    refine Or.inr ⟨c, hc, active, ?_, ?_, nofun, hobjects _⟩
    · simp [start, Cluster.declared, hc]
    · simp [start, epochs, lastRecorded, Cluster.record, hc]
  · refine Or.inl ⟨fun c hc => ?_, hobjects _⟩
    exact Bool.of_not_eq_false fun active => hactive ⟨c, hc, active⟩

/-! ### Edits -/

theorem setResources_of_stored {s : Cluster} {c : NamespaceClass}
    (hc : s.classes.find? className = some c) (resources : List Json) :
    s.setResources className resources = some { s with
      version := s.nextVersion
      classes := s.classes.insert className
        { c with spec := ⟨resources⟩, metadata := s.stamp c.metadata } } := by
  rw [Cluster.setResources, Cluster.editClass, hc]
  rfl

theorem epochs_edit {c : NamespaceClass}
    (hc : h.simulation.cluster.classes.find? className = some c) (resources : List Json) :
    (h.step className (.edit resources)).epochs = ⟨resources, .declared⟩ :: h.epochs := by
  simp only [step, setResources_of_stored hc resources]
  rfl

theorem Tracks.edit {c : NamespaceClass} (htracks : h.Tracks className s c)
    (resources : List Json) :
    ∃ c', (h.step className (.edit resources)).Tracks className s c' := by
  simp only [step, setResources_of_stored htracks.stored resources]
  refine ⟨_, (SortedMap.find?_insert _ _ _ _).trans (if_pos rfl), htracks.active, rfl,
    htracks.covers, (by cases ·), fun ns hns hopted k o hk ho => ?_⟩
  refine (htracks.objects ns hns hopted k o hk ho).imp_right ?_
  rintro ⟨t, hmade, hid⟩
  exact ⟨t, hmade, hid.imp_right fun hlost => hlost.declared resources⟩

/-! ### Reconciles -/

section Reconciles

variable {key : Key} {cancellation : Simulation.Cancellation} {c : NamespaceClass}

/-- Once a reconcile has begun under a revision, what the revision has is on record or lost. -/
theorem accounted_begin {record : List Json} {id : TemplateId} {e : Epoch} {past : List Epoch}
    (hcovers : Template.ids (lastRecorded record (e :: past)) ⊆ Template.ids c.lastApplied)
    (hid : id ∈ Template.ids e.resources) : id ∈ Template.ids c.lastApplied ∨
      Lost record id ({ e with stage := e.stage.next false true } :: past) := by
  by_cases hrecorded : id ∈ Template.ids c.lastApplied
  · exact Or.inl hrecorded
  have hmissing : id ∉ Template.ids (lastRecorded record (e :: past)) :=
    fun hmem => hrecorded (hcovers hmem)
  -- a recorded revision has what it has on record
  have hstage : e.stage ≠ .recorded := by
    intro hstage
    rw [lastRecorded, if_pos hstage] at hmissing
    exact hmissing hid
  rw [lastRecorded, if_neg hstage] at hmissing
  refine Or.inr (Or.inl ?_)
  simp only [Epoch.Loses, Stage.next_of_concerned hstage]
  exact ⟨hid, hmissing⟩

/-- A reconcile that does not record the revision of the class. -/
theorem Tracks.begin (hsound : h.Sound s) (htracks : h.Tracks className s c)
    (hunfinished : ((h.simulation.reconcile key cancellation).1.isApplied &&
      key.name == className) = false) :
    ∃ c', (h.step className (.reconcile key cancellation)).Tracks className s c' := by
  obtain ⟨-, -, hends⟩ := Simulation.reconcile_ends_of_faultless
    hsound.faults hsound.wellFormed key cancellation
  obtain ⟨c', hc', active, hspec, hstatus⟩ :=
    hends.active hsound.wellFormed htracks.stored htracks.active
  have hrecord : c'.lastApplied = c.lastApplied := by
    rcases hstatus with hsame | ⟨rfl, happlied⟩
    · rw [NamespaceClass.lastApplied, hsame, NamespaceClass.lastApplied]
    · simp [happlied] at hunfinished
  simp only [step, hunfinished]
  refine ⟨c', hc', active, (congrArg _ hspec).trans htracks.declared, ?_, fun hstage => ?_,
    fun ns hns hopted k o hk ho => ?_⟩
  · rw [epochs, lastRecorded_next, hrecord]
    exact htracks.covers
  · rw [hrecord, NamespaceClass.isIdentified, hspec]
    exact htracks.settles (Stage.next_eq_recorded.1 hstage)
  · rw [hrecord]
    rcases hends.find?_objects hsound.wellFormed.toNamed
      ((hsound.namespacesForClass className).symm ▸ hns) hk ho with
      hsame | ⟨hconcerns, c'', hc'', -, t, ht, hmade⟩
    · refine (htracks.objects ns hns hopted k o hk hsame).imp_right ?_
      rintro ⟨t, hmade, hid⟩
      exact ⟨t, hmade, hid.imp_right fun hlost => hlost.next _⟩
    · obtain rfl := Option.some.inj (htracks.stored.symm.trans hc'')
      have hid : t.id ∈ Template.ids h.current.resources :=
        htracks.declared ▸ Template.mem_ids.2 ⟨t, ht, rfl⟩
      rw [hconcerns]
      exact Or.inr ⟨t, hmade, accounted_begin htracks.covers hid⟩

/-- When a revision is recorded, an identity that was on record or lost is declared or removed by
it, or it is lost. -/
theorem accounted_record {record : List Json} {id : TemplateId} {e : Epoch} {past : List Epoch}
    (hdeclared : c.spec.resources = e.resources)
    (hid : id ∈ Template.ids c.lastApplied ∨ Lost record id (e :: past)) :
    id ∈ Template.ids c.spec.resources ∨ id ∈ Template.ids c.removedEntries ∨
      Lost record id (⟨e.resources, .recorded⟩ :: past) := by
  by_cases hmem : id ∈ Template.ids c.spec.resources
  · exact Or.inl hmem
  refine Or.inr ?_
  rcases hid with hid | hlost
  · by_cases hclaimed : id ∈ Revision.claimedIds c.spec.resources
    · rw [hdeclared] at hclaimed hmem
      exact Or.inr (Or.inl ⟨hclaimed, hmem⟩)
    · exact Or.inl (NamespaceClass.mem_ids_removedEntries.2 ⟨hid, hclaimed⟩)
  · exact Or.inr (hlost.recorded (hdeclared ▸ hmem))

theorem epochs_record
    (happlied : (h.simulation.reconcile key cancellation).1.isApplied = true)
    (hname : key.name = className) : (h.step className (.reconcile key cancellation)).epochs =
      ⟨h.current.resources, .recorded⟩ :: h.past := by
  simp [step, epochs, happlied, hname, Stage.next]

/-- A reconcile that records the revision of the class. -/
theorem Tracks.record (hsound : h.Sound s) (htracks : h.Tracks className s c)
    (happlied : (h.simulation.reconcile key cancellation).1.isApplied = true)
    (hname : key.name = className) :
    ∃ c', (h.step className (.reconcile key cancellation)).Tracks className s c' := by
  subst hname
  obtain ⟨-, -, hends⟩ := Simulation.reconcile_ends_of_faultless
    hsound.faults hsound.wellFormed key cancellation
  obtain ⟨c', hc', active, hspec, -⟩ :=
    hends.active hsound.wellFormed htracks.stored htracks.active
  obtain ⟨hrecord, hobjects⟩ := Simulation.stored_of_isApplied hsound.faults hsound.wellFormed
    happlied htracks.stored
  have hids : ∀ id, id ∈ Template.ids c'.lastApplied ↔ id ∈ Template.ids c.spec.resources ∨
      c.isIdentified = false ∧ id ∈ Template.ids c.removedEntries := by
    intro id
    rw [hrecord c' hc', NamespaceClass.mem_ids_recordAfter]
  simp only [step, happlied, beq_self_eq_true, Bool.and_self]
  refine ⟨c', hc', active, (congrArg _ hspec).trans htracks.declared, ?_, ?_,
    fun ns hns hopted k o hk ho => ?_⟩
  · intro id hid
    rw [hids, htracks.declared]
    exact Or.inl hid
  · intro _ hidentified id hid
    have hidentified : c.isIdentified = true := by
      rwa [NamespaceClass.isIdentified, hspec] at hidentified
    rw [hids, hidentified, htracks.declared] at hid
    exact hid.resolve_right fun h => Bool.noConfusion h.1
  · have hlisted : ns ∈ h.simulation.cluster.namespacesForClass key.name :=
      (hsound.namespacesForClass key.name).symm ▸ hns
    rcases hends.find?_objects hsound.wellFormed.toNamed hlisted hk ho with
      hsame | ⟨-, c'', hc'', -, t, ht, hmade⟩
    · refine (htracks.objects ns hns hopted k o hk hsame).imp_right ?_
      rintro ⟨t, hmade, hid⟩
      refine ⟨t, hmade, ?_⟩
      rcases accounted_record htracks.declared hid with hdeclared | hremoved | hlost
      · exact Or.inl ((hids t.id).2 (Or.inl hdeclared))
      · -- were the class identified, the object would have been erased
        refine Or.inl ((hids t.id).2 (Or.inr ⟨Bool.of_not_eq_true fun hidentified => ?_, hremoved⟩))
        have hnone := NamespaceClass.find?_updateObjects_of_removed hopted hidentified
          hmade.isTemplate hremoved h.simulation.cluster.contents.objects
        rw [← hmade.key, ← hobjects ns hlisted k hk, ho] at hnone
        cases hnone
      · exact Or.inr hlost
    · obtain rfl := Option.some.inj (htracks.stored.symm.trans hc'')
      exact Or.inr ⟨t, hmade, Or.inl ((hids t.id).2 (Or.inl (Template.mem_ids.2 ⟨t, ht, rfl⟩)))⟩

end Reconciles

/-! ### Runs -/

theorem Sound.step (hsound : h.Sound s) (operation : Operation) :
    (h.step className operation).Sound s := by
  cases operation with
  | edit resources =>
    rw [History.step]
    split
    case h_1 => exact hsound
    case h_2 cluster hset =>
      obtain ⟨c, -, rfl⟩ := Option.map_eq_some_iff.1 hset
      exact ⟨hsound.faults, hsound.wellFormed.setResources hset, hsound.namespaces⟩
  | reconcile key cancellation =>
    obtain ⟨hfaults, hwell, hends⟩ := Simulation.reconcile_ends_of_faultless
      hsound.faults hsound.wellFormed key cancellation
    exact ⟨hfaults, hwell, hends.namespaces.trans hsound.namespaces⟩

theorem idles_step (hsound : h.Sound s) (hidle : s.Idles h.simulation.cluster className)
    (operation : Operation) :
    s.Idles (h.step className operation).simulation.cluster className := by
  cases operation with
  | edit resources =>
    rw [step]
    split
    case h_1 => exact hidle
    case h_2 cluster hset =>
      obtain ⟨c, hc, rfl⟩ := Option.map_eq_some_iff.1 hset
      refine ⟨fun c' hc' => ?_, hidle.objects⟩
      rw [SortedMap.find?_insert, if_pos rfl] at hc'
      obtain rfl := Option.some.inj hc'
      exact hidle.deleting c hc
  | reconcile key cancellation =>
    obtain ⟨-, -, hends⟩ := Simulation.reconcile_ends_of_faultless
      hsound.faults hsound.wellFormed key cancellation
    refine ⟨fun c hc => hends.deleting hsound.wellFormed hidle.deleting hc, ?_⟩
    intro ns hns hopted k o hk ho
    rcases hends.find?_objects hsound.wellFormed.toNamed
      ((hsound.namespacesForClass className).symm ▸ hns) hk ho with
      hsame | ⟨-, c, hc, active, -⟩
    · exact hidle.objects ns hns hopted k o hk hsame
    · rw [hidle.deleting c hc] at active
      cases active

theorem Tracks.step {c : NamespaceClass} (hsound : h.Sound s) (htracks : h.Tracks className s c)
    (operation : Operation) : ∃ c', (h.step className operation).Tracks className s c' := by
  cases operation with
  | edit resources => exact htracks.edit resources
  | reconcile key cancellation =>
    cases hfinished : (h.simulation.reconcile key cancellation).1.isApplied &&
        key.name == className with
    | false => exact htracks.begin hsound hfinished
    | true =>
      rw [Bool.and_eq_true, beq_iff_eq] at hfinished
      exact htracks.record hsound hfinished.1 hfinished.2

theorem Sound.run (hsound : h.Sound s) (operations : List Operation) :
    (h.run className operations).Sound s := by
  induction operations generalizing h with
  | nil => exact hsound
  | cons operation rest ih => exact ih (hsound.step operation)

/-- A class that is missing or being deleted has nothing applied. -/
theorem idles_run (hsound : h.Sound s) (hidle : s.Idles h.simulation.cluster className)
    (operations : List Operation) :
    s.Idles (h.run className operations).simulation.cluster className := by
  induction operations generalizing h with
  | nil => exact hidle
  | cons operation rest ih => exact ih (hsound.step operation) (idles_step hsound hidle operation)

/-- The objects of a class that is not being deleted stay on record, or they are lost. -/
theorem Tracks.run {c : NamespaceClass} (hsound : h.Sound s) (htracks : h.Tracks className s c)
    (operations : List Operation) :
    ∃ c', (h.run className operations).Tracks className s c' := by
  induction operations generalizing h c with
  | nil => exact ⟨c, htracks⟩
  | cons operation rest ih =>
    obtain ⟨c₁, htracks₁⟩ := htracks.step hsound operation
    exact ih (hsound.step operation) htracks₁

end History

end ClassReconciler
