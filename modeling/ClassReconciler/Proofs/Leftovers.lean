import Mathlib.Data.List.Induction
import ClassReconciler.Proofs.History

/-!
# Objects that are left over

Which objects stay in a namespace that has obsolete ones deleted, after its class has been applied
without any of them being declared. Where all entries are templates, they are those of identities
that were given up (`remains_only_if_given_up`): a revision had them, of which something was
applied, and it was replaced before it was recorded. Where every revision is applied and recorded,
they are those whose entry was broken (`remains_only_if_broken`): the broken entry still claims
the identity, so that nothing is deleted, but the record cannot be read back as a template, and
when the entry is dropped nothing says what to delete.
-/

namespace ClassReconciler

open Cluster (sampleEntry sampleKey)

theorem Template.mem_ids_of_mem_claimedIds {raws : List Json}
    (h : ∀ raw ∈ raws, ∃ t, parse raw = .ok t) {id : TemplateId}
    (hid : id ∈ Revision.claimedIds raws) : id ∈ ids raws := by
  obtain ⟨raw, hraw, hof⟩ := Revision.mem_claimedIds.1 hid
  obtain ⟨t, hparse⟩ := h raw hraw
  have hsame : t.id = id := Except.ok.inj ((parse_eq_ok hparse).1.symm.trans hof)
  exact mem_ids.2 ⟨t, mem_parseAll.2 ⟨raw, hraw, hparse⟩, hsame⟩

/-! ## Identities that were given up -/

/-- Of an identity something may have been applied under a revision that was replaced before it
was recorded, where neither the revision recorded before it nor any recorded since has the
identity. -/
def GivenUp (record : List Json) (id : TemplateId) (past : List Epoch) : Prop :=
  ∃ later e older, past = later ++ e :: older ∧ e.stage = .begun ∧
    id ∈ Template.ids e.resources ∧ id ∉ Template.ids (lastRecorded record older) ∧
      ∀ e' ∈ later, e'.stage = .recorded → id ∉ Template.ids e'.resources

/-- What is lost once a revision is recorded was given up, if all entries are templates. -/
theorem Lost.givenUp {record : List Json} {id : TemplateId} {e : Epoch} {past : List Epoch}
    (h : Lost record id (e :: past)) (hrecorded : e.stage = .recorded)
    (htemplates : ∀ e' ∈ e :: past, ∀ raw ∈ e'.resources, ∃ t, Template.parse raw = .ok t) :
    GivenUp record id past := by
  obtain ⟨later, e', older, hepochs, hloses, hlater⟩ := exists_loses_of_lost h
  have hmem : e' ∈ e :: past := hepochs ▸ List.mem_append_right _ List.mem_cons_self
  -- a revision that was recorded has the identities that it claims
  have hbegun : e'.stage = .begun ∧ id ∈ Template.ids e'.resources ∧
      id ∉ Template.ids (lastRecorded record older) := by
    cases hstage : e'.stage with
    | declared => simp [Epoch.Loses, hstage] at hloses
    | begun => exact ⟨rfl, by simpa only [Epoch.Loses, hstage] using hloses⟩
    | recorded =>
      simp only [Epoch.Loses, hstage] at hloses
      exact absurd (Template.mem_ids_of_mem_claimedIds (htemplates e' hmem) hloses.1) hloses.2
  cases later with
  | nil =>
    obtain ⟨rfl, -⟩ := List.cons.inj hepochs
    rw [hrecorded] at hbegun
    cases hbegun.1
  | cons e₀ later =>
    obtain ⟨-, hpast⟩ := List.cons.inj hepochs
    exact ⟨later, e', older, hpast, hbegun.1, hbegun.2.1, hbegun.2.2,
      fun e'' he => hlater e'' (List.mem_cons_of_mem _ he)⟩

/-- After edits of a class and reconciles of any keys, each run to its end or cut, let a reconcile
apply the class, where no call fails and all entries of all revisions are templates. Then in each
namespace of the class that has obsolete objects deleted, every object is one from the start, or
the class declares its identity, or that was given up. -/
theorem remains_only_if_given_up {s : Simulation} (hs : s.cluster.Reachable)
    (hfaults : s.faults = []) {className : String} {operations : List Operation} {h : History}
    (hrun : (History.start className s).run className operations = h)
    (htemplates : ∀ e ∈ h.epochs, ∀ raw ∈ e.resources, ∃ t, Template.parse raw = .ok t)
    {key : Key} (hkey : key.name = className) {cancellation : Simulation.Cancellation}
    {namespaces failed pruned : Nat}
    (hresult : (h.simulation.reconcile key cancellation).1 =
      .ok (.applied namespaces failed pruned)) :
    let after := (h.simulation.reconcile key cancellation).2.cluster
    ∃ c, after.classes.find? className = some c ∧ c.spec.resources = h.current.resources ∧
      ∀ ns ∈ s.cluster.namespacesForClass className, ns.cleanupObsoleteEnabled = true →
        ∀ k o, k.namespaceName = ns.nameAny → after.objects.find? k = some o →
          s.cluster.objects.find? k = some o ∨ ∃ id, o.id? = some id ∧
            (id ∈ Revision.claimedIds c.spec.resources ∨
              GivenUp (s.cluster.record className) id h.past) := by
  intro after
  have hstart := History.sound_start hfaults hs.wellFormed className
  have hsound : h.Sound s.cluster := hrun ▸ hstart.run operations
  have happlied : (h.simulation.reconcile key cancellation).1.isApplied = true :=
    ReconcileResult.isApplied_iff.2 ⟨_, _, _, hresult⟩
  obtain ⟨c, htracks⟩ : ∃ c, h.Tracks className s.cluster c := by
    rcases History.idles_or_tracks_start className s with hidle | ⟨c, htracks⟩
    · -- the class is not being deleted, as it is applied
      obtain ⟨c, hc, active, -⟩ :=
        Simulation.reconcile_of_isApplied hsound.faults hsound.wellFormed happlied
      have hidle : s.cluster.Idles h.simulation.cluster className :=
        hrun ▸ History.idles_run hstart hidle operations
      rw [hidle.deleting c (hkey ▸ hc)] at active
      cases active
    · exact hrun ▸ htracks.run hstart operations
  obtain ⟨c', htracks'⟩ := htracks.record hsound happlied hkey
  have hepochs := History.epochs_record happlied hkey
  have hcurrent := (List.cons.inj hepochs).1
  have hdeclared : c'.spec.resources = h.current.resources := htracks'.declared
  refine ⟨c', htracks'.stored, hdeclared, fun ns hns hopted k o hk ho => ?_⟩
  refine (htracks'.objects ns hns hopted k o hk ho).imp_right ?_
  rintro ⟨t, hmade, hid⟩
  refine ⟨t.id, hmade.id?, ?_⟩
  rcases hid with hid | hlost
  · have hidentified : c'.isIdentified = true := by
      refine List.all_eq_true.2 fun raw hraw => ?_
      obtain ⟨t, hparse⟩ := htemplates h.current List.mem_cons_self raw (hdeclared ▸ hraw)
      rw [(Template.parse_eq_ok hparse).1]
      rfl
    have hmem := htracks'.settles (congrArg Epoch.stage hcurrent) hidentified hid
    rw [← htracks'.declared] at hmem
    exact Or.inl (Template.mem_claimedIds_of_mem_ids hmem)
  · rw [hepochs] at hlost
    refine Or.inr (hlost.givenUp rfl fun e he => ?_)
    rcases List.mem_cons.1 he with rfl | he
    · exact htemplates h.current List.mem_cons_self
    · exact htemplates e (List.mem_cons_of_mem _ he)

/-! ### A revision that is only applied into a namespace -/

/-- A class is applied into its namespace and then declares nothing any more. -/
def History.abandoned : History :=
  (History.start "gold" { cluster := .fresh [sampleEntry "early"] }).run "gold"
    [.reconcile (.ofNamespace "team") .never, .edit []]

theorem History.templates_abandoned :
    ∀ e ∈ abandoned.epochs, ∀ raw ∈ e.resources, ∃ t, Template.parse raw = .ok t := by
  have hall : (abandoned.epochs.all fun e =>
      e.resources.all fun raw => (Template.parse? raw).isSome) = true := by decide +kernel
  simp only [List.all_eq_true, Option.isSome_iff_exists, Template.parse?_eq_some] at hall
  exact hall

theorem History.reconcile_abandoned :
    let r := abandoned.simulation.reconcile (.ofClass "gold") .never
    r.1 = .ok (.applied 1 0 0) ∧ ∃ o, r.2.cluster.objects.find? (sampleKey "early") = some o := by
  have hrun : let r := abandoned.simulation.reconcile (.ofClass "gold") .never
      r.1.toOption = some (.applied 1 0 0) ∧
        (r.2.cluster.objects.find? (sampleKey "early")).isSome = true := by decide +kernel
  exact ⟨except_toOption_eq_some.1 hrun.1, Option.isSome_iff_exists.1 hrun.2⟩

/-- The object stays, whose identity was given up. -/
theorem remains_only_if_given_up_sample :
    let s : Simulation := { cluster := .fresh [sampleEntry "early"] }
    let r := History.abandoned.simulation.reconcile (.ofClass "gold") .never
    s.cluster.Reachable ∧ s.faults = [] ∧
      (History.start "gold" s).run "gold" [.reconcile (.ofNamespace "team") .never, .edit []] =
        History.abandoned ∧
      (∀ e ∈ History.abandoned.epochs, ∀ raw ∈ e.resources, ∃ t, Template.parse raw = .ok t) ∧
      r.1 = .ok (.applied 1 0 0) ∧ ∃ o id, r.2.cluster.objects.find? (sampleKey "early") = some o ∧
        o.id? = some id ∧ GivenUp (s.cluster.record "gold") id History.abandoned.past := by
  intro s r
  have hs : s.cluster.Reachable := Cluster.reachable_fresh _
  have hrun : (History.start "gold" s).run "gold"
      [.reconcile (.ofNamespace "team") .never, .edit []] = History.abandoned := rfl
  have hkey : (Key.ofClass "gold").name = "gold" := rfl
  obtain ⟨hresult, o, ho⟩ := History.reconcile_abandoned
  refine ⟨hs, rfl, hrun, History.templates_abandoned, hresult, o, ?_⟩
  obtain ⟨c, hc, hdeclared, hobjects⟩ := remains_only_if_given_up hs rfl hrun
    History.templates_abandoned hkey hresult
  obtain ⟨ns, hlisted, hname, hopted⟩ :=
    Cluster.namespacesForClass_fresh [sampleEntry "early"]
  have hns : ns ∈ s.cluster.namespacesForClass "gold" := hlisted ▸ List.mem_singleton_self ns
  rcases hobjects ns hns hopted (sampleKey "early") o hname.symm ho with
    hstart | ⟨id, hid, hclaimed | hgiven⟩
  · cases hstart
  · rw [hdeclared] at hclaimed
    exact absurd hclaimed List.not_mem_nil
  · exact ⟨id, ho, hid, hgiven⟩

/-- So objects of a revision that was applied only in part stay although the class is applied
without a failure and no longer declares them. -/
theorem abandoned_object_remains :
    ¬∀ (s : Simulation) (className : String) (operations : List Operation) (h : History)
      (cancellation : Simulation.Cancellation) (namespaces pruned : Nat), s.cluster.Reachable →
      s.faults = [] → (History.start className s).run className operations = h →
      (∀ e ∈ h.epochs, ∀ raw ∈ e.resources, ∃ t, Template.parse raw = .ok t) →
      (∀ ns ∈ s.cluster.namespacesForClass className, ns.cleanupObsoleteEnabled = true) →
      let r := h.simulation.reconcile (.ofClass className) cancellation
      r.1 = .ok (.applied namespaces 0 pruned) →
      ∀ ns ∈ s.cluster.namespacesForClass className, ∀ k o, k.namespaceName = ns.nameAny →
        r.2.cluster.objects.find? k = some o → s.cluster.objects.find? k ≠ some o →
        ∃ id, o.id? = some id ∧ id ∈ Revision.claimedIds h.current.resources := by
  intro hclaim
  obtain ⟨hresult, o, ho⟩ := History.reconcile_abandoned
  obtain ⟨ns, hlisted, hname, hopted⟩ :=
    Cluster.namespacesForClass_fresh [sampleEntry "early"]
  have hns : ns ∈ (Cluster.fresh [sampleEntry "early"]).namespacesForClass "gold" :=
    hlisted ▸ List.mem_singleton_self ns
  have hall : ∀ ns' ∈ (Cluster.fresh [sampleEntry "early"]).namespacesForClass "gold",
      ns'.cleanupObsoleteEnabled = true := by
    rw [hlisted]
    exact fun ns' hns' => List.mem_singleton.1 hns' ▸ hopted
  obtain ⟨id, -, hid⟩ := hclaim { cluster := .fresh [sampleEntry "early"] } "gold"
    [.reconcile (.ofNamespace "team") .never, .edit []] History.abandoned .never 1 0
    (Cluster.reachable_fresh _) rfl rfl History.templates_abandoned hall hresult ns hns
    (sampleKey "early") o hname.symm ho nofun
  exact absurd hid List.not_mem_nil

/-! ## Identities whose entry was broken -/

/-- Revisions of a class, each of which is applied. -/
def revising (className : String) (revisions : List (List Json)) : List Operation :=
  revisions.flatMap fun resources => [.edit resources, .reconcile (.ofClass className) .never]

/-- The class that a key of a class names is applied, if it is stored and not being deleted. -/
theorem Simulation.isApplied_of_active {s : Simulation} (hfaults : s.faults = [])
    (hs : s.cluster.WellFormed) {className : String} {c : NamespaceClass}
    (hc : s.cluster.classes.find? className = some c) (active : c.isDeleting = false) :
    (s.reconcile (.ofClass className) .never).1.isApplied = true := by
  have hrefusing : s.faults = Fault.refusing (fun _ => .timeout) [] := hfaults
  exact ReconcileResult.isApplied_iff.2 ⟨_, _, _, (reconcile_active hs hrefusing hc active).1⟩

namespace History

variable {className : String} {s : Cluster} {h : History} {c : NamespaceClass}

/-- A revision of a class that is tracked is recorded. -/
theorem Tracks.revise (hsound : h.Sound s) (htracks : h.Tracks className s c)
    (resources : List Json) : ∃ c', (h.run className (revising className [resources])).Tracks
        className s c' ∧
      (h.run className (revising className [resources])).epochs =
        ⟨resources, .recorded⟩ :: h.epochs := by
  obtain ⟨c₁, htracks₁⟩ := htracks.edit resources
  have happlied := Simulation.isApplied_of_active (hsound.step (.edit resources)).faults
    (hsound.step (.edit resources)).wellFormed htracks₁.stored htracks₁.active
  obtain ⟨c₂, htracks₂⟩ := htracks₁.record (hsound.step (.edit resources)) happlied rfl
  obtain ⟨hcurrent, hpast⟩ := List.cons.inj (epochs_edit htracks.stored resources)
  refine ⟨c₂, htracks₂, (epochs_record happlied rfl).trans ?_⟩
  rw [hcurrent, hpast]

/-- Revisions of a class that is tracked are recorded one after the other. -/
theorem Tracks.reviseEach (hsound : h.Sound s) (htracks : h.Tracks className s c)
    (revisions : List (List Json)) :
    ∃ c', (h.run className (revising className revisions)).Tracks className s c' ∧
      (h.run className (revising className revisions)).epochs =
        (revisions.map (⟨·, .recorded⟩)).reverse ++ h.epochs := by
  induction revisions generalizing h c with
  | nil => exact ⟨c, htracks, rfl⟩
  | cons resources rest ih =>
    obtain ⟨c₁, htracks₁, hepochs₁⟩ := htracks.revise hsound resources
    obtain ⟨c₂, htracks₂, hepochs₂⟩ := ih (hsound.run (revising className [resources])) htracks₁
    refine ⟨c₂, htracks₂, hepochs₂.trans ?_⟩
    rw [hepochs₁, List.map_cons, List.reverse_cons, List.append_assoc]
    rfl

end History

/-- What is lost through revisions that are recorded one after the other was claimed by one of
them in which it was no template, and none since has it. -/
theorem Lost.exists_broken {record : List Json} {id : TemplateId} {revisions : List (List Json)}
    {first : List Json}
    (h : Lost record id
      ((revisions.map (Epoch.mk · .recorded)).reverse ++ [⟨first, .declared⟩])) :
    ∃ before broken later, revisions = before ++ broken :: later ∧
      id ∈ Revision.claimedIds broken ∧ id ∉ Template.ids broken ∧
        ∀ resources ∈ later, id ∉ Template.ids resources := by
  induction revisions using List.reverseRecOn with
  | nil =>
    rcases h with hloses | ⟨hlost, -⟩
    · exact hloses.elim
    · exact hlost.elim
  | append_singleton rest last ih =>
    rw [List.map_append, List.reverse_append] at h
    rcases h with ⟨hclaimed, hmissing⟩ | ⟨hlost, hmissing⟩
    · exact ⟨rest, last, [], rfl, hclaimed, hmissing, fun r hr => absurd hr List.not_mem_nil⟩
    · obtain ⟨before, broken, later, rfl, hclaimed, hbroken, hlater⟩ := ih hlost
      refine ⟨before, broken, later ++ [last], by simp, hclaimed, hbroken, fun r hr => ?_⟩
      rcases List.mem_append.1 hr with hr | hr
      · exact hlater r hr
      · exact List.mem_singleton.1 hr ▸ hmissing rfl

/-- Let a class be edited and applied again and again, where no call fails, and let all entries of
the last revision have an identity. In a namespace of the class that had no object at the start
and has obsolete ones deleted, every object then has an identity that the last revision claims, or
one that an earlier revision claimed with an entry that is no template and that no revision since
had as one. -/
theorem remains_only_if_broken {s : Simulation} (hs : s.cluster.Reachable)
    (hfaults : s.faults = []) {className : String} {ns : Namespace}
    (hns : ns ∈ s.cluster.namespacesForClass className)
    (hopted : ns.cleanupObsoleteEnabled = true)
    (hempty : ∀ k, k.namespaceName = ns.nameAny → s.cluster.objects.find? k = none)
    {earlier : List (List Json)} {last : List Json}
    (hidentified : ∀ raw ∈ last, ∃ id, TemplateId.of raw = .ok id) {h : History}
    (hrun : (History.start className s).run className
      (revising className (earlier ++ [last])) = h)
    {k : ObjectKey} (hk : k.namespaceName = ns.nameAny) {o : Manifest}
    (ho : h.simulation.cluster.objects.find? k = some o) :
    ∃ id, o.id? = some id ∧ (id ∈ Revision.claimedIds last ∨
      ∃ before broken later, earlier = before ++ broken :: later ∧
        id ∈ Revision.claimedIds broken ∧ id ∉ Template.ids broken ∧
          ∀ resources ∈ later, id ∉ Template.ids resources) := by
  subst hrun
  have hstart := History.sound_start hfaults hs.wellFormed className
  have hnot : s.cluster.objects.find? k ≠ some o := by simp [hempty k hk]
  rcases History.idles_or_tracks_start className s with hidle | ⟨c₀, htracks₀⟩
  · have hafter := History.idles_run hstart hidle (revising className (earlier ++ [last]))
    rcases hafter.objects ns hns hopted k o hk ho with hbefore | ⟨-, -, hnothing⟩
    · exact absurd hbefore hnot
    · exact hnothing.elim
  · obtain ⟨c, htracks, hepochs⟩ := htracks₀.reviseEach hstart (earlier ++ [last])
    rw [List.map_append, List.reverse_append] at hepochs
    obtain ⟨hcurrent, hpast⟩ := List.cons.inj hepochs
    rcases htracks.objects ns hns hopted k o hk ho with hbefore | ⟨t, hmade, hid⟩
    · exact absurd hbefore hnot
    refine ⟨t.id, hmade.id?, ?_⟩
    rcases hid with hid | hlost
    · have hclass : c.isIdentified = true := by
        refine List.all_eq_true.2 fun raw hraw => except_toOption_isSome.2 (hidentified raw ?_)
        rw [htracks.declared, hcurrent] at hraw
        exact hraw
      have hmem := htracks.settles (congrArg Epoch.stage hcurrent) hclass hid
      rw [hcurrent] at hmem
      exact Or.inl (Template.mem_claimedIds_of_mem_ids hmem)
    · rw [hepochs] at hlost
      rcases hlost with ⟨hclaimed, -⟩ | ⟨hlost, -⟩
      · exact Or.inl hclaimed
      · exact Or.inr hlost.exists_broken

/-! ### An entry that is broken and then dropped -/

/-- A config map whose labels are no map, so that it has an identity and does not decode. -/
def brokenEntry (name : String) : Json :=
  .obj [("apiVersion", .str "v1"), ("kind", .str "ConfigMap"),
    ("metadata", .obj [("labels", .int 5), ("name", .str name)])]

/-- A config map is applied, then broken, and then replaced by another one. -/
def History.dropped : History :=
  (History.start "gold" { cluster := .fresh [] }).run "gold"
    (revising "gold" ([[sampleEntry "keep"], [brokenEntry "keep"]] ++ [[sampleEntry "next"]]))

/-- The object of the broken entry stays, and the last revision does not claim its identity. -/
theorem History.find?_dropped :
    ∃ o, dropped.simulation.cluster.objects.find? (sampleKey "keep") = some o ∧
      ∀ id, o.id? = some id → id ∉ Revision.claimedIds [sampleEntry "next"] := by
  let kept : TemplateId := ⟨"v1", "ConfigMap", "keep"⟩
  have hfound : (dropped.simulation.cluster.objects.find? (sampleKey "keep")).bind Manifest.id? =
      some kept := by decide +kernel
  have hmissing : kept ∉ Revision.claimedIds [sampleEntry "next"] := by decide +kernel
  obtain ⟨o, ho, hkept⟩ := Option.bind_eq_some_iff.1 hfound
  refine ⟨o, ho, fun id hid => ?_⟩
  rwa [← Option.some.inj (hkept.symm.trans hid)]

theorem identified_sampleEntry :
    ∀ raw ∈ [sampleEntry "next"], ∃ id, TemplateId.of raw = .ok id := by
  have hall : ([sampleEntry "next"].all fun raw => (TemplateId.of raw).toOption.isSome) = true := by
    decide +kernel
  simp only [List.all_eq_true, except_toOption_isSome] at hall
  exact hall

/-- The config map stays, whose entry was broken. -/
theorem remains_only_if_broken_sample :
    let s : Simulation := { cluster := .fresh [] }
    s.cluster.Reachable ∧ s.faults = [] ∧ ∃ ns, ns ∈ s.cluster.namespacesForClass "gold" ∧
      ns.cleanupObsoleteEnabled = true ∧
      (∀ k, k.namespaceName = ns.nameAny → s.cluster.objects.find? k = none) ∧
      (∀ raw ∈ [sampleEntry "next"], ∃ id, TemplateId.of raw = .ok id) ∧
      (History.start "gold" s).run "gold" (revising "gold"
        ([[sampleEntry "keep"], [brokenEntry "keep"]] ++ [[sampleEntry "next"]])) =
          History.dropped ∧
      (sampleKey "keep").namespaceName = ns.nameAny ∧ ∃ o id,
        History.dropped.simulation.cluster.objects.find? (sampleKey "keep") = some o ∧
        o.id? = some id ∧
        ∃ before broken later,
          [[sampleEntry "keep"], [brokenEntry "keep"]] = before ++ broken :: later ∧
          id ∈ Revision.claimedIds broken ∧ id ∉ Template.ids broken ∧
            ∀ resources ∈ later, id ∉ Template.ids resources := by
  intro s
  have hs : s.cluster.Reachable := Cluster.reachable_fresh []
  obtain ⟨ns, hlisted, hname, hopted⟩ := Cluster.namespacesForClass_fresh []
  have hns : ns ∈ s.cluster.namespacesForClass "gold" := hlisted ▸ List.mem_singleton_self ns
  have hempty : ∀ k, k.namespaceName = ns.nameAny → s.cluster.objects.find? k = none :=
    fun _ _ => rfl
  have hrun : (History.start "gold" s).run "gold" (revising "gold"
      ([[sampleEntry "keep"], [brokenEntry "keep"]] ++ [[sampleEntry "next"]])) =
        History.dropped := rfl
  obtain ⟨o, ho, hmissing⟩ := History.find?_dropped
  obtain ⟨id, hid, hclaimed | hbroken⟩ :=
    remains_only_if_broken hs rfl hns hopted hempty identified_sampleEntry hrun hname.symm ho
  · exact absurd hclaimed (hmissing id hid)
  · exact ⟨hs, rfl, ns, hns, hopted, hempty, identified_sampleEntry, hrun, hname.symm, o, id, ho,
      hid, hbroken⟩

/-- So an invalid edit can lose track of a live object. -/
theorem broken_object_remains :
    ¬∀ (s : Simulation) (className : String) (c : NamespaceClass) (earlier : List (List Json))
      (last : List Json), s.cluster.Reachable → s.faults = [] →
      s.cluster.classes.find? className = some c → c.status = none →
      (∀ ns ∈ s.cluster.namespacesForClass className, ns.cleanupObsoleteEnabled = true ∧
        ∀ k, k.namespaceName = ns.nameAny → s.cluster.objects.find? k = none) →
      (∀ raw ∈ last, ∃ id, TemplateId.of raw = .ok id) →
      ∀ ns ∈ s.cluster.namespacesForClass className, ∀ k o, k.namespaceName = ns.nameAny →
        ((History.start className s).run className
          (revising className (earlier ++ [last]))).simulation.cluster.objects.find? k = some o →
        ∃ id, o.id? = some id ∧ id ∈ Revision.claimedIds last := by
  intro hclaim
  obtain ⟨ns, hlisted, hname, hopted⟩ := Cluster.namespacesForClass_fresh []
  have hns : ns ∈ (Cluster.fresh []).namespacesForClass "gold" :=
    hlisted ▸ List.mem_singleton_self ns
  have hall : ∀ ns' ∈ (Cluster.fresh []).namespacesForClass "gold",
      ns'.cleanupObsoleteEnabled = true ∧
        ∀ k, k.namespaceName = ns'.nameAny → (Cluster.fresh []).objects.find? k = none := by
    rw [hlisted]
    exact fun ns' hns' => ⟨List.mem_singleton.1 hns' ▸ hopted, fun _ _ => rfl⟩
  obtain ⟨c, hc, hstatus⟩ : ∃ c, (Cluster.fresh []).classes.find? "gold" = some c ∧
      c.status = none := ⟨_, rfl, rfl⟩
  obtain ⟨o, ho, hmissing⟩ := History.find?_dropped
  obtain ⟨id, hid, hclaimed⟩ := hclaim { cluster := .fresh [] } "gold" c
    [[sampleEntry "keep"], [brokenEntry "keep"]] [sampleEntry "next"] (Cluster.reachable_fresh [])
    rfl hc hstatus hall identified_sampleEntry ns hns (sampleKey "keep") o hname.symm ho
  exact absurd hclaimed (hmissing id hid)

end ClassReconciler
