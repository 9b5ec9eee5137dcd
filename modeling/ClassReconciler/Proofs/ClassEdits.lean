import ClassReconciler.Proofs.Finalization
import ClassReconciler.Proofs.Justification

/-!
# Edits of classes among reconciles

A reconcile reads a class once and writes it back later, while users edit it and other reconciles
write it too. What it writes carries the version that it read, and a version stands for one
revision: a write that succeeds is made to the very class that was read
(`writesAsRead_of_justified`).
So it changes nothing but the controller's finalizer, and no edit of a user is reverted
(`class_edits_kept`).
-/

namespace ClassReconciler

/-! ## Writes of classes -/

namespace Cluster

/-- A class is given the controller's finalizer, which it lacked. -/
structure AddsFinalizer (s s' : Cluster) (c : NamespaceClass) : Prop where
  active : c.isDeleting = false
  lacked : c.hasFinalizer = false
  stored : s'.classes.find? c.nameAny =
    some (s.stampClass (c.withFinalizers (c.finalizers ++ [classFinalizer])))

/-- A class that is being deleted loses the controller's finalizer, and disappears if it has no
other. -/
structure ReleasesClass (s s' : Cluster) (c : NamespaceClass) : Prop where
  deleting : c.isDeleting = true
  held : c.hasFinalizer = true
  stored : s'.classes.find? c.nameAny =
    if c.otherFinalizers = [] then none
    else some (s.stampClass (c.withFinalizers c.otherFinalizers))

/-- A class of its own version is replaced, or nothing happens. -/
theorem replaceClass_cases (s : Cluster) (c : NamespaceClass) :
    (s.replaceClass c).2 = s ∨ ∃ stored, s.classes.find? c.nameAny = some stored ∧
      stored.metadata.resourceVersion = c.metadata.resourceVersion := by
  cases hs : s.classes.find? c.nameAny with
  | none => exact Or.inl (by simp only [replaceClass, hs])
  | some stored =>
    by_cases hv : stored.metadata.resourceVersion = c.metadata.resourceVersion
    · exact Or.inr ⟨stored, rfl, hv⟩
    · exact Or.inl (by simp only [replaceClass, hs, ne_eq, hv, not_false_eq_true, if_true])

/-- Only a class that is stored with the same version is replaced. -/
theorem exists_of_replaceClass_ok {s : Cluster} {c c' : NamespaceClass}
    (h : (s.replaceClass c).1 = .ok c') : ∃ stored, s.classes.find? c.nameAny = some stored ∧
      stored.metadata.resourceVersion = c.metadata.resourceVersion ∧ c' = s.accepted stored c := by
  cases hs : s.classes.find? c.nameAny with
  | none =>
    simp only [replaceClass, hs] at h
    cases h
  | some stored =>
    by_cases hv : stored.metadata.resourceVersion = c.metadata.resourceVersion
    · rw [replaceClass_of_version hs hv] at h
      exact ⟨stored, rfl, hv, (Except.ok.inj h).symm⟩
    · simp only [replaceClass, hs, ne_eq, hv, not_false_eq_true, if_true] at h
      cases h

theorem addsFinalizer_replaceClass {s : Cluster} {c : NamespaceClass}
    (hc : s.classes.find? c.nameAny = some c) (quiet : s.webhooks.find? c.nameAny = none)
    (active : c.isDeleting = false) (lacked : c.hasFinalizer = false) :
    s.AddsFinalizer (s.replaceClass c.addFinalizer.2).2 c := by
  rw [NamespaceClass.addFinalizer_of_not_hasFinalizer lacked]
  refine ⟨active, lacked, ?_⟩
  let c' := c.withFinalizers (c.finalizers ++ [classFinalizer])
  have hactive : c'.isDeleting = false := active
  have hreleased : isReleased c' = false := by rw [isReleased, hactive, Bool.false_and]
  refine (find?_replaceClass (c := c') hc rfl quiet rfl).trans ?_
  rw [hreleased]
  rfl

theorem releasesClass_replaceClass {s : Cluster} {c : NamespaceClass}
    (hc : s.classes.find? c.nameAny = some c) (quiet : s.webhooks.find? c.nameAny = none)
    (deleting : c.isDeleting = true) (held : c.hasFinalizer = true) :
    s.ReleasesClass (s.replaceClass c.removeFinalizer.2).2 c :=
  ⟨deleting, held, find?_replaceClass_removeFinalizer hc quiet deleting held⟩

/-- Replacing the status of a class changes that and nothing else of classes. -/
theorem replaceClassStatus_cases (s : Cluster) (c : NamespaceClass) :
    (s.replaceClassStatus c).2 = s ∨ ∃ stored, s.classes.find? c.nameAny = some stored ∧
      (s.replaceClassStatus c).2.classes.find? c.nameAny =
        some (s.stampClass { stored with status := c.status }) ∧
      ∀ d, d ≠ c.nameAny → (s.replaceClassStatus c).2.classes.find? d = s.classes.find? d := by
  cases hs : s.classes.find? c.nameAny with
  | none => exact Or.inl (by simp only [replaceClassStatus, hs])
  | some stored =>
    have hstores := storesClass_replaceClassStatus hs
    exact Or.inr ⟨stored, rfl, hstores.stored, hstores.others⟩

end Cluster

/-! ## Edits -/

/-- A class that is there was there before, with the same spec and the same deletion mark. -/
def Cluster.KeepsEdits (name : String) (s s' : Cluster) : Prop :=
  ∀ c', s'.classes.find? name = some c' → ∃ c, s.classes.find? name = some c ∧
    c'.spec = c.spec ∧ c'.metadata.deletionTimestamp = c.metadata.deletionTimestamp

namespace Cluster

theorem keepsEdits_of_find?_eq {name : String} {s s' : Cluster}
    (h : s'.classes.find? name = s.classes.find? name) : s.KeepsEdits name s' :=
  fun c' hc' => ⟨c', h ▸ hc', rfl, rfl⟩

theorem isPassage_keepsEdits (name : String) : IsPassage (KeepsEdits name) where
  refl s := keepsEdits_of_find?_eq rfl
  trans h h' c'' hc'' := by
    obtain ⟨c', hc', hspec', hmark'⟩ := h' c'' hc''
    obtain ⟨c, hc, hspec, hmark⟩ := h c' hc'
    exact ⟨c, hc, hspec'.trans hspec, hmark'.trans hmark⟩

theorem keepsEdits_of_stored {name : String} {s s' : Cluster} {c c' : NamespaceClass}
    (hc : s.classes.find? name = some c) (hc' : s'.classes.find? name = some c')
    (hspec : c'.spec = c.spec)
    (hmark : c'.metadata.deletionTimestamp = c.metadata.deletionTimestamp) :
    s.KeepsEdits name s' := by
  intro c'' hc''
  obtain rfl := Option.some.inj (hc'.symm.trans hc'')
  exact ⟨c, hc, hspec, hmark⟩

theorem AddsFinalizer.keepsEdits {s s' : Cluster} {c : NamespaceClass}
    (h : s.AddsFinalizer s' c) (hc : s.classes.find? c.nameAny = some c) :
    s.KeepsEdits c.nameAny s' :=
  keepsEdits_of_stored hc h.stored rfl rfl

theorem ReleasesClass.keepsEdits {s s' : Cluster} {c : NamespaceClass}
    (h : s.ReleasesClass s' c) (hc : s.classes.find? c.nameAny = some c) :
    s.KeepsEdits c.nameAny s' := by
  have hstored := h.stored
  split at hstored
  · intro c' hc'
    rw [hstored] at hc'
    cases hc'
  · exact keepsEdits_of_stored hc hstored rfl rfl

/-- A client who writes no class of a name edits none. -/
theorem keepsEdits_apply {name : String} {w : ClientWrite} (hw : w.className? ≠ some name)
    (s : Cluster) : s.KeepsEdits name (w.apply s) := by
  refine keepsEdits_of_find?_eq ?_
  have hne : ∀ {d : String}, some d ≠ some name → name ≠ d := fun h heq => h (heq ▸ rfl)
  cases w with
  | putNamespace | putObject | deleteNamespace => rfl
  | putClass c => exact (SortedMap.find?_insert _ _ _ _).trans (if_neg (hne hw))
  | deleteClass d => exact (SortedMap.find?_erase _ _ _).trans (if_neg (hne hw))
  | editClass d edit _ =>
    rw [ClientWrite.apply, editClass]
    cases s.classes.find? d with
    | none => rfl
    | some c => exact (SortedMap.find?_insert _ _ _ _).trans (if_neg (hne hw))
  | request c =>
    by_cases hspares : Effect.SparesClasses (.call c)
    · exact congrArg (·.find? name) (classes_meet_of_sparesClasses hspares s .served)
    cases c with
    | replaceClass c => exact s.find?_replaceClass_of_ne (hne hw)
    | replaceClassStatus c =>
      rcases s.replaceClassStatus_cases c with h | ⟨stored, -, -, hothers⟩
      · rw [ClientWrite.apply, perform, h]
      · exact hothers name (hne hw)
    | _ => exact absurd trivial hspares

end Cluster

/-! ## Reconciles among others -/

/-- Reconciles of any keys, which take turns with each other and with clients. -/
def Cluster.reconciling (s : Cluster) (turns : List (Turn Key)) :
    SharedCluster Key ReconcileResult :=
  ({ cluster := s } : SharedCluster Key ReconcileResult).run (fun key => (reconcile key).run) turns

/-- What a write of a class does, if anything, that is made after other calls of its task: the
class is the very one that the task has read, and it is given the controller's finalizer or loses
it. In that case it declares all that the task has deleted. -/
def ScheduledCall.WritesAsRead (e : ScheduledCall) (past : List ScheduledCall) (name : String) :
    Prop :=
  e.after = e.met ∨ ∃ stored, e.met.classes.find? name = some stored ∧
    (∃ read ∈ past, read.Finds name stored) ∧
    (∀ d, d ≠ name → e.after.classes.find? d = e.met.classes.find? d) ∧
    (e.met.AddsFinalizer e.after stored ∨ e.met.ReleasesClass e.after stored ∧
      ∀ d ∈ past, ∀ kind n x, d.call = .deleteObject kind n x →
        ∃ t ∈ declaredTemplates stored, t.kind = kind ∧ t.name = x)

theorem ScheduledCall.Finds.after_eq {r : ScheduledCall} {name : String} {c : NamespaceClass}
    (h : r.Finds name c) : r.after = r.met := by
  rw [ScheduledCall.after, h.call, h.fate]
  rfl

/-- A justified write of a class is made to the class that was read. -/
theorem writesAsRead_of_justified {e : ScheduledCall} {past : List ScheduledCall}
    {c : NamespaceClass} (hcall : e.call = .replaceClass c) (hfollows : e.MayFollow past)
    (hpast : ∀ r ∈ past, r.met.Reachable) (h : Justified past (.call (.replaceClass c))) :
    e.WritesAsRead past c.nameAny := by
  obtain ⟨r, hr, name, found, hfinds, hwritten⟩ := h
  have hname : found.nameAny = name := (hpast r hr).wellFormed.classes hfinds.found
  have hkept : c.nameAny = found.nameAny ∧
      c.metadata.resourceVersion = found.metadata.resourceVersion := by
    rcases hwritten with ⟨-, -, rfl⟩ | ⟨-, -, rfl, -⟩
    · exact ⟨found.nameAny_addFinalizer, found.resourceVersion_addFinalizer⟩
    · exact ⟨found.nameAny_removeFinalizer, found.resourceVersion_removeFinalizer⟩
  subst hname
  have hafter : e.after = e.met ∨ e.after = (e.met.replaceClass c).2 := by
    rw [ScheduledCall.after, hcall]
    exact e.met.meet_cluster (.replaceClass c) e.fate
  rcases hafter with hafter | hafter
  · exact Or.inl hafter
  rcases e.met.replaceClass_cases c with hsame | ⟨stored, hstored, hversion⟩
  · exact Or.inl (hafter.trans hsame)
  -- the version is the one that was read, and so is all else of the class
  have hlater : r.met.Later e.met := hfinds.after_eq ▸ hfollows.later r hr
  rw [hkept.1] at hstored
  obtain rfl : stored = found :=
    hlater.class_eq (hpast r hr) hfinds.found hstored (hversion.trans hkept.2)
  have quiet := hfollows.reachable.wellFormed.find?_webhooks stored.nameAny
  refine Or.inr ⟨stored, hkept.1 ▸ hstored, ⟨r, hr, hkept.1 ▸ hfinds⟩, fun d hd => ?_, ?_⟩
  · rw [hafter]
    exact e.met.find?_replaceClass_of_ne hd
  · rw [hafter]
    rcases hwritten with ⟨active, lacked, rfl⟩ | ⟨deleting, held, rfl, hdeleted⟩
    · exact Or.inl (Cluster.addsFinalizer_replaceClass hstored quiet active lacked)
    · exact Or.inr ⟨Cluster.releasesClass_replaceClass hstored quiet deleting held, hdeleted⟩

/-- A write of a status changes that and nothing else of classes, if anything. -/
theorem statusWrite_cases {e : ScheduledCall} {c : NamespaceClass}
    (hcall : e.call = .replaceClassStatus c) :
    e.after = e.met ∨ ∃ stored, e.met.classes.find? c.nameAny = some stored ∧
      e.after.classes.find? c.nameAny =
        some (e.met.stampClass { stored with status := c.status }) ∧
      ∀ d, d ≠ c.nameAny → e.after.classes.find? d = e.met.classes.find? d := by
  have hafter : e.after = e.met ∨ e.after = (e.met.replaceClassStatus c).2 := by
    rw [ScheduledCall.after, hcall]
    exact e.met.meet_cluster (.replaceClassStatus c) e.fate
  rcases hafter with hafter | hafter <;> rw [hafter]
  · exact Or.inl rfl
  · exact e.met.replaceClassStatus_cases c

section Run

variable {s : Cluster} (hs : s.Reachable) (turns : List (Turn Key))

include hs

theorem follows_reconciling :
    (s.reconciling turns).Follows (fun _ => True) (fun _ => Justified)
      (fun key => Concluded key.name) :=
  SharedCluster.follows_run hs reconcile_justified fun _ _ _ => trivial

/-- Every write of a class is made to the class that the task has read. -/
theorem writesAsRead_of_log {before later : List TaskCall} {e : TaskCall} {c : NamespaceClass}
    (hlog : (s.reconciling turns).log = before ++ e :: later) (hcall : e.call = .replaceClass c) :
    e.WritesAsRead (callsOf before e.task) c.nameAny := by
  obtain ⟨key, -, -, hjustified⟩ := (follows_reconciling hs turns).log hlog
  obtain ⟨hfollows, hpast⟩ := (SharedCluster.ordered_run s turns).mayFollow hs hlog e.task
  exact writesAsRead_of_justified hcall hfollows hpast (hcall ▸ hjustified)

/-- No call of a reconcile reverts an edit. -/
theorem keepsEdits_of_log (name : String) {e : TaskCall} (he : e ∈ (s.reconciling turns).log) :
    e.met.KeepsEdits name e.after := by
  obtain ⟨before, later, hlog⟩ := List.append_of_mem he
  by_cases hspares : Effect.SparesClasses (.call e.call)
  · refine Cluster.keepsEdits_of_find?_eq ?_
    rw [ScheduledCall.after, Cluster.classes_meet_of_sparesClasses hspares]
  cases hcall : e.call with
  | replaceClass c =>
    rcases writesAsRead_of_log hs turns hlog hcall with
      hsame | ⟨stored, hstored, -, hothers, hwrite⟩
    · rw [hsame]
      exact (Cluster.isPassage_keepsEdits name).refl _
    have hreachable : e.met.Reachable := ((SharedCluster.ordered_run s turns).met e he).reachable hs
    have hname : stored.nameAny = c.nameAny := hreachable.wellFormed.classes hstored
    by_cases hd : name = c.nameAny
    · rw [hd, ← hname]
      rcases hwrite with hadds | ⟨hreleases, -⟩
      · exact hadds.keepsEdits (hname ▸ hstored)
      · exact hreleases.keepsEdits (hname ▸ hstored)
    · exact Cluster.keepsEdits_of_find?_eq (hothers name hd)
  | replaceClassStatus c =>
    rcases statusWrite_cases hcall with hsame | ⟨stored, hstored, hstatus, hothers⟩
    · rw [hsame]
      exact (Cluster.isPassage_keepsEdits name).refl _
    by_cases hd : name = c.nameAny
    · rw [hd]
      exact Cluster.keepsEdits_of_stored hstored hstatus rfl rfl
    · exact Cluster.keepsEdits_of_find?_eq (hothers name hd)
  | _ => exact absurd (hcall ▸ trivial) hspares

/-- Whatever turns reconciles and clients take, no reconcile reverts an edit of a class. Each of
its writes of a class is made to the very class that the reconcile has read, and adds or removes
the controller's finalizer and nothing else; where it removes the finalizer, everything that the
reconcile has deleted is declared by that class. Each write of a status changes nothing but the
status. So as long as no client writes a class, it keeps its spec and its deletion mark. -/
theorem class_edits_kept :
    (∀ before e later c, (s.reconciling turns).log = before ++ e :: later →
      e.call = .replaceClass c → e.WritesAsRead (callsOf before e.task) c.nameAny) ∧
    (∀ e ∈ (s.reconciling turns).log, ∀ c, e.call = .replaceClassStatus c →
      e.after = e.met ∨ ∃ stored, e.met.classes.find? c.nameAny = some stored ∧
        e.after.classes.find? c.nameAny =
          some (e.met.stampClass { stored with status := c.status }) ∧
        ∀ d, d ≠ c.nameAny → e.after.classes.find? d = e.met.classes.find? d) ∧
    ∀ earlier later name, turns = earlier ++ later →
      (∀ w, .write w ∈ later → w.className? ≠ some name) →
      (s.reconciling earlier).cluster.KeepsEdits name (s.reconciling turns).cluster := by
  refine ⟨fun before e later c => writesAsRead_of_log hs turns,
    fun e _ c => statusWrite_cases, ?_⟩
  rintro earlier later name rfl hlater
  have hrun : s.reconciling (earlier ++ later) =
      (s.reconciling earlier).run (fun key => (reconcile key).run) later :=
    SharedCluster.run_append _ earlier later
  rw [hrun]
  refine SharedCluster.passes_run (Cluster.isPassage_keepsEdits name)
    (fun w hw s => Cluster.keepsEdits_apply (hlater w hw) s) fun e he => ?_
  rw [← hrun] at he
  exact keepsEdits_of_log hs _ name he

end Run

/-- A reconcile adds the finalizer to a class, a user edits the class, and the reconcile goes on to
record what it applies: the edit stays. -/
theorem class_edits_kept_sample :
    let s := Cluster.fresh [Cluster.sampleEntry "first"]
    let edit : ClientWrite := .editClass "gold"
      (fun c => { c with spec := ⟨[Cluster.sampleEntry "edited"]⟩ }) fun _ => rfl
    let earlier : List (Turn Key) :=
      [.start (.ofClass "gold"), .advance 0 .served, .advance 0 .served, .write edit]
    let turns := earlier ++ List.replicate 4 (.advance 0 .served)
    s.Reachable ∧ ∃ before e later c c', (s.reconciling turns).log = before ++ e :: later ∧
      e.call = .replaceClass c ∧ e.Succeeded ∧
      e.WritesAsRead (callsOf before e.task) c.nameAny ∧
      (s.reconciling turns).cluster.statusWrites = 1 ∧
      (s.reconciling turns).cluster.classes.find? "gold" = some c' ∧
      c'.spec.resources = [Cluster.sampleEntry "edited"] := by
  intro s edit earlier turns
  have hs : s.Reachable := Cluster.reachable_fresh _
  obtain ⟨hwrites, -, hkept⟩ := class_edits_kept hs turns
  obtain ⟨d, e, c, hlog, hcall, hdone⟩ : ∃ d e c, (s.reconciling earlier).log = [d, e] ∧
      e.call = .replaceClass c ∧ e.Succeeded := ⟨_, _, _, rfl, rfl, rfl, _, rfl⟩
  obtain ⟨later, hlog⟩ : ∃ later, (s.reconciling turns).log = [d] ++ e :: later := by
    have hrun : s.reconciling turns = _ := SharedCluster.run_append _ earlier _
    obtain ⟨later, hlater⟩ := (s.reconciling earlier).log_prefix_run (List.replicate 4 _)
    exact ⟨later, hrun ▸ (hlog ▸ hlater).symm⟩
  have hrecorded : (s.reconciling turns).cluster.statusWrites = 1 := by decide +kernel
  have hsome : ((s.reconciling turns).cluster.classes.find? "gold").isSome = true := by
    decide +kernel
  obtain ⟨c', hc'⟩ := Option.isSome_iff_exists.1 hsome
  obtain ⟨c₀, hc₀, hedited⟩ : ∃ c₀, (s.reconciling earlier).cluster.classes.find? "gold" = some c₀ ∧
      c₀.spec.resources = [Cluster.sampleEntry "edited"] := ⟨_, rfl, rfl⟩
  obtain ⟨c₁, hc₁, hspec, -⟩ := hkept earlier _ "gold" rfl (by simp) c' hc'
  obtain rfl := Option.some.inj (hc₀.symm.trans hc₁)
  exact ⟨hs, [d], e, later, c, c', hlog, hcall, hdone, hwrites [d] e later c hlog hcall,
    hrecorded, hc', (congrArg NamespaceClassSpec.resources hspec).trans hedited⟩

end ClassReconciler
