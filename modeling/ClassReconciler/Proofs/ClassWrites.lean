import ClassReconciler.Proofs.Course
import ClassReconciler.Proofs.Reachable

/-!
# Writes of classes

A reconcile writes a class in three places: it adds the finalizer, it records what was
applied, and it removes the finalizer. Each of them writes the class as it was read, so that
its version is the stored one. `ensureFinalizer_ensures` and `writeRecord_ensures` say what is
stored after the first two, whatever becomes of the calls: all else is as before, and the
class differs only in its finalizers or in its record.
-/

namespace ClassReconciler

/-- Nothing but the class of a name differs, which is stored as `c`. -/
structure Cluster.StoresClass (s s' : Cluster) (name : String) (c : NamespaceClass) : Prop where
  namespaces : s'.namespaces = s.namespaces
  objects : s'.objects = s.objects
  others : ∀ d, d ≠ name → s'.classes.find? d = s.classes.find? d
  stored : s'.classes.find? name = some c

/-- The class is as it was, perhaps with the controller's finalizer behind the others. -/
structure NamespaceClass.GuardedFrom (c c' : NamespaceClass) : Prop where
  nameAny : c'.nameAny = c.nameAny
  isDeleting : c'.isDeleting = c.isDeleting
  finalizers : c'.finalizers = c.finalizers ∨
    c.hasFinalizer = false ∧ c'.finalizers = c.finalizers ++ [classFinalizer]

namespace NamespaceClass

theorem GuardedFrom.refl (c : NamespaceClass) : c.GuardedFrom c := ⟨rfl, rfl, Or.inl rfl⟩

@[simp] theorem finalizers_withFinalizers (c : NamespaceClass) (fs : List String) :
    (c.withFinalizers fs).finalizers = fs := rfl

theorem addFinalizer_of_hasFinalizer {c : NamespaceClass} (h : c.hasFinalizer = true) :
    c.addFinalizer = (false, c) := by
  simp [addFinalizer, h]

theorem addFinalizer_of_not_hasFinalizer {c : NamespaceClass} (h : c.hasFinalizer = false) :
    c.addFinalizer = (true, c.withFinalizers (c.finalizers ++ [classFinalizer])) := by
  simp [addFinalizer, h]

theorem hasFinalizer_addFinalizer (c : NamespaceClass) : c.addFinalizer.2.hasFinalizer = true := by
  cases h : c.hasFinalizer with
  | true => rw [addFinalizer_of_hasFinalizer h, h]
  | false => simp [addFinalizer_of_not_hasFinalizer h, hasFinalizer]

theorem removeFinalizer_of_hasFinalizer {c : NamespaceClass} (h : c.hasFinalizer = true) :
    c.removeFinalizer = (true, c.withFinalizers (c.finalizers.filter (· ≠ classFinalizer))) := by
  simp [removeFinalizer, h]

theorem removeFinalizer_of_not_hasFinalizer {c : NamespaceClass} (h : c.hasFinalizer = false) :
    c.removeFinalizer = (false, c) := by
  simp [removeFinalizer, h]

theorem hasFinalizer_removeFinalizer (c : NamespaceClass) :
    c.removeFinalizer.2.hasFinalizer = false := by
  cases h : c.hasFinalizer with
  | true => simp [removeFinalizer_of_hasFinalizer h, hasFinalizer]
  | false => rw [removeFinalizer_of_not_hasFinalizer h, h]

theorem nameAny_removeFinalizer (c : NamespaceClass) : c.removeFinalizer.2.nameAny = c.nameAny := by
  rw [removeFinalizer]
  split <;> rfl

theorem resourceVersion_removeFinalizer (c : NamespaceClass) :
    c.removeFinalizer.2.metadata.resourceVersion = c.metadata.resourceVersion := by
  rw [removeFinalizer]
  split <;> rfl

theorem isDeleting_removeFinalizer (c : NamespaceClass) :
    c.removeFinalizer.2.isDeleting = c.isDeleting := by
  rw [removeFinalizer]
  split <;> rfl

theorem nameAny_addFinalizer (c : NamespaceClass) : c.addFinalizer.2.nameAny = c.nameAny := by
  rw [addFinalizer]
  split <;> rfl

theorem resourceVersion_addFinalizer (c : NamespaceClass) :
    c.addFinalizer.2.metadata.resourceVersion = c.metadata.resourceVersion := by
  rw [addFinalizer]
  split <;> rfl

theorem isDeleting_addFinalizer (c : NamespaceClass) :
    c.addFinalizer.2.isDeleting = c.isDeleting := by
  rw [addFinalizer]
  split <;> rfl

theorem spec_addFinalizer (c : NamespaceClass) : c.addFinalizer.2.spec = c.spec := by
  rw [addFinalizer]
  split <;> rfl

theorem status_addFinalizer (c : NamespaceClass) : c.addFinalizer.2.status = c.status := by
  rw [addFinalizer]
  split <;> rfl

end NamespaceClass

namespace Cluster

theorem StoresClass.refl {s : Cluster} {name : String} {c : NamespaceClass}
    (h : s.classes.find? name = some c) : s.StoresClass s name c :=
  ⟨rfl, rfl, fun _ _ => rfl, h⟩

theorem StoresClass.namespacesForClass {s s' : Cluster} {name : String} {c : NamespaceClass}
    (h : s.StoresClass s' name c) (className : String) :
    s'.namespacesForClass className = s.namespacesForClass className := by
  rw [Cluster.namespacesForClass, h.namespaces, Cluster.namespacesForClass]

theorem storesClass_insert {s s' : Cluster} {name : String} {c : NamespaceClass}
    (hnamespaces : s'.namespaces = s.namespaces) (hobjects : s'.objects = s.objects)
    (hclasses : s'.classes = s.classes.insert name c) : s.StoresClass s' name c where
  namespaces := hnamespaces
  objects := hobjects
  others d hd := by rw [hclasses, SortedMap.find?_insert, if_neg hd]
  stored := by rw [hclasses, SortedMap.find?_insert, if_pos rfl]

section Replaced

variable {s : Cluster} {stored c : NamespaceClass} (hs : s.classes.find? c.nameAny = some stored)
  (hv : stored.metadata.resourceVersion = c.metadata.resourceVersion)
include hs hv

/-- A call that replaces a class as it was read succeeds. -/
theorem perform_replaceClass : s.perform (.replaceClass c) =
    (.ok (s.accepted stored c), (s.replaceClass c).2) := by
  rw [perform, replaceClass_of_version hs hv]
  rfl

/-- A class that is not being deleted is stored when it is replaced. -/
theorem storesClass_replaceClass (active : c.isDeleting = false) :
    s.StoresClass (s.replaceClass c).2 c.nameAny (s.accepted stored c) := by
  have hactive : (s.accepted stored c).isDeleting = false := by
    rw [NamespaceClass.isDeleting, accepted_metadata]
    exact active
  have hreleased : isReleased (s.accepted stored c) = false := by
    rw [isReleased, hactive, Bool.false_and]
  rw [replaceClass_of_version hs hv]
  exact storesClass_insert rfl rfl (by simp only [hreleased]; rfl)

end Replaced

/-- A class as it is stored by the next write. -/
def stampClass (s : Cluster) (c : NamespaceClass) : NamespaceClass :=
  { c with metadata := s.stamp c.metadata }

/-- What is stored when a class is replaced that keeps its status. -/
theorem find?_replaceClass {s : Cluster} {stored c : NamespaceClass}
    (hs : s.classes.find? c.nameAny = some stored)
    (hv : stored.metadata.resourceVersion = c.metadata.resourceVersion)
    (quiet : s.webhooks.find? c.nameAny = none) (hstatus : c.status = stored.status) :
    (s.replaceClass c).2.classes.find? c.nameAny =
      if isReleased c then none else some (s.stampClass c) := by
  have haccepted : s.accepted stored c = s.stampClass c := by
    rw [accepted_of_quiet quiet, ← hstatus]
    rfl
  have hreleased : isReleased (s.stampClass c) = isReleased c := rfl
  rw [replaceClass_of_version hs hv, haccepted, hreleased]
  cases isReleased c with
  | true => exact (SortedMap.find?_erase _ _ _).trans (if_pos rfl)
  | false => exact (SortedMap.find?_insert _ _ _ _).trans (if_pos rfl)

/-- Replacing a class changes no class of another name. -/
theorem find?_replaceClass_of_ne (s : Cluster) {c : NamespaceClass} {d : String}
    (hd : d ≠ c.nameAny) : (s.replaceClass c).2.classes.find? d = s.classes.find? d := by
  cases hs : s.classes.find? c.nameAny with
  | none => simp only [Cluster.replaceClass, hs]
  | some stored =>
    by_cases hv : stored.metadata.resourceVersion = c.metadata.resourceVersion
    · simp only [replaceClass_of_version hs hv]
      split
      · rw [SortedMap.find?_erase, if_neg hd]
      · rw [SortedMap.find?_insert, if_neg hd]
    · simp only [Cluster.replaceClass, hs, ne_eq, hv, not_false_eq_true, if_true]

theorem namespaces_replaceClass (s : Cluster) (c : NamespaceClass) :
    (s.replaceClass c).2.namespaces = s.namespaces := by
  rw [replaceClass]
  split
  · rfl
  · split <;> rfl

theorem objects_replaceClass (s : Cluster) (c : NamespaceClass) :
    (s.replaceClass c).2.objects = s.objects := by
  rw [replaceClass]
  split
  · rfl
  · split <;> rfl

theorem perform_replaceClassStatus {s : Cluster} {stored c : NamespaceClass}
    (hs : s.classes.find? c.nameAny = some stored) : s.perform (.replaceClassStatus c) =
      (.ok { stored with metadata := s.stamp stored.metadata, status := c.status },
        (s.replaceClassStatus c).2) := by
  rw [perform, replaceClassStatus_of_stored hs]
  rfl

/-- What is stored when the status of a class is replaced. -/
theorem storesClass_replaceClassStatus {s : Cluster} {stored c : NamespaceClass}
    (hs : s.classes.find? c.nameAny = some stored) :
    s.StoresClass (s.replaceClassStatus c).2 c.nameAny
      { stored with metadata := s.stamp stored.metadata, status := c.status } := by
  rw [replaceClassStatus_of_stored hs]
  exact storesClass_insert rfl rfl rfl

end Cluster

namespace NamespaceClass

/-- What is stored once the finalizer is added to a class that lacked it. -/
theorem guardedFrom_accepted (s : Cluster) {c : NamespaceClass} (h : c.hasFinalizer = false) :
    c.GuardedFrom (s.accepted c c.addFinalizer.2) := by
  rw [addFinalizer_of_not_hasFinalizer h]
  refine ⟨s.accepted_nameAny c _, ?_, Or.inr ⟨h, ?_⟩⟩
  · rw [isDeleting, Cluster.accepted_metadata]
    rfl
  · rw [finalizers, Cluster.accepted_metadata]
    rfl

end NamespaceClass

/-! ## Adding the finalizer -/

theorem ensureFinalizer_of_not_hasFinalizer {c : NamespaceClass} (h : c.hasFinalizer = false) :
    ensureFinalizer c = callOrFail (.replaceClass c.addFinalizer.2) := by
  rw [ensureFinalizer, NamespaceClass.addFinalizer_of_not_hasFinalizer h]

/-- Nothing but a class differs, which is guarded from what it was; where no webhook meets its
write, only its metadata differs. -/
structure Cluster.Guards (s s' : Cluster) (c c' : NamespaceClass) : Prop extends
    s.StoresClass s' c.nameAny c', c.GuardedFrom c' where
  unamended : s.webhooks.find? c.nameAny = none → c'.spec = c.spec ∧ c'.status = c.status
  metadata : ∃ version, c'.metadata = { c.metadata with resourceVersion := version } ∨
    c'.metadata = { c.addFinalizer.2.metadata with resourceVersion := version }

theorem Cluster.Guards.refl {s : Cluster} {c : NamespaceClass}
    (hc : s.classes.find? c.nameAny = some c) : s.Guards s c c :=
  ⟨.refl hc, .refl c, fun _ => ⟨rfl, rfl⟩, _, Or.inl rfl⟩

/-- The class is guarded once the finalizer is added to it. -/
theorem Cluster.guards_replaceClass {s : Cluster} {c : NamespaceClass}
    (hc : s.classes.find? c.nameAny = some c) (active : c.isDeleting = false)
    (h : c.hasFinalizer = false) :
    s.Guards (s.replaceClass c.addFinalizer.2).2 c (s.accepted c c.addFinalizer.2) := by
  have hname := c.nameAny_addFinalizer
  have hstores := storesClass_replaceClass (hname ▸ hc) c.resourceVersion_addFinalizer.symm
    (c.isDeleting_addFinalizer.trans active)
  rw [hname] at hstores
  refine ⟨hstores, NamespaceClass.guardedFrom_accepted s h, fun quiet => ?_,
    _, Or.inr (s.accepted_metadata c _)⟩
  rw [accepted_of_quiet (hname ▸ quiet)]
  exact ⟨c.spec_addFinalizer, rfl⟩

/-- The finalizer of a class that is not being deleted is added or the class stays as it is. -/
theorem ensureFinalizer_ensures {rule : FateRule} {asks : Cluster → Effect → Prop} {s : Cluster}
    {c : NamespaceClass} (hc : s.classes.find? c.nameAny = some c) (active : c.isDeleting = false)
    (hasks : asks s (.call (.replaceClass c.addFinalizer.2))) :
    (ensureFinalizer c).run.Ensures rule.Answers asks s fun r s' =>
      ∃ c', s.Guards s' c c' ∧ ∀ a, r = .ok a → a = c' := by
  cases hf : c.hasFinalizer with
  | true =>
    rw [ensureFinalizer, NamespaceClass.addFinalizer_of_hasFinalizer hf]
    exact ⟨c, .refl hc, fun a ha => (Except.ok.inj ha).symm⟩
  | false =>
    rw [ensureFinalizer_of_not_hasFinalizer hf]
    refine (ensures_callOrFail (.replaceClass c.addFinalizer.2) s _).2 ⟨hasks, fun f _ => ?_⟩
    have hanswer := Cluster.perform_replaceClass (c.nameAny_addFinalizer ▸ hc)
      c.resourceVersion_addFinalizer.symm
    have hguards := Cluster.guards_replaceClass hc active hf
    -- the write is refused, or the class is stored with the finalizer
    cases f with
    | refused e =>
      refine ⟨c, .refl hc, fun a ha => ?_⟩
      cases ha
    | lost e =>
      refine ⟨_, hguards, fun a ha => ?_⟩
      cases ha
    | served =>
      refine ⟨_, hguards, fun a ha => ?_⟩
      rw [Cluster.meet, hanswer] at ha
      exact (Except.ok.inj ha).symm

/-! ## Writing the record -/

theorem writeRecord_asks (c : NamespaceClass) (record : List Json) :
    (writeRecord c record).run.Asks fun e =>
      e = .call (.replaceClassStatus { c with status := some ⟨record⟩ }) := by
  rw [writeRecord]
  split
  · trivial
  · refine ⟨rfl, fun r => ?_⟩
    cases r <;> trivial

/-- The class of a stored record differs from what it was in its version and its record. -/
theorem writeRecord_stores {rule : FateRule} {asks : Cluster → Effect → Prop} {s : Cluster}
    {c : NamespaceClass} (hc : s.classes.find? c.nameAny = some c) (record : List Json)
    (hasks : asks s (.call (.replaceClassStatus { c with status := some ⟨record⟩ }))) :
    (writeRecord c record).run.Ensures rule.Answers asks s fun _ s' =>
      ∃ c', s.StoresClass s' c.nameAny c' ∧ (c' = c ∨ ∃ version, c' = { c with
        metadata := { c.metadata with resourceVersion := version }
        status := some ⟨record⟩ }) := by
  rw [writeRecord]
  split
  · exact ⟨c, .refl hc, Or.inl rfl⟩
  · refine (ensures_exceptT_bind _ _ s _).2 ((ensures_callOrFail _ s _).2 ⟨hasks, fun f _ => ?_⟩)
    have hstored := Cluster.storesClass_replaceClassStatus
      (c := { c with status := some ⟨record⟩ }) hc
    cases f with
    | refused e => exact ⟨c, .refl hc, Or.inl rfl⟩
    | lost e => exact ⟨_, hstored, Or.inr ⟨_, rfl⟩⟩
    | served =>
      rw [Cluster.meet, Cluster.perform_replaceClassStatus
        (c := { c with status := some ⟨record⟩ }) hc]
      exact ⟨_, hstored, Or.inr ⟨_, rfl⟩⟩

/-- The record of a stored class is written or stays as it is. -/
theorem writeRecord_ensures {rule : FateRule} {asks : Cluster → Effect → Prop} {s : Cluster}
    {c : NamespaceClass} (hc : s.classes.find? c.nameAny = some c) (record : List Json)
    (hasks : asks s (.call (.replaceClassStatus { c with status := some ⟨record⟩ }))) :
    (writeRecord c record).run.Ensures rule.Answers asks s fun _ s' =>
      ∃ c', s.StoresClass s' c.nameAny c' ∧ c'.finalizers = c.finalizers ∧ c'.spec = c.spec ∧
        (c'.status = c.status ∨ c'.status = some ⟨record⟩) := by
  refine (writeRecord_stores hc record hasks).imp ?_
  rintro _ s' ⟨c', hstores, rfl | ⟨version, rfl⟩⟩
  · exact ⟨_, hstores, rfl, rfl, Or.inl rfl⟩
  · exact ⟨_, hstores, rfl, rfl, Or.inr rfl⟩

end ClassReconciler
