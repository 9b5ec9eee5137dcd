import ClassReconciler.Cluster.Shared
import ClassReconciler.Proofs.Reachable
import ClassReconciler.Text.Digit

/-!
# Versions

Every write stamps a version that no write before it has stamped. A write changes what is stored
at one place (`Cluster.wrote_apply`), or only removes.

A cluster that has come about from another one is `Later`: of each class and each object it holds
the very revision that was there, or one whose version is newer than all of the other cluster. This
is kept by every write of a client (`Cluster.later_apply`) and by every call, whatever its fate
(`Cluster.later_meet`). So a version stands for a revision: a class or an object that is found
again with the version it had is the one that was there (`Later.class_eq`, `Later.object_eq`).
-/

namespace ClassReconciler

theorem toString_nat_injective {m n : Nat} (h : toString m = toString n) : m = n := by
  have hdigits : Nat.toDigits 10 m = Nat.toDigits 10 n := String.ofList_injective h
  rw [← digitsValue_toDigits m, hdigits, digitsValue_toDigits]

/-- The version was stamped when the count of versions stood above `low`, and at most at `high`. -/
def Metadata.StampedIn (m : Metadata) (low high : Nat) : Prop :=
  ∃ v, low < v ∧ v ≤ high ∧ m.resourceVersion = some (toString v)

theorem Metadata.StampedIn.mono {m : Metadata} {low high low' high' : Nat}
    (h : m.StampedIn low high) (hlow : low' ≤ low) (hhigh : high ≤ high') :
    m.StampedIn low' high' := by
  obtain ⟨v, hl, hh, hv⟩ := h
  exact ⟨v, by omega, by omega, hv⟩

/-- Versions that were stamped one after the other differ. -/
theorem Metadata.StampedIn.ne {m m' : Metadata} {low middle high : Nat}
    (h : m.StampedIn low middle) (h' : m'.StampedIn middle high) :
    m'.resourceVersion ≠ m.resourceVersion := by
  obtain ⟨v, -, hle, hv⟩ := h
  obtain ⟨v', hlt, -, hv'⟩ := h'
  intro hsame
  rw [hv, hv'] at hsame
  have := toString_nat_injective (Option.some.inj hsame)
  omega

/-! ## Places -/

/-- Something that is stored. -/
inductive Stored where
  | ofNamespace (ns : Namespace)
  | ofClass (c : NamespaceClass)
  | ofObject (o : Manifest)

/-- Where something is stored. -/
inductive Place where
  | ofNamespace (name : String)
  | ofClass (name : String)
  | ofObject (key : ObjectKey)
deriving DecidableEq

namespace Stored

def metadata : Stored → Metadata
  | .ofNamespace ns => ns.metadata
  | .ofClass c => c.metadata
  | .ofObject o => o.metadata

def version? (x : Stored) : Option String := x.metadata.resourceVersion

/-- The place that belongs to something by its own fields. -/
def place : Stored → Place
  | .ofNamespace ns => .ofNamespace ns.nameAny
  | .ofClass c => .ofClass c.nameAny
  | .ofObject o => .ofObject (ObjectKey.of o)

end Stored

namespace Cluster

/-- What is stored at a place. -/
def storedAt (s : Cluster) : Place → Option Stored
  | .ofNamespace name => (s.namespaces.find? name).map .ofNamespace
  | .ofClass name => (s.classes.find? name).map .ofClass
  | .ofObject key => (s.objects.find? key).map .ofObject

theorem storedAt_insert_class {s s' : Cluster} {name : String} {c : NamespaceClass}
    (hnamespaces : s'.namespaces = s.namespaces) (hclasses : s'.classes = s.classes.insert name c)
    (hobjects : s'.objects = s.objects) (q : Place) :
    s'.storedAt q = if q = .ofClass name then some (.ofClass c) else s.storedAt q := by
  cases q with
  | ofNamespace d => rw [if_neg nofun, storedAt, storedAt, hnamespaces]
  | ofObject k => rw [if_neg nofun, storedAt, storedAt, hobjects]
  | ofClass d =>
    rw [storedAt, storedAt, hclasses, SortedMap.find?_insert]
    by_cases hd : d = name <;> simp [hd]

/-! ## Writes -/

theorem stampedIn_stamp (s : Cluster) (m : Metadata) :
    (s.stamp m).StampedIn s.version s.nextVersion :=
  ⟨s.nextVersion, Nat.lt_succ_self _, Nat.le_refl _, rfl⟩

/-- What one write does: some of what was stored is gone, or one place holds something new that
has the next version. What is new lies at its own place, or where something of its name was. -/
inductive Wrote (s s' : Cluster) : Prop where
  | removed (version : s.version ≤ s'.version)
    (kept : ∀ p x, s'.storedAt p = some x → s.storedAt p = some x)
  | stored (p : Place) (x : Stored) (version : s'.version = s.nextVersion)
    (stamped : x.metadata.StampedIn s.version s.nextVersion)
    (placed : x.place = p ∨ ∃ y, s.storedAt p = some y ∧ x.place = y.place)
    (stored : ∀ q, s'.storedAt q = if q = p then some x else s.storedAt q)

theorem Wrote.refl (s : Cluster) : s.Wrote s := .removed (Nat.le_refl _) fun _ _ => id

/-- A write that stores nothing. -/
theorem wrote_of_found {s s' : Cluster} (version : s.version ≤ s'.version)
    (hnamespaces : ∀ {name ns}, s'.namespaces.find? name = some ns →
      s.namespaces.find? name = some ns)
    (hclasses : ∀ {name c}, s'.classes.find? name = some c → s.classes.find? name = some c)
    (hobjects : ∀ {k o}, s'.objects.find? k = some o → s.objects.find? k = some o) :
    s.Wrote s' := by
  refine .removed version fun p x hx => ?_
  cases p with
  | ofNamespace name =>
    obtain ⟨ns, hns, rfl⟩ := Option.map_eq_some_iff.1 hx
    exact Option.map_eq_some_iff.2 ⟨ns, hnamespaces hns, rfl⟩
  | ofClass name =>
    obtain ⟨c, hc, rfl⟩ := Option.map_eq_some_iff.1 hx
    exact Option.map_eq_some_iff.2 ⟨c, hclasses hc, rfl⟩
  | ofObject k =>
    obtain ⟨o, ho, rfl⟩ := Option.map_eq_some_iff.1 hx
    exact Option.map_eq_some_iff.2 ⟨o, hobjects ho, rfl⟩

theorem storedAt_writeObject (s : Cluster) (o : Manifest) (q : Place) :
    (s.writeObject o).2.storedAt q =
      if q = .ofObject (ObjectKey.of o) then some (.ofObject (s.writeObject o).1)
      else s.storedAt q := by
  cases q with
  | ofNamespace name | ofClass name => rfl
  | ofObject k =>
    rw [storedAt, writeObject, SortedMap.find?_insert, storedAt]
    by_cases hk : k = ObjectKey.of o <;> simp [hk]

theorem wrote_writeObject (s : Cluster) (o : Manifest) : s.Wrote (s.writeObject o).2 :=
  .stored _ (.ofObject (s.writeObject o).1) rfl (s.stampedIn_stamp o.metadata) (Or.inl rfl)
    (s.storedAt_writeObject o)

/-- A class is stored under its own name, or under that of a class of its name. -/
theorem wrote_insert_class {s s' : Cluster} {name : String} {c : NamespaceClass} {m : Metadata}
    (hclasses : s'.classes = s.classes.insert name c) (hm : c.metadata = s.stamp m)
    (hname : c.nameAny = name ∨
      ∃ stored, s.classes.find? name = some stored ∧ c.nameAny = stored.nameAny)
    (hversion : s'.version = s.nextVersion) (hnamespaces : s'.namespaces = s.namespaces)
    (hobjects : s'.objects = s.objects) : s.Wrote s' := by
  refine .stored (.ofClass name) (.ofClass c) hversion ?_ ?_
    (storedAt_insert_class hnamespaces hclasses hobjects)
  · rw [Stored.metadata, hm]
    exact s.stampedIn_stamp m
  · rcases hname with hname | ⟨stored, hstored, hname⟩
    · exact Or.inl (congrArg Place.ofClass hname)
    · exact Or.inr ⟨.ofClass stored, by rw [storedAt, hstored]; rfl, congrArg Place.ofClass hname⟩

theorem wrote_replaceClass (s : Cluster) (c : NamespaceClass) :
    s.Wrote (s.replaceClass c).2 := by
  cases hs : s.classes.find? c.nameAny with
  | none => simpa only [Cluster.replaceClass, hs] using Wrote.refl s
  | some stored =>
    by_cases hv : stored.metadata.resourceVersion = c.metadata.resourceVersion
    · rw [replaceClass_of_version hs hv]
      simp only
      split
      · exact wrote_of_found (Nat.le_succ _) id SortedMap.find?_of_erase id
      · exact wrote_insert_class rfl (s.accepted_metadata stored c)
          (Or.inl (s.accepted_nameAny stored c)) rfl rfl rfl
    · simpa only [Cluster.replaceClass, hs, ne_eq, hv, not_false_eq_true, if_true] using
        Wrote.refl s

theorem wrote_replaceClassStatus (s : Cluster) (c : NamespaceClass) :
    s.Wrote (s.replaceClassStatus c).2 := by
  cases hs : s.classes.find? c.nameAny with
  | none => simpa only [Cluster.replaceClassStatus, hs] using Wrote.refl s
  | some stored =>
    rw [replaceClassStatus_of_stored hs]
    exact wrote_insert_class rfl rfl (Or.inr ⟨stored, hs, rfl⟩) rfl rfl rfl

theorem wrote_editClass {s s' : Cluster} {name : String} {edit : NamespaceClass → NamespaceClass}
    (hedit : ∀ c, (edit c).nameAny = c.nameAny) (h : s.editClass name edit = some s') :
    s.Wrote s' := by
  obtain ⟨c, hc, rfl⟩ := Option.map_eq_some_iff.1 h
  exact wrote_insert_class rfl rfl (Or.inr ⟨c, hc, hedit c⟩) rfl rfl rfl

theorem wrote_perform (s : Cluster) (c : StoreCall) : s.Wrote (s.perform c).2 := by
  cases c with
  | getNamespace | getClass | namespacesForClass | getObject => exact .refl s
  | replaceClass c => exact s.wrote_replaceClass c
  | replaceClassStatus c => exact s.wrote_replaceClassStatus c
  | deleteObject kind n name => exact wrote_of_found (Nat.le_refl _) id id SortedMap.find?_of_erase
  | createObject kind o =>
    simp only [perform, createObject]
    split
    · exact .refl s
    · exact s.wrote_writeObject o
  | replaceObject kind o =>
    simp only [perform, replaceObject]
    split
    · exact .refl s
    · split
      · exact .refl s
      · exact s.wrote_writeObject o

theorem wrote_apply (s : Cluster) (w : ClientWrite) : s.Wrote (w.apply s) := by
  cases w with
  | putNamespace ns =>
    refine .stored (.ofNamespace ns.nameAny)
      (.ofNamespace { ns with metadata := s.stamp ns.metadata }) rfl
      (s.stampedIn_stamp ns.metadata) (Or.inl rfl) fun q => ?_
    cases q with
    | ofClass name | ofObject k => rfl
    | ofNamespace name =>
      rw [ClientWrite.apply, putNamespace, storedAt, SortedMap.find?_insert, storedAt]
      by_cases hname : name = ns.nameAny <;> simp [hname]
  | putClass c => exact wrote_insert_class rfl rfl (Or.inl rfl) rfl rfl rfl
  | putObject o n => exact s.wrote_writeObject _
  | deleteNamespace name => exact wrote_of_found (Nat.le_refl _) SortedMap.find?_of_erase id id
  | deleteClass name => exact wrote_of_found (Nat.le_refl _) id SortedMap.find?_of_erase id
  | request c => exact s.wrote_perform c
  | editClass name edit keepsName =>
    rw [ClientWrite.apply]
    cases h : s.editClass name edit with
    | none => exact .refl s
    | some s' => exact wrote_editClass keepsName h

theorem Wrote.version_le {s s' : Cluster} (h : s.Wrote s') : s.version ≤ s'.version := by
  cases h with
  | removed version => exact version
  | stored _ _ version => exact version ▸ Nat.le_succ _

/-- What is found at a place after a write was there before, or has a new version. -/
theorem Wrote.storedAt_or {s s' : Cluster} (h : s.Wrote s') {p : Place} {x : Stored}
    (hx : s'.storedAt p = some x) :
    s.storedAt p = some x ∨ x.metadata.StampedIn s.version s'.version := by
  cases h with
  | removed _ kept => exact Or.inl (kept p x hx)
  | stored q y version stamped _ stored =>
    rw [stored] at hx
    split at hx
    · exact Or.inr (version ▸ Option.some.inj hx ▸ stamped)
    · exact Or.inl hx

/-- What every write keeps holds of every cluster that comes about. -/
theorem Reachable.of_wrote {P : Cluster → Prop} (hempty : P {})
    (hstep : ∀ {s s' : Cluster}, s.Wrote s' → P s → P s') {s : Cluster} (h : s.Reachable) :
    P s := by
  induction h with
  | empty => exact hempty
  | putNamespace ns _ ih => exact hstep (wrote_apply _ (.putNamespace ns)) ih
  | putClass c _ ih => exact hstep (wrote_apply _ (.putClass c)) ih
  | putObject o n _ ih => exact hstep (wrote_apply _ (.putObject o n)) ih
  | deleteNamespace name _ ih => exact hstep (wrote_apply _ (.deleteNamespace name)) ih
  | deleteClass name _ ih => exact hstep (wrote_apply _ (.deleteClass name)) ih
  | editClass edit hedit hs _ ih => exact hstep (wrote_editClass hedit hs) ih
  | perform c _ ih => exact hstep (wrote_perform _ c) ih

/-! ## Later clusters -/

/-- What the other cluster holds of classes and objects was there, or it is newer. -/
structure Later (s s' : Cluster) : Prop where
  version : s.version ≤ s'.version
  classes : ∀ {name c}, s'.classes.find? name = some c →
    s.classes.find? name = some c ∨ c.metadata.StampedIn s.version s'.version
  objects : ∀ {k o}, s'.objects.find? k = some o →
    s.objects.find? k = some o ∨ o.metadata.StampedIn s.version s'.version

theorem Later.refl (s : Cluster) : s.Later s := ⟨Nat.le_refl _, Or.inl, Or.inl⟩

theorem Later.trans {s s' s'' : Cluster} (h : s.Later s') (h' : s'.Later s'') : s.Later s'' where
  version := Nat.le_trans h.version h'.version
  classes hc := by
    rcases h'.classes hc with hc | hnew
    · exact (h.classes hc).imp_right (·.mono (Nat.le_refl _) h'.version)
    · exact Or.inr (hnew.mono h.version (Nat.le_refl _))
  objects ho := by
    rcases h'.objects ho with ho | hnew
    · exact (h.objects ho).imp_right (·.mono (Nat.le_refl _) h'.version)
    · exact Or.inr (hnew.mono h.version (Nat.le_refl _))

/-- A write makes a cluster later. -/
theorem Wrote.later {s s' : Cluster} (h : s.Wrote s') : s.Later s' := by
  refine ⟨h.version_le, fun {name c} hc => ?_, fun {k o} ho => ?_⟩
  · have hx : s'.storedAt (.ofClass name) = some (.ofClass c) := by rw [storedAt, hc]; rfl
    refine (h.storedAt_or hx).imp_left fun hold => ?_
    obtain ⟨c', hc', ⟨⟩⟩ := Option.map_eq_some_iff.1 hold
    exact hc'
  · have hx : s'.storedAt (.ofObject k) = some (.ofObject o) := by rw [storedAt, ho]; rfl
    refine (h.storedAt_or hx).imp_left fun hold => ?_
    obtain ⟨o', ho', ⟨⟩⟩ := Option.map_eq_some_iff.1 hold
    exact ho'

/-- A call makes a cluster later, whatever its fate. -/
theorem later_meet (s : Cluster) (c : StoreCall) (f : Fate) : s.Later (s.meet c f).2 := by
  cases f with
  | refused e => exact .refl s
  | served | lost e => exact (s.wrote_perform c).later

/-- A write of a client makes a cluster later. -/
theorem later_apply (s : Cluster) (w : ClientWrite) : s.Later (w.apply s) :=
  (s.wrote_apply w).later

/-- A cluster that comes about is later than the empty one: everything in it has a version. -/
theorem Reachable.later {s : Cluster} (h : s.Reachable) : Cluster.Later {} s :=
  h.of_wrote (.refl _) fun hwrote hlater => hlater.trans hwrote.later

/-- A class that is found again with the version it had is the one that was there. -/
theorem Later.class_eq {s s' : Cluster} (h : s.Later s') (hs : s.Reachable) {name : String}
    {c c' : NamespaceClass} (hc : s.classes.find? name = some c)
    (hc' : s'.classes.find? name = some c')
    (hv : c'.metadata.resourceVersion = c.metadata.resourceVersion) : c' = c := by
  rcases h.classes hc' with hold | hnew
  · exact Option.some.inj (hold.symm.trans hc)
  · have hstamped := (hs.later.classes hc).resolve_left nofun
    exact absurd hv (hstamped.ne hnew)

/-- An object that is found again with the version it had is the one that was there. -/
theorem Later.object_eq {s s' : Cluster} (h : s.Later s') (hs : s.Reachable) {k : ObjectKey}
    {o o' : Manifest} (ho : s.objects.find? k = some o) (ho' : s'.objects.find? k = some o')
    (hv : o'.metadata.resourceVersion = o.metadata.resourceVersion) : o' = o := by
  rcases h.objects ho' with hold | hnew
  · exact Option.some.inj (hold.symm.trans ho)
  · have hstamped := (hs.later.objects ho).resolve_left nofun
    exact absurd hv (hstamped.ne hnew)

end Cluster

end ClassReconciler
