import ClassReconciler.Cluster.Cluster

/-!
# Clusters that can come about

A cluster is `Reachable` if writes of users and store calls, in any order, lead to it from
an empty one. In such a cluster every namespace and every class is stored under its own
name, every object carries a version, and no webhook lies in wait (`Reachable.wellFormed`).
That every store call keeps this is `WellFormed.perform`.
-/

namespace ClassReconciler

namespace Cluster

/-- Namespaces and classes are stored under their own names. -/
structure Named (s : Cluster) : Prop where
  namespaces : ∀ {name ns}, s.namespaces.find? name = some ns → ns.nameAny = name
  classes : ∀ {name c}, s.classes.find? name = some c → c.nameAny = name

/-- Everything has its own name, every object has a version, and nothing meets the writes of
classes on their way into the store. -/
structure WellFormed (s : Cluster) : Prop extends s.Named where
  versioned : ∀ {k o}, s.objects.find? k = some o → o.metadata.resourceVersion.isSome
  quiet : s.webhooks = .empty

theorem WellFormed.find?_webhooks {s : Cluster} (h : s.WellFormed) (name : String) :
    s.webhooks.find? name = none := by
  rw [h.quiet]
  rfl

/-! ## The namespaces of a class -/

/-- The namespaces of a class, read off the cluster. -/
theorem Named.mem_namespacesForClass {s : Cluster} (h : s.Named) {className : String}
    {ns : Namespace} : ns ∈ s.namespacesForClass className ↔
      s.namespaces.find? ns.nameAny = some ns ∧ ns.className? = some className := by
  rw [namespacesForClass, List.mem_filter, SortedMap.mem_values_iff, decide_eq_true_eq]
  refine and_congr ⟨?_, fun hns => ⟨_, hns⟩⟩ Iff.rfl
  rintro ⟨name, hns⟩
  rw [h.namespaces hns]
  exact hns

/-- No two namespaces of a class have the same name. -/
theorem Named.pairwise_namespacesForClass {s : Cluster} (h : s.Named) (className : String) :
    (s.namespacesForClass className).Pairwise fun ns ns' => ns.nameAny ≠ ns'.nameAny := by
  refine List.Pairwise.filter _ (List.pairwise_map.2 ?_)
  refine (s.namespaces.pairwise_entries_ne).imp_of_mem fun {e f} he hf hne => ?_
  rw [h.namespaces (SortedMap.mem_entries_iff.1 he), h.namespaces (SortedMap.mem_entries_iff.1 hf)]
  exact hne

/-! ## Replacing a class -/

/-- What is stored, and answered, when a class is replaced. -/
def accepted (s : Cluster) (stored c : NamespaceClass) : NamespaceClass :=
  let c' := { c with metadata := s.stamp c.metadata, status := stored.status }
  ((s.webhooks.find? c.nameAny).map (·.amend c')).getD c'

theorem accepted_metadata (s : Cluster) (stored c : NamespaceClass) :
    (s.accepted stored c).metadata = s.stamp c.metadata := by
  unfold accepted
  cases s.webhooks.find? c.nameAny with
  | none => rfl
  | some w =>
    simp only [Option.map_some, Option.getD_some, Webhook.amend]
    split <;> split <;> rfl

theorem accepted_nameAny (s : Cluster) (stored c : NamespaceClass) :
    (s.accepted stored c).nameAny = c.nameAny := by
  rw [NamespaceClass.nameAny, accepted_metadata]
  rfl

/-- Without a webhook the spec is the written one and the status the stored one. -/
theorem accepted_of_quiet {s : Cluster} {c : NamespaceClass}
    (h : s.webhooks.find? c.nameAny = none) (stored : NamespaceClass) :
    s.accepted stored c = { c with metadata := s.stamp c.metadata, status := stored.status } := by
  simp [accepted, h]

/-- Where the version is the stored one, a replacement is accepted, and the class disappears
if that releases it. -/
theorem replaceClass_of_version {s : Cluster} {stored c : NamespaceClass}
    (hs : s.classes.find? c.nameAny = some stored)
    (hv : stored.metadata.resourceVersion = c.metadata.resourceVersion) :
    s.replaceClass c = (.ok (s.accepted stored c), { s with
      version := s.nextVersion
      classWrites := s.classWrites + 1
      webhooks := s.webhooks.erase c.nameAny
      classes := if isReleased (s.accepted stored c) then s.classes.erase c.nameAny
        else s.classes.insert c.nameAny (s.accepted stored c) }) := by
  simp only [replaceClass, hs, hv, ne_eq, not_true_eq_false, if_false]
  rfl

theorem replaceClassStatus_of_stored {s : Cluster} {stored c : NamespaceClass}
    (hs : s.classes.find? c.nameAny = some stored) :
    s.replaceClassStatus c =
      (.ok { stored with metadata := s.stamp stored.metadata, status := c.status }, { s with
        version := s.nextVersion
        statusWrites := s.statusWrites + 1
        classes := s.classes.insert c.nameAny
          { stored with metadata := s.stamp stored.metadata, status := c.status } }) := by
  simp only [replaceClassStatus, hs]

theorem markDeleted_of_stored {s : Cluster} {name : String} {c : NamespaceClass}
    (hc : s.classes.find? name = some c) :
    s.markDeleted name = some { s with
      version := s.nextVersion
      classes := s.classes.insert name { c with
        metadata := s.stamp { c.metadata with deletionTimestamp := some deletionTime } } } := by
  rw [markDeleted, editClass, hc]
  rfl

/-! ## What calls keep -/

theorem Named.insert_class {s : Cluster} (h : s.Named) {c : NamespaceClass} {name d : String}
    {c' : NamespaceClass} (hname : c.nameAny = name)
    (hd : (s.classes.insert name c).find? d = some c') : c'.nameAny = d := by
  rw [SortedMap.find?_insert] at hd
  split at hd
  case isTrue hdn =>
    obtain rfl := Option.some.inj hd
    rw [hname, hdn]
  case isFalse => exact h.classes hd

theorem WellFormed.insert_object {s : Cluster} (h : s.WellFormed) {key k : ObjectKey}
    {o o' : Manifest} (ho : o.metadata.resourceVersion.isSome)
    (hk : (s.objects.insert key o).find? k = some o') : o'.metadata.resourceVersion.isSome := by
  rw [SortedMap.find?_insert] at hk
  split at hk
  · exact Option.some.inj hk ▸ ho
  · exact h.versioned hk

theorem WellFormed.writeObject {s : Cluster} (h : s.WellFormed) (o : Manifest) :
    (s.writeObject o).2.WellFormed where
  namespaces := h.namespaces
  classes := h.classes
  versioned hk := h.insert_object rfl hk
  quiet := h.quiet

theorem WellFormed.removeObject {s : Cluster} (h : s.WellFormed) (key : ObjectKey) :
    (s.removeObject key).2.WellFormed where
  namespaces := h.namespaces
  classes := h.classes
  versioned {k o} hk := by
    have hk : (s.objects.erase key).find? k = some o := hk
    rw [SortedMap.find?_erase] at hk
    split at hk
    · cases hk
    · exact h.versioned hk
  quiet := h.quiet

theorem WellFormed.replaceClass {s : Cluster} (h : s.WellFormed) (c : NamespaceClass) :
    (s.replaceClass c).2.WellFormed := by
  cases hs : s.classes.find? c.nameAny with
  | none => simpa only [Cluster.replaceClass, hs] using h
  | some stored =>
    by_cases hv : stored.metadata.resourceVersion = c.metadata.resourceVersion
    · rw [replaceClass_of_version hs hv]
      refine ⟨⟨h.namespaces, fun {d c'} hd => ?_⟩, h.versioned, ?_⟩
      · simp only at hd
        split at hd
        · rw [SortedMap.find?_erase] at hd
          split at hd
          · cases hd
          · exact h.classes hd
        · exact h.insert_class (s.accepted_nameAny stored c) hd
      · simp only [h.quiet]
        rfl
    · simpa only [Cluster.replaceClass, hs, ne_eq, hv, not_false_eq_true, if_true] using h

theorem WellFormed.replaceClassStatus {s : Cluster} (h : s.WellFormed) (c : NamespaceClass) :
    (s.replaceClassStatus c).2.WellFormed := by
  cases hs : s.classes.find? c.nameAny with
  | none => simpa only [Cluster.replaceClassStatus, hs] using h
  | some stored =>
    rw [replaceClassStatus_of_stored hs]
    have hname : stored.nameAny = c.nameAny := h.classes hs
    exact ⟨⟨h.namespaces, h.insert_class (c := { stored with metadata := _, status := _ }) hname⟩,
      h.versioned, h.quiet⟩

theorem WellFormed.editClass {s s' : Cluster} (h : s.WellFormed) {name : String}
    {edit : NamespaceClass → NamespaceClass} (hedit : ∀ c, (edit c).nameAny = c.nameAny)
    (hs : s.editClass name edit = some s') : s'.WellFormed := by
  obtain ⟨c, hc, rfl⟩ := Option.map_eq_some_iff.1 hs
  have hname : (edit c).nameAny = name := (hedit c).trans (h.classes hc)
  exact ⟨⟨h.namespaces, h.insert_class (c := { edit c with metadata := _ }) hname⟩,
    h.versioned, h.quiet⟩

theorem WellFormed.setResources {s s' : Cluster} (h : s.WellFormed) {name : String}
    {resources : List Json} (hs : s.setResources name resources = some s') : s'.WellFormed := by
  have hname : ∀ c : NamespaceClass, { c with spec := ⟨resources⟩ }.nameAny = c.nameAny :=
    fun _ => rfl
  exact h.editClass hname hs

theorem WellFormed.markDeleted {s s' : Cluster} (h : s.WellFormed) {name : String}
    (hs : s.markDeleted name = some s') : s'.WellFormed := by
  have hname : ∀ c : NamespaceClass, { c with metadata := { c.metadata with
      deletionTimestamp := some deletionTime } }.nameAny = c.nameAny := fun _ => rfl
  exact h.editClass hname hs

theorem WellFormed.deleteClass {s : Cluster} (h : s.WellFormed) (name : String) :
    (s.deleteClass name).2.WellFormed := by
  refine ⟨⟨h.namespaces, fun {d c} hd => ?_⟩, h.versioned, h.quiet⟩
  simp only [Cluster.deleteClass, SortedMap.find?_erase] at hd
  split at hd
  · cases hd
  · exact h.classes hd

/-- Every store call keeps a cluster well-formed. -/
theorem WellFormed.perform {s : Cluster} (h : s.WellFormed) (c : StoreCall) :
    (s.perform c).2.WellFormed := by
  cases c with
  | getNamespace | getClass | namespacesForClass | getObject => exact h
  | replaceClass c => exact h.replaceClass c
  | replaceClassStatus c => exact h.replaceClassStatus c
  | deleteObject kind n name => exact h.removeObject (ObjectKey.new kind n name)
  | createObject kind o =>
    simp only [Cluster.perform, Cluster.createObject]
    split
    · exact h
    · exact h.writeObject o
  | replaceObject kind o =>
    simp only [Cluster.perform, Cluster.replaceObject]
    split
    · exact h
    · split
      · exact h
      · exact h.writeObject o

/-! ## Reachable clusters -/

/-- The clusters that come about from an empty one by writes of users and by store calls. -/
inductive Reachable : Cluster → Prop where
  | empty : Reachable {}
  | putNamespace {s : Cluster} (ns : Namespace) : Reachable s → Reachable (s.putNamespace ns)
  | putClass {s : Cluster} (c : NamespaceClass) : Reachable s → Reachable (s.putClass c)
  | putObject {s : Cluster} (o : Manifest) (namespaceName : String) :
    Reachable s → Reachable (s.putObject o namespaceName)
  | deleteNamespace {s : Cluster} (name : String) :
    Reachable s → Reachable (s.deleteNamespace name).2
  | deleteClass {s : Cluster} (name : String) : Reachable s → Reachable (s.deleteClass name).2
  | editClass {s s' : Cluster} {name : String} (edit : NamespaceClass → NamespaceClass) :
    (∀ c, (edit c).nameAny = c.nameAny) → s.editClass name edit = some s' → Reachable s →
      Reachable s'
  | perform {s : Cluster} (c : StoreCall) : Reachable s → Reachable (s.perform c).2

theorem Reachable.setResources {s s' : Cluster} {name : String} {resources : List Json}
    (h : s.Reachable) (hs : s.setResources name resources = some s') : s'.Reachable :=
  .editClass (fun c => { c with spec := ⟨resources⟩ }) (fun _ => rfl) hs h

theorem Reachable.markDeleted {s s' : Cluster} {name : String}
    (h : s.Reachable) (hs : s.markDeleted name = some s') : s'.Reachable :=
  .editClass
    (fun c => { c with metadata := { c.metadata with deletionTimestamp := deletionTime } })
    (fun _ => rfl) hs h

theorem Reachable.wellFormed {s : Cluster} (h : s.Reachable) : s.WellFormed := by
  induction h with
  | empty => exact ⟨⟨nofun, nofun⟩, nofun, rfl⟩
  | putNamespace ns _ ih =>
    refine ⟨⟨fun {name ns'} hn => ?_, ih.classes⟩, ih.versioned, ih.quiet⟩
    simp only [Cluster.putNamespace, SortedMap.find?_insert] at hn
    split at hn
    case isTrue hname =>
      obtain rfl := Option.some.inj hn
      exact hname.symm
    case isFalse => exact ih.namespaces hn
  | putClass c _ ih =>
    exact ⟨⟨ih.namespaces, ih.insert_class (c := { c with metadata := _ }) rfl⟩,
      ih.versioned, ih.quiet⟩
  | putObject o n _ ih => exact ih.writeObject _
  | deleteNamespace name _ ih =>
    refine ⟨⟨fun {n ns} hn => ?_, ih.classes⟩, ih.versioned, ih.quiet⟩
    simp only [Cluster.deleteNamespace, SortedMap.find?_erase] at hn
    split at hn
    · cases hn
    · exact ih.namespaces hn
  | deleteClass name _ ih => exact ih.deleteClass name
  | editClass edit hedit hs _ ih => exact ih.editClass hedit hs
  | perform c _ ih => exact ih.perform c

/-! ## A small cluster -/

/-- A raw config map. -/
def sampleEntry (name : String) : Json :=
  .obj [("apiVersion", .str "v1"), ("kind", .str "ConfigMap"),
    ("metadata", .obj [("name", .str name)])]

/-- Where a config map is stored in the namespace `team`. -/
def sampleKey (name : String) : ObjectKey := ⟨"", "ConfigMap", "team", name⟩

/-- A config map as an object. -/
def sampleObject (name : String) : Manifest :=
  ⟨some ⟨"v1", "ConfigMap"⟩, { name := some name }, []⟩

/-- A namespace that names a class and has obsolete objects deleted. -/
def pruningNamespace (name className : String) : Namespace where
  metadata := {
    name := some name
    labels := some (.ofList [(classLabel, className)])
    annotations := some (.ofList [(cleanupObsoleteKey, "true")]) }

/-- One namespace that has obsolete objects deleted and names a class, of which nothing has been
applied. -/
def fresh (resources : List Json) : Cluster :=
  (({} : Cluster).putNamespace (pruningNamespace "team" "gold")).putClass
    { metadata := { name := some "gold" }, spec := ⟨resources⟩ }

theorem reachable_fresh (resources : List Json) : (fresh resources).Reachable :=
  (Reachable.empty.putNamespace _).putClass _

/-- The one namespace of the class. -/
theorem namespacesForClass_fresh (resources : List Json) : ∃ ns,
    (fresh resources).namespacesForClass "gold" = [ns] ∧ ns.nameAny = "team" ∧
      ns.cleanupObsoleteEnabled = true := by
  let namespaces :=
    (({} : Cluster).putNamespace (pruningNamespace "team" "gold")).namespacesForClass "gold"
  have hlisted : (fresh resources).namespacesForClass "gold" = namespaces := rfl
  have hnames : namespaces.map Namespace.nameAny = ["team"] := by decide +kernel
  have hopted : (namespaces.all Namespace.cleanupObsoleteEnabled) = true := by decide +kernel
  obtain ⟨ns, hns, hname⟩ := List.map_eq_singleton_iff.1 hnames
  rw [hns, List.all_cons, Bool.and_eq_true] at hopted
  exact ⟨ns, hlisted.trans hns, hname, hopted.1⟩

/-- One namespace that opts into all deletions and names a class, which declares `new` and has
applied `old` and `stuck`, both of which exist. -/
def sample : Cluster :=
  let ns : Namespace := { metadata := {
    name := some "team"
    labels := some (.ofList [(classLabel, "gold")])
    annotations := some (.ofList [(cleanupKey, "true"), (cleanupObsoleteKey, "true")]) } }
  let c : NamespaceClass := {
    metadata := { name := some "gold", finalizers := some [classFinalizer] }
    spec := ⟨[sampleEntry "new"]⟩
    status := some ⟨[sampleEntry "old", sampleEntry "stuck"]⟩ }
  ((((({} : Cluster).putNamespace ns).putClass c).putObject (sampleObject "old") "team").putObject
    (sampleObject "stuck") "team")

theorem reachable_sample : sample.Reachable :=
  (((Reachable.empty.putNamespace _).putClass _).putObject _ _).putObject _ _

end Cluster

end ClassReconciler
