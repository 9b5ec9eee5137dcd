import ClassReconciler.SortedMap
import ClassReconciler.Store

/-!
# A cluster in memory

Namespaces, classes and objects, with versions that are checked as a server checks them:
every write stamps a new version, and a replacement is refused unless it carries the version
that is stored. All versions of a kind are views of one stored object. A class that is marked
for deletion disappears when its last finalizer is removed.

`Cluster.perform` is the effect of one store call.
-/

namespace ClassReconciler

/-- Where an object is stored. -/
structure ObjectKey where
  group : String
  kind : String
  namespaceName : String
  name : String
deriving DecidableEq, Inhabited

namespace ObjectKey

/-- Objects are ordered by group, then kind, namespace and name. -/
def cmp : ObjectKey → ObjectKey → Ordering :=
  compareLex (compareOn group)
    (compareLex (compareOn kind) (compareLex (compareOn namespaceName) (compareOn name)))

instance : Ord ObjectKey := ⟨cmp⟩

instance : Std.TransOrd ObjectKey :=
  inferInstanceAs <| Std.TransCmp <| compareLex (compareOn group)
    (compareLex (compareOn kind) (compareLex (compareOn namespaceName) (compareOn name)))

instance : Std.LawfulEqOrd ObjectKey where
  eq_of_compare {a b} h := by
    obtain ⟨h₁, h⟩ := Ordering.then_eq_eq.1 h
    obtain ⟨h₂, h⟩ := Ordering.then_eq_eq.1 h
    obtain ⟨h₃, h₄⟩ := Ordering.then_eq_eq.1 h
    rw [compareOn, Std.LawfulEqCmp.compare_eq_iff_eq] at h₁ h₂ h₃ h₄
    cases a
    cases b
    simp_all

/-- The key of an object that is named by its kind, namespace and name. -/
def new (kind : ObjectKind) (namespaceName name : String) : ObjectKey :=
  ⟨kind.group, kind.kind, namespaceName, name⟩

/-- The key of an object by its own fields. -/
def of (o : Manifest) : ObjectKey where
  group := (o.types.map fun t => (splitApiVersion t.apiVersion).1).getD ""
  kind := (o.types.map TypeMeta.kind).getD ""
  namespaceName := o.namespaceName
  name := o.nameAny

end ObjectKey

/-- Changes that the next write of a class is met with on its way into the store. -/
structure Webhook where
  resources : Option (List Json)
  applied : Option (List Json)

def Webhook.amend (w : Webhook) (c : NamespaceClass) : NamespaceClass :=
  let c := match w.resources with
    | some resources => { c with spec := ⟨resources⟩ }
    | none => c
  match w.applied with
  | some applied => { c with status := some ⟨applied⟩ }
  | none => c

/-- The state of a cluster, with the number of writes to classes and to their status. -/
structure Cluster where
  version : Nat := 0
  namespaces : SortedMap String Namespace := .empty
  classes : SortedMap String NamespaceClass := .empty
  objects : SortedMap ObjectKey Manifest := .empty
  webhooks : SortedMap String Webhook := .empty
  classWrites : Nat := 0
  statusWrites : Nat := 0

namespace Cluster

/-- The version that the next write stamps. -/
def nextVersion (s : Cluster) : Nat := s.version + 1

def stamp (s : Cluster) (m : Metadata) : Metadata :=
  { m with resourceVersion := some (toString s.nextVersion) }

/-! ## Writes of users -/

def putNamespace (s : Cluster) (ns : Namespace) : Cluster :=
  { s with
    version := s.nextVersion
    namespaces := s.namespaces.insert ns.nameAny { ns with metadata := s.stamp ns.metadata } }

def putClass (s : Cluster) (c : NamespaceClass) : Cluster :=
  { s with
    version := s.nextVersion
    classes := s.classes.insert c.nameAny { c with metadata := s.stamp c.metadata } }

/-- Stores an object under its own key. -/
def writeObject (s : Cluster) (o : Manifest) : Manifest × Cluster :=
  let written := { o with metadata := s.stamp o.metadata }
  (written, { s with
    version := s.nextVersion
    objects := s.objects.insert (ObjectKey.of o) written })

def putObject (s : Cluster) (o : Manifest) (namespaceName : String) : Cluster :=
  (s.writeObject { o with metadata := { o.metadata with inNamespace := some namespaceName } }).2

def deleteNamespace (s : Cluster) (name : String) : Bool × Cluster :=
  (s.namespaces.contains name, { s with namespaces := s.namespaces.erase name })

def deleteClass (s : Cluster) (name : String) : Bool × Cluster :=
  (s.classes.contains name, { s with classes := s.classes.erase name })

def removeObject (s : Cluster) (key : ObjectKey) : Bool × Cluster :=
  (s.objects.contains key, { s with objects := s.objects.erase key })

/-- Changes a stored class under its name; none where there is no such class. -/
def editClass (s : Cluster) (name : String) (edit : NamespaceClass → NamespaceClass) :
    Option Cluster :=
  (s.classes.find? name).map fun c =>
    let c := edit c
    { s with
      version := s.nextVersion
      classes := s.classes.insert name { c with metadata := s.stamp c.metadata } }

def setResources (s : Cluster) (name : String) (resources : List Json) : Option Cluster :=
  s.editClass name fun c => { c with spec := ⟨resources⟩ }

/-- The moment at which classes are marked for deletion. -/
def deletionTime : Instant where
  date := ⟨2025, 1, 1, by decide, by decide, by decide⟩
  hour := 0
  minute := 0
  second := 0
  nanos := 0
  hour_range := by decide
  minute_range := by decide
  second_range := by decide
  nanos_range := by decide

def markDeleted (s : Cluster) (name : String) : Option Cluster :=
  s.editClass name fun c =>
    { c with metadata := { c.metadata with deletionTimestamp := some deletionTime } }

def setWebhook (s : Cluster) (name : String) (w : Webhook) : Cluster :=
  { s with webhooks := s.webhooks.insert name w }

/-! ## Store calls -/

/-- The namespaces that name a class, in the order of their names. -/
def namespacesForClass (s : Cluster) (className : String) : List Namespace :=
  s.namespaces.values.filter fun ns => ns.className? = some className

/-- A class that is marked for deletion and held by nothing. -/
def isReleased (c : NamespaceClass) : Bool := c.isDeleting && c.finalizers.isEmpty

/-- Replaces a class but for its status. -/
def replaceClass (s : Cluster) (c : NamespaceClass) : Except StoreError NamespaceClass × Cluster :=
  let name := c.nameAny
  match s.classes.find? name with
  | none => (.error (.api (.absent name)), s)
  | some stored =>
    if stored.metadata.resourceVersion ≠ c.metadata.resourceVersion then
      (.error (.conflict name), s)
    else
      let c := { c with metadata := s.stamp c.metadata, status := stored.status }
      let c := ((s.webhooks.find? name).map (·.amend c)).getD c
      (.ok c, { s with
        version := s.nextVersion
        classWrites := s.classWrites + 1
        webhooks := s.webhooks.erase name
        classes := if isReleased c then s.classes.erase name else s.classes.insert name c })

/-- Replaces the status of a class and nothing else of it. -/
def replaceClassStatus (s : Cluster) (c : NamespaceClass) :
    Except StoreError NamespaceClass × Cluster :=
  let name := c.nameAny
  match s.classes.find? name with
  | none => (.error (.api (.absent name)), s)
  | some stored =>
    let c := { stored with metadata := s.stamp stored.metadata, status := c.status }
    (.ok c, { s with
      version := s.nextVersion
      statusWrites := s.statusWrites + 1
      classes := s.classes.insert name c })

def createObject (s : Cluster) (o : Manifest) : Except StoreError Manifest × Cluster :=
  if s.objects.contains (ObjectKey.of o) then (.error (.alreadyExists o.nameAny), s)
  else
    let (written, s) := s.writeObject o
    (.ok written, s)

/-- Replaces an object. One that carries no version is refused like one with an old one. -/
def replaceObject (s : Cluster) (o : Manifest) : Except StoreError Manifest × Cluster :=
  match s.objects.find? (ObjectKey.of o) with
  | none => (.error (.api (.absent o.nameAny)), s)
  | some stored =>
    if o.metadata.resourceVersion.isNone ∨
        stored.metadata.resourceVersion ≠ o.metadata.resourceVersion then
      (.error (.conflict o.nameAny), s)
    else
      let (written, s) := s.writeObject o
      (.ok written, s)

/-- The effect of a store call. -/
def perform (s : Cluster) : (c : StoreCall) → c.Result × Cluster
  | .getNamespace name => (.ok (s.namespaces.find? name), s)
  | .getClass name => (.ok (s.classes.find? name), s)
  | .namespacesForClass className => (.ok (s.namespacesForClass className), s)
  | .replaceClass c => s.replaceClass c
  | .replaceClassStatus c => s.replaceClassStatus c
  | .getObject kind ns name => (.ok (s.objects.find? (ObjectKey.new kind ns name)), s)
  | .createObject _ o => s.createObject o
  | .replaceObject _ o => s.replaceObject o
  | .deleteObject kind ns name =>
    let (existed, s) := s.removeObject (ObjectKey.new kind ns name)
    (.ok existed, s)

end Cluster

end ClassReconciler
