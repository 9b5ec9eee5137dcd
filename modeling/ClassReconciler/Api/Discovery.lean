import ClassReconciler.Api.Exchange

/-!
# Kind discovery

Where the objects of a kind are found is asked of the server once: the first resource of the
kind in the list of its group and version whose name has no slash. Only kinds whose objects
live in namespaces are remembered.
-/

namespace ClassReconciler

namespace ObjectKind

/-- Kinds are ordered by group, then version, then kind. -/
instance : Ord ObjectKind :=
  ⟨compareLex (compareOn group) (compareLex (compareOn version) (compareOn kind))⟩

instance : Std.TransOrd ObjectKind :=
  inferInstanceAs <| Std.TransCmp
    (compareLex (compareOn group) (compareLex (compareOn version) (compareOn kind)))

instance : Std.LawfulEqOrd ObjectKind where
  eq_of_compare {a b} h := by
    obtain ⟨h₁, h⟩ := Ordering.then_eq_eq.1 h
    obtain ⟨h₂, h₃⟩ := Ordering.then_eq_eq.1 h
    rw [compareOn, Std.LawfulEqCmp.compare_eq_iff_eq] at h₁ h₂ h₃
    cases a
    cases b
    simp_all

/-- The path of the list of resources of the kind's group and version. -/
def discoveryPath (k : ObjectKind) : String :=
  if k.group = "" then "/api/" ++ k.version else "/apis/" ++ k.group ++ "/" ++ k.version

end ObjectKind

/-! ## Resource lists -/

/-- An entry of a resource list. -/
structure ListedResource where
  group : Option String
  kind : String
  name : String
  namespaced : Bool

/-- The resources of a group and version. -/
structure ResourceList where
  groupVersion : String
  resources : List ListedResource

def ListedResource.decode [Source V] : Decoder V ListedResource := fun v => do
  let fields ← Decode.fields "APIResource" v
  let _ ← Decode.optional (Decode.list Decode.string) "categories" fields
  let group ← Decode.optional Decode.string "group" fields
  let kind ← Decode.orDefault Decode.string "" "kind" fields
  let name ← Decode.orDefault Decode.string "" "name" fields
  let namespaced ← Decode.orDefault Decode.boolean false "namespaced" fields
  let _ ← Decode.optional (Decode.list Decode.string) "shortNames" fields
  let _ ← Decode.optional Decode.string "singularName" fields
  let _ ← Decode.optional Decode.string "storageVersionHash" fields
  let _ ← Decode.optional (Decode.list Decode.string) "verbs" fields
  let _ ← Decode.optional Decode.string "version" fields
  pure ⟨group, kind, name, namespaced⟩

def ResourceList.decode [Source V] : Decoder V ResourceList := fun v => do
  let fields ← Decode.fields "APIResourceList" v
  Decode.typed "v1" "APIResourceList" fields
  let groupVersion ← Decode.orDefault Decode.string "" "groupVersion" fields
  let resources ← Decode.orDefault (Decode.list ListedResource.decode) [] "resources" fields
  pure ⟨groupVersion, resources⟩

/-! ## Resource paths -/

/-- Where the objects of a kind are found: whether the kind is of the core group, the API
version of its list, and its resource's name. -/
structure ResourcePath where
  isCore : Bool
  apiVersion : String
  resource : String
deriving DecidableEq

/-- The objects of the kind in a namespace. -/
def ResourcePath.inNamespace (p : ResourcePath) (namespaceName : String) : Collection where
  path := (if p.isCore then "/api/" else "/apis/") ++ p.apiVersion ++ "/namespaces/" ++
    namespaceName ++ "/" ++ p.resource

namespace ResourceList

/-- The group that the list is of. -/
def group (l : ResourceList) : String := (splitApiVersion l.groupVersion).1

/-- The API version that the list is of; without a group it is the version alone. -/
def apiVersion (l : ResourceList) : String :=
  let (group, version) := splitApiVersion l.groupVersion
  if group = "" then version else l.groupVersion

/-- The resource of a kind. -/
def find? (l : ResourceList) (kind : String) : Option ListedResource :=
  l.resources.find? fun r => r.kind = kind ∧ '/' ∉ r.name.toList

/-- Objects of a resource live in namespaces if the first entry of its name says so. -/
def isNamespaced (l : ResourceList) (name : String) : Bool :=
  (l.resources.find? (·.name = name)).any ListedResource.namespaced

def pathOf (l : ResourceList) (r : ListedResource) : ResourcePath where
  isCore := r.group.getD l.group = ""
  apiVersion := l.apiVersion
  resource := r.name

end ResourceList

/-! ## The cache -/

/-- The kinds that were found so far. -/
abbrev KindCache : Type := SortedMap ObjectKind ResourcePath

/-- What a failed call is for the store: a code 409 is a conflict, or says that the object
exists. -/
def CallFailure.toStoreError (name : String) : CallFailure → StoreError
  | .timedOut => .timeout
  | .request (.answered code reason) =>
    if code = 409 then if reason = "AlreadyExists" then .alreadyExists name else .conflict name
    else .api (.request (.answered code reason))
  | .request e => .api (.request e)

/-- What a list of resources says about a kind. -/
def ResourceList.resolve (l : ResourceList) (kind : String) : Except StoreError ResourcePath :=
  match l.find? kind with
  | none => .error (.api (.request .unknownKind))
  | some r =>
    if l.isNamespaced r.name then .ok (l.pathOf r) else .error (.api (.clusterScoped kind))

/-- Finds a kind, in the cache or at the server. A failure is not remembered. -/
def KindCache.resolve (cache : KindCache) (limit : Option Nat) (kind : ObjectKind) :
    Exchange (Except StoreError ResourcePath × KindCache) :=
  match cache.find? kind, request? .get kind.discoveryPath with
  | some path, _ => pure (.ok path, cache)
  | none, none => pure (.error (.api (.request .unlistable)), cache)
  | none, some request => do
    let listed ← Exchange.send limit (some request) ResourceList.decode
    match (listed.mapError (·.toStoreError kind.kind)).bind (·.resolve kind.kind) with
    | .ok path => pure (.ok path, cache.insert kind path)
    | .error e => pure (.error e, cache)

end ClassReconciler
