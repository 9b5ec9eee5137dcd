import ClassReconciler.Proofs.ClassWrites

/-!
# Contents of a cluster

What a cluster holds with no regard to versions. A write of an object inserts it into the
contents (`contents_writeObject`), and a write of a class inserts the class
(`StoresClass.contents`).

`ActsIn n f` says that `f` changes objects of one namespace only and finds what to write at a
key at no other key. Such changes of namespaces with different names do not meet: in each of
them, their composition does what its own change does (`find?_foldl_actsIn`).
-/

namespace ClassReconciler

/-! ## Contents -/

def Manifest.unversioned (o : Manifest) : Manifest := o.withVersion none

def NamespaceClass.unversioned (c : NamespaceClass) : NamespaceClass :=
  { c with metadata := { c.metadata with resourceVersion := none } }

/-- The objects of a cluster by their keys. -/
abbrev Objects : Type := SortedMap ObjectKey Manifest

/-- What a cluster holds, with no regard to versions. -/
structure Contents where
  namespaces : SortedMap String Namespace
  classes : SortedMap String NamespaceClass
  objects : Objects

namespace Cluster

def contents (s : Cluster) : Contents where
  namespaces := s.namespaces
  classes := s.classes.map NamespaceClass.unversioned
  objects := s.objects.map Manifest.unversioned

theorem contents_writeObject (s : Cluster) (o : Manifest) : (s.writeObject o).2.contents =
    { s.contents with objects := s.contents.objects.insert (ObjectKey.of o) o.unversioned } := by
  rw [contents, contents]
  simp only [writeObject, SortedMap.map_insert]
  rfl

/-- A class that is stored is inserted into the contents. -/
theorem StoresClass.contents {s s' : Cluster} {name : String} {c : NamespaceClass}
    (h : s.StoresClass s' name c) : s'.contents =
      { s.contents with classes := s.contents.classes.insert name c.unversioned } := by
  have hclasses : s'.classes = s.classes.insert name c := SortedMap.ext_find? fun d => by
    rw [SortedMap.find?_insert]
    split
    case isTrue hd => rw [hd, h.stored]
    case isFalse hd => exact h.others d hd
  rw [Cluster.contents, Cluster.contents, h.namespaces, h.objects, hclasses]
  simp only [SortedMap.map_insert]

end Cluster

/-! ## Changes in a namespace -/

/-- A change of the objects of one namespace. -/
structure ActsIn (n : String) (f : Objects → Objects) : Prop where
  outside : ∀ objects k, k.namespaceName ≠ n → (f objects).find? k = objects.find? k
  /-- What is found at a key afterwards depends on what was found there before. -/
  inside : ∀ {objects objects'} {k : ObjectKey}, objects.find? k = objects'.find? k →
    (f objects).find? k = (f objects').find? k

namespace ActsIn

variable {n : String} {f g : Objects → Objects}

theorem id (n : String) : ActsIn n fun objects => objects := ⟨fun _ _ _ => rfl, fun h => h⟩

theorem comp (hg : ActsIn n g) (hf : ActsIn n f) : ActsIn n fun objects => g (f objects) where
  outside objects k hk := (hg.outside (f objects) k hk).trans (hf.outside objects k hk)
  inside h := hg.inside (hf.inside h)

theorem ite {p : Prop} [Decidable p] (hf : ActsIn n f) (hg : ActsIn n g) :
    ActsIn n fun objects => if p then f objects else g objects := by
  by_cases h : p
  · simpa only [h, if_true] using hf
  · simpa only [h, if_false] using hg

theorem foldl {α : Type} {step : Objects → α → Objects} (as : List α)
    (h : ∀ a ∈ as, ActsIn n (step · a)) : ActsIn n fun objects => as.foldl step objects := by
  induction as with
  | nil => exact id n
  | cons a rest ih =>
    exact (ih fun b hb => h b (List.mem_cons_of_mem _ hb)).comp (h a List.mem_cons_self)

theorem insert (key : ObjectKey) (h : key.namespaceName = n) (o : Manifest) :
    ActsIn n fun objects => objects.insert key o where
  outside objects k hk := by
    have hne : k ≠ key := fun hkey => hk (hkey ▸ h)
    rw [SortedMap.find?_insert, if_neg hne]
  inside hk := by rw [SortedMap.find?_insert, SortedMap.find?_insert, hk]

theorem erase (key : ObjectKey) (h : key.namespaceName = n) :
    ActsIn n fun objects => objects.erase key where
  outside objects k hk := by
    have hne : k ≠ key := fun hkey => hk (hkey ▸ h)
    rw [SortedMap.find?_erase, if_neg hne]
  inside hk := by rw [SortedMap.find?_erase, SortedMap.find?_erase, hk]

end ActsIn

section Namespaces

variable {step : Objects → Namespace → Objects} (hstep : ∀ ns, ActsIn ns.nameAny (step · ns))
include hstep

theorem find?_foldl_of_forall_ne {namespaces : List Namespace} {k : ObjectKey}
    (hk : ∀ ns ∈ namespaces, k.namespaceName ≠ ns.nameAny) (objects : Objects) :
    (namespaces.foldl step objects).find? k = objects.find? k := by
  induction namespaces generalizing objects with
  | nil => rfl
  | cons ns rest ih =>
    rw [List.foldl_cons, ih fun ns' h => hk ns' (List.mem_cons_of_mem _ h)]
    exact (hstep ns).outside objects k (hk ns List.mem_cons_self)

/-- Of changes in namespaces with different names, each namespace shows its own. -/
theorem find?_foldl_actsIn {namespaces : List Namespace}
    (hnames : namespaces.Pairwise fun ns ns' => ns.nameAny ≠ ns'.nameAny) {ns : Namespace}
    (hns : ns ∈ namespaces) {k : ObjectKey} (hk : k.namespaceName = ns.nameAny)
    (objects : Objects) :
    (namespaces.foldl step objects).find? k = (step objects ns).find? k := by
  induction namespaces generalizing objects with
  | nil => cases hns
  | cons ns' rest ih =>
    obtain ⟨hfresh, hrest⟩ := List.pairwise_cons.1 hnames
    rw [List.foldl_cons]
    rcases List.mem_cons.1 hns with rfl | hns
    · refine find?_foldl_of_forall_ne hstep (fun ns' h hname => ?_) _
      exact hfresh ns' h (hk.symm.trans hname)
    · have hne : k.namespaceName ≠ ns'.nameAny := fun h => hfresh ns hns (h.symm.trans hk)
      rw [ih hrest hns]
      exact (hstep ns).inside ((hstep ns').outside objects k hne)

end Namespaces

end ClassReconciler
