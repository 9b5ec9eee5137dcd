import ClassReconciler.Proofs.Leftovers
import ClassReconciler.Proofs.UnguardedDeletion

/-!
# What the cleanup after a class covers

A class owns the keys of the templates among its declared and its recorded entries
(`NamespaceClass.Owns`). When it is being deleted, its cleanup erases in a namespace that opts in
what is stored at these keys and nothing else (`Cluster.find?_reconciled_of_optedIn`).

An entry that has an identity and does not decode is no template. The update of a class lets it
claim its identity, so that breaking an entry does not remove it, but the cleanup leaves it out:
the object that it names goes where another entry is a template of the same group, kind and name,
and else stays (`cleanup_covers_templates`, `cleanup_leaves_undecodable`).
-/

namespace ClassReconciler

open Cluster (sampleEntry sampleKey sampleObject)

/-! ## Owned keys -/

namespace Template

/-- Some template among raw resources places its object at the key. -/
def Places (raws : List Json) (k : ObjectKey) : Prop :=
  ∃ t ∈ parseAll raws, k = ObjectKey.new t.kind k.namespaceName t.name

instance (raws : List Json) (k : ObjectKey) : Decidable (Places raws k) :=
  inferInstanceAs (Decidable (∃ t ∈ parseAll raws, k = ObjectKey.new t.kind k.namespaceName t.name))

theorem places_of_parse {raws : List Json} {raw : Json} {t : Template} (hraw : raw ∈ raws)
    (ht : parse raw = .ok t) (n : String) : Places raws (ObjectKey.new t.kind n t.name) :=
  ⟨t, mem_parseAll.2 ⟨raw, hraw, ht⟩, rfl⟩

theorem places_append {raws raws' : List Json} {k : ObjectKey} :
    Places (raws ++ raws') k ↔ Places raws k ∨ Places raws' k := by
  simp only [Places, parseAll, List.filterMap_append, List.mem_append, or_and_right, exists_or]

/-- Where objects are placed depends on the identities only. -/
theorem places_of_ids {raws raws' : List Json} (h : ∀ id ∈ ids raws, id ∈ ids raws') {k : ObjectKey}
    (hk : Places raws k) : Places raws' k := by
  obtain ⟨t, ht, hplace⟩ := hk
  obtain ⟨u, hu, hid⟩ := mem_ids.1 (h t.id (mem_ids.2 ⟨t, ht, rfl⟩))
  obtain ⟨raw, -, hparse⟩ := mem_parseAll.1 ht
  obtain ⟨raw', -, hparse'⟩ := mem_parseAll.1 hu
  exact ⟨u, hu, hplace.trans (key_eq_of_id_eq hparse hparse' hid k.namespaceName).symm⟩

end Template

namespace NamespaceClass

/-- A template among the declared and the recorded entries places its object at the key. -/
def Owns (c : NamespaceClass) (k : ObjectKey) : Prop :=
  Template.Places (c.spec.resources ++ c.lastApplied) k

instance (c : NamespaceClass) (k : ObjectKey) : Decidable (c.Owns k) :=
  inferInstanceAs (Decidable (Template.Places (c.spec.resources ++ c.lastApplied) k))

/-- Where no name is refused, the cleanup of a class erases what it owns in the namespaces that
opt in. -/
theorem cleansUp_iff (c : NamespaceClass) (namespaces : List Namespace) (k : ObjectKey) :
    c.CleansUp [] namespaces k ↔
      (∃ ns ∈ namespaces, ns.cleanupEnabled = true ∧ k.namespaceName = ns.nameAny) ∧ c.Owns k := by
  constructor
  · rintro ⟨ns, hns, hopted, t, ht, -, rfl⟩
    rw [← declaredTemplates_eq] at ht
    exact ⟨⟨ns, hns, hopted, rfl⟩, t, mem_of_mem_firstOfEachId ht, rfl⟩
  · rintro ⟨⟨ns, hns, hopted, hname⟩, t, ht, hk⟩
    obtain ⟨u, hu, hkey⟩ := exists_declaredTemplate ht ns.nameAny
    rw [declaredTemplates_eq] at hu
    exact ⟨ns, hns, hopted, u, hu, List.not_mem_nil, by rw [hkey, ← hname, ← hk]⟩

end NamespaceClass

/-- In a namespace that opts in, the cleanup after a class erases what the class owns. -/
theorem Cluster.find?_reconciled_of_optedIn {s : Cluster} (hs : s.WellFormed) {key : Key}
    {name : String} (hkey : key.StandsFor s name) {c : NamespaceClass}
    (hc : s.classes.find? name = some c) (deleting : c.isDeleting = true)
    (held : c.hasFinalizer = true) {ns : Namespace} (hns : ns ∈ s.namespacesForClass name)
    (hopted : ns.cleanupEnabled = true) {k : ObjectKey} (hk : k.namespaceName = ns.nameAny) :
    (s.reconciled key).objects.find? k = if c.Owns k then none else s.objects.find? k := by
  rw [find?_reconciled_of_hasFinalizer hs hkey hc deleting held]
  have hcleans : c.CleansUp [] (s.namespacesForClass name) k ↔ c.Owns k :=
    (c.cleansUp_iff _ k).trans (and_iff_right ⟨ns, hns, hopted, hk⟩)
  simp only [hcleans]

/-- Where no name is refused, no deletion is. -/
theorem NamespaceClass.refusedDeletions_nil (c : NamespaceClass) (namespaces : List Namespace) :
    c.refusedDeletions [] namespaces = 0 := by
  simp [NamespaceClass.refusedDeletions]

/-- Where no call fails, the cleanup after a class that the finalizer holds is complete. -/
theorem Simulation.finalized_of_hasFinalizer {s : Simulation} (hs : s.cluster.WellFormed)
    (hfaults : s.faults = []) {className : String} {c : NamespaceClass}
    (hc : s.cluster.classes.find? className = some c) (deleting : c.isDeleting = true)
    (held : c.hasFinalizer = true) :
    ∃ cleaned orphaned,
      (s.reconcile (.ofClass className) .never).1 = .ok (.finalized cleaned orphaned) := by
  obtain rfl := hs.classes hc
  have hrefusing : s.faults = Fault.refusing (fun _ => .timeout) [] := hfaults
  obtain ⟨hresult, -⟩ :=
    run_refusing hrefusing (ClassReconciler.reconcile (.ofClass c.nameAny)).run
  obtain ⟨-, -, -, -, hdone⟩ := Cluster.runRefusing_reconcile_deleting (fun _ => .timeout) [] hs hc
    deleting held
  exact ⟨_, _, hresult.trans (hdone (c.refusedDeletions_nil _)).1⟩

/-! ## The cleanup -/

/-- Where no call fails, the reconcile of a class that is being deleted and held by the finalizer
ends as finalized. Of every declared or recorded entry that has an identity with a valid API
version, let the group, kind and name be those of an object in a namespace of the class that opts
into cleanup. If the entry decodes, nothing is left there. If it does not, what is left is what was
there before, unless the class owns the key by another entry, and then nothing is. -/
theorem cleanup_covers_templates {s : Simulation} (hs : s.cluster.Reachable)
    (hfaults : s.faults = []) {className : String} {c : NamespaceClass}
    (hc : s.cluster.classes.find? className = some c) (deleting : c.isDeleting = true)
    (held : c.hasFinalizer = true) :
    let r := s.reconcile (.ofClass className) .never
    (∃ cleaned orphaned, r.1 = .ok (.finalized cleaned orphaned)) ∧
      ∀ raw ∈ c.spec.resources ++ c.lastApplied, ∀ id kind, TemplateId.of raw = .ok id →
        ObjectKind.of? id.apiVersion id.kind = some kind →
        ∀ ns ∈ s.cluster.namespacesForClass className, ns.cleanupEnabled = true →
          let k := ObjectKey.new kind ns.nameAny id.name
          ((∃ object, Manifest.decode raw = .ok object) → r.2.cluster.objects.find? k = none) ∧
            r.2.cluster.objects.find? k =
              if c.Owns k then none else s.cluster.objects.find? k := by
  intro r
  refine ⟨Simulation.finalized_of_hasFinalizer hs.wellFormed hfaults hc deleting held, ?_⟩
  intro raw hraw id kind hid hkind ns hns hopted k
  have hfind : r.2.cluster.objects.find? k =
      if c.Owns k then none else s.cluster.objects.find? k := by
    rw [Cluster.reconciled_of_faultless hfaults]
    exact Cluster.find?_reconciled_of_optedIn hs.wellFormed ⟨Or.inl rfl, rfl⟩ hc deleting held
      hns hopted rfl
  refine ⟨?_, hfind⟩
  rintro ⟨object, hdecode⟩
  have hparse : Template.parse raw = .ok ⟨id, kind, object⟩ := by
    simp only [Template.parse, hid, hkind, hdecode]
  exact hfind.trans (if_pos (Template.places_of_parse hraw hparse ns.nameAny))

/-! ### Entries that do not decode -/

/-- One namespace that opts into cleanup and names a class that is being deleted. The class
declares `new` and a broken `keep`, has a broken `new` on record, and both objects exist. -/
def Cluster.undecodable : Cluster :=
  let c : NamespaceClass := {
    metadata := {
      name := some "gold"
      finalizers := some [classFinalizer]
      deletionTimestamp := some deletionTime }
    spec := ⟨[sampleEntry "new", brokenEntry "keep"]⟩
    status := some ⟨[brokenEntry "new"]⟩ }
  ((Cluster.unguarded.putClass c).putObject (sampleObject "new") "team").putObject
    (sampleObject "keep") "team"

theorem Cluster.reachable_undecodable : Cluster.undecodable.Reachable :=
  ((Cluster.reachable_unguarded.putClass _).putObject _ _).putObject _ _

/-- What the broken entries name, and which of it the class owns. -/
theorem Cluster.class_undecodable : ∃ c, undecodable.classes.find? "gold" = some c ∧
    c.isDeleting = true ∧ c.hasFinalizer = true ∧
    c.spec.resources ++ c.lastApplied = [sampleEntry "new", brokenEntry "keep", brokenEntry "new"] ∧
    c.Owns (sampleKey "new") ∧ ¬c.Owns (sampleKey "keep") :=
  ⟨_, rfl, rfl, rfl, rfl, by decide +kernel, by decide +kernel⟩

theorem Cluster.namespace_undecodable : ∃ ns ∈ undecodable.namespacesForClass "gold",
    ns.cleanupEnabled = true ∧ ns.nameAny = "team" :=
  ⟨_, List.mem_singleton_self _, rfl, rfl⟩

/-- A config map whose labels are no map has an identity with a valid API version. -/
theorem exists_of_brokenEntry : ∃ kind, ObjectKind.of? "v1" "ConfigMap" = some kind ∧
    (∀ name, ObjectKey.new kind "team" name = sampleKey name) ∧
    ∀ name ∈ ["new", "keep"], TemplateId.of (brokenEntry name) = .ok ⟨"v1", "ConfigMap", name⟩ := by
  have hids : ∀ name ∈ ["new", "keep"],
      (TemplateId.of (brokenEntry name)).toOption = some ⟨"v1", "ConfigMap", name⟩ := by
    decide +kernel
  exact ⟨_, rfl, fun _ => rfl, fun name hname => except_toOption_eq_some.1 (hids name hname)⟩

/-- The object of a broken entry goes with the template of its key, and the other one stays. -/
theorem cleanup_covers_templates_sample :
    let s : Simulation := { cluster := .undecodable }
    let r := s.reconcile (.ofClass "gold") .never
    s.cluster.Reachable ∧ (∃ cleaned orphaned, r.1 = .ok (.finalized cleaned orphaned)) ∧
      r.2.cluster.objects.find? (sampleKey "new") = none ∧
      r.2.cluster.objects.find? (sampleKey "keep") =
        s.cluster.objects.find? (sampleKey "keep") := by
  intro s r
  obtain ⟨c, hc, deleting, held, hentries, hnew, hkeep⟩ := Cluster.class_undecodable
  obtain ⟨ns, hns, hopted, hname⟩ := Cluster.namespace_undecodable
  obtain ⟨kind, hkind, hkeys, hids⟩ := exists_of_brokenEntry
  obtain ⟨hfinalized, hcovers⟩ :=
    cleanup_covers_templates (s := s) Cluster.reachable_undecodable rfl hc deleting held
  have hcovers : ∀ name ∈ ["new", "keep"], r.2.cluster.objects.find? (sampleKey name) =
      if c.Owns (sampleKey name) then none else s.cluster.objects.find? (sampleKey name) := by
    intro name hmem
    have hraw : brokenEntry name ∈ c.spec.resources ++ c.lastApplied := by
      rw [hentries]
      simp only [List.mem_cons, List.not_mem_nil, or_false] at hmem
      rcases hmem with rfl | rfl <;> simp
    have hfind := (hcovers _ hraw _ kind (hids name hmem) hkind ns hns hopted).2
    rwa [hname, hkeys] at hfind
  refine ⟨Cluster.reachable_undecodable, hfinalized, ?_, ?_⟩
  · rw [hcovers "new" List.mem_cons_self, if_pos hnew]
  · rw [hcovers "keep" (List.mem_cons_of_mem _ List.mem_cons_self), if_neg hkeep]

/-- So an entry whose identity can be read can keep its object when the class is gone. -/
theorem cleanup_leaves_undecodable :
    ¬∀ (s : Simulation) (className : String) (c : NamespaceClass), s.cluster.Reachable →
      s.faults = [] → s.cluster.classes.find? className = some c → c.isDeleting = true →
      c.hasFinalizer = true →
      let r := s.reconcile (.ofClass className) .never
      (∃ cleaned orphaned, r.1 = .ok (.finalized cleaned orphaned)) →
        ∀ raw ∈ c.spec.resources ++ c.lastApplied, ∀ id kind, TemplateId.of raw = .ok id →
          ObjectKind.of? id.apiVersion id.kind = some kind →
          ∀ ns ∈ s.cluster.namespacesForClass className, ns.cleanupEnabled = true →
            r.2.cluster.objects.find? (ObjectKey.new kind ns.nameAny id.name) = none := by
  intro hclaim
  let s : Simulation := { cluster := .undecodable }
  let r := s.reconcile (.ofClass "gold") .never
  obtain ⟨c, hc, deleting, held, hentries, -, -⟩ := Cluster.class_undecodable
  obtain ⟨ns, hns, hopted, hname⟩ := Cluster.namespace_undecodable
  obtain ⟨kind, hkind, hkeys, hids⟩ := exists_of_brokenEntry
  obtain ⟨hresult, hfound⟩ : r.1.toOption = some (.finalized 1 0) ∧
      (r.2.cluster.objects.find? (sampleKey "keep")).isSome = true := by decide +kernel
  have hraw : brokenEntry "keep" ∈ c.spec.resources ++ c.lastApplied := by
    rw [hentries]
    exact List.mem_cons_of_mem _ List.mem_cons_self
  have hnone := hclaim s "gold" c Cluster.reachable_undecodable rfl hc deleting held
    ⟨_, _, except_toOption_eq_some.1 hresult⟩ _ hraw _ kind
    (hids "keep" (List.mem_cons_of_mem _ List.mem_cons_self)) hkind ns hns hopted
  rw [hname, hkeys] at hnone
  rw [show r.2.cluster.objects.find? (sampleKey "keep") = none from hnone] at hfound
  cases hfound

end ClassReconciler
