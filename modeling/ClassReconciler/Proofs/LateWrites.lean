import ClassReconciler.Proofs.ClassEdits
import ClassReconciler.Proofs.ObjectUpdates
import ClassReconciler.Proofs.ReconcileEnds

/-!
# Writes into a namespace that was cleaned up

The reconcile of a namespace checks once whether the class is being deleted, and then writes one
object after the other. If the class is marked and cleaned up in between, the writes that are
left are made all the same, and nothing deletes their objects any more
(`cleaned_namespace_refilled`).

That is the only way: an object of a class that is found in one of its namespaces after the
finalizer was removed has been created after the cleanup deleted it, by a task that had read the
class before, when it was not marked (`created_late_by_earlier_reader`).
-/

namespace ClassReconciler

/-! ## Turns without edits -/

/-- No call fails, and users do nothing but mark a class for deletion. -/
def Turn.OnlyMarks (name : String) : Turn Key → Prop
  | .start _ => True
  | .advance _ f => f = .served
  | .write w => w = .markDeleted name

namespace Cluster

/-- A class that is there was there before with the same spec, and a mark on it stays. -/
def KeepsSpec (name : String) (s s' : Cluster) : Prop :=
  ∀ c', s'.classes.find? name = some c' → ∃ c, s.classes.find? name = some c ∧
    c'.spec = c.spec ∧ (c.isDeleting = true → c'.isDeleting = true)

theorem isPassage_keepsSpec (name : String) : IsPassage (KeepsSpec name) where
  refl s c hc := ⟨c, hc, rfl, id⟩
  trans h h' c'' hc'' := by
    obtain ⟨c', hc', hspec', hmark'⟩ := h' c'' hc''
    obtain ⟨c, hc, hspec, hmark⟩ := h c' hc'
    exact ⟨c, hc, hspec'.trans hspec, hmark' ∘ hmark⟩

theorem KeepsEdits.keepsSpec {name : String} {s s' : Cluster} (h : s.KeepsEdits name s') :
    s.KeepsSpec name s' := by
  intro c' hc'
  obtain ⟨c, hc, hspec, hmark⟩ := h c' hc'
  refine ⟨c, hc, hspec, fun deleting => ?_⟩
  rwa [NamespaceClass.isDeleting, Metadata.isDeleting, hmark]

theorem apply_markDeleted (name : String) (s : Cluster) :
    (ClientWrite.markDeleted name).apply s = (s.markDeleted name).getD s := rfl

theorem markDeleted_keeps (name : String) (s : Cluster) :
    ((ClientWrite.markDeleted name).apply s).namespaces = s.namespaces ∧
      ((ClientWrite.markDeleted name).apply s).objects = s.objects := by
  rw [apply_markDeleted, markDeleted, editClass]
  cases s.classes.find? name <;> exact ⟨rfl, rfl⟩

theorem keepsSpec_markDeleted (name : String) (s : Cluster) :
    s.KeepsSpec name ((ClientWrite.markDeleted name).apply s) := by
  intro c' hc'
  rw [apply_markDeleted] at hc'
  cases hc : s.classes.find? name with
  | none =>
    rw [markDeleted, editClass, hc] at hc'
    exact absurd (hc.symm.trans hc') (Option.some_ne_none _).symm
  | some c =>
    rw [markDeleted_of_stored hc, Option.getD_some] at hc'
    simp only [SortedMap.find?_insert, if_true] at hc'
    obtain rfl := Option.some.inj hc'
    exact ⟨c, rfl, rfl, fun _ => rfl⟩

/-- No call writes a namespace. -/
theorem namespaces_meet (s : Cluster) (c : StoreCall) (f : Fate) :
    (s.meet c f).2.namespaces = s.namespaces := by
  rcases s.meet_cluster c f with h | h <;> rw [h]
  cases c with
  | replaceClass c => exact s.namespaces_replaceClass c
  | replaceClassStatus c =>
    simp only [perform, replaceClassStatus]
    split <;> rfl
  | createObject kind o =>
    simp only [perform, createObject]
    split <;> rfl
  | replaceObject kind o =>
    simp only [perform, replaceObject]
    split
    · rfl
    · split <;> rfl
  | _ => rfl

end Cluster

/-! ## Calls on an object -/

namespace StoreCall

def Erases (c : StoreCall) (k : ObjectKey) : Prop :=
  ∃ kind n name, c = .deleteObject kind n name ∧ ObjectKey.new kind n name = k

def Creates (c : StoreCall) (k : ObjectKey) : Prop :=
  ∃ kind o, c = .createObject kind o ∧ ObjectKey.of o = k

end StoreCall

/-- Where there is an object after a call and none before, the call has created it. -/
theorem creates_of_find? {r : ScheduledCall} {k : ObjectKey}
    (hbefore : r.met.objects.find? k = none) (hafter : r.after.objects.find? k ≠ none) :
    r.call.Creates k := by
  obtain ⟨s, c, f⟩ := r
  have hsame : ∀ s' : Cluster, s'.objects = s.objects → s'.objects.find? k = none :=
    fun s' h => h ▸ hbefore
  rcases s.meet_cluster c f with h | h <;> rw [ScheduledCall.after, h] at hafter
  · exact absurd hbefore hafter
  cases c with
  | createObject kind o =>
    rcases s.createObject_cases o with ⟨e, h⟩ | ⟨-, h⟩ <;> simp only [Cluster.perform, h] at hafter
    · exact absurd hbefore hafter
    by_cases hk : k = ObjectKey.of o
    · exact ⟨kind, o, rfl, hk.symm⟩
    · exact absurd ((SortedMap.find?_insert _ _ _ _).trans (if_neg hk)) (hbefore ▸ hafter)
  | replaceObject kind o =>
    rcases s.replaceObject_cases o with ⟨e, h⟩ | ⟨stored, hstored, -, h⟩ <;>
      simp only [Cluster.perform, h] at hafter
    · exact absurd hbefore hafter
    have hk : k ≠ ObjectKey.of o := by
      rintro rfl
      exact (Option.some_ne_none _).symm (hbefore.symm.trans hstored)
    exact absurd ((SortedMap.find?_insert _ _ _ _).trans (if_neg hk)) (hbefore ▸ hafter)
  | deleteObject kind n name =>
    refine absurd ((SortedMap.find?_erase _ _ _).trans ?_) hafter
    split
    · rfl
    · exact hbefore
  | replaceClass c => exact absurd (hsame _ (s.objects_replaceClass c)) hafter
  | replaceClassStatus c =>
    refine absurd (hsame _ ?_) hafter
    simp only [Cluster.perform, Cluster.replaceClassStatus]
    split <;> rfl
  | _ => exact absurd hbefore hafter

/-- No object is left where a served call has erased it. -/
theorem find?_of_erases {r : ScheduledCall} {k : ObjectKey} (h : r.call.Erases k)
    (hserved : r.fate = .served) : r.after.objects.find? k = none := by
  obtain ⟨kind, n, name, hcall, rfl⟩ := h
  rw [ScheduledCall.after, hcall, hserved]
  exact (SortedMap.find?_erase _ _ _).trans (if_pos rfl)

/-! ## What is kept -/

/-- The namespaces stay, and the class keeps its spec and its mark. -/
structure Cluster.KeepsClass (name : String) (s s' : Cluster) : Prop where
  namespaces : s'.namespaces = s.namespaces
  spec : s.KeepsSpec name s'

theorem Cluster.isPassage_keepsClass (name : String) : IsPassage (KeepsClass name) where
  refl s := ⟨rfl, (isPassage_keepsSpec name).refl s⟩
  trans h h' := ⟨h'.namespaces.trans h.namespaces, (isPassage_keepsSpec name).trans h.spec h'.spec⟩

theorem Cluster.KeepsClass.mem_namespacesForClass {name className : String} {s s' : Cluster}
    (h : s.KeepsClass name s') {ns : Namespace} :
    ns ∈ s'.namespacesForClass className ↔ ns ∈ s.namespacesForClass className := by
  rw [namespacesForClass, h.namespaces, namespacesForClass]

section Run

variable {s : Cluster} (hs : s.Reachable) {name : String} {turns : List (Turn Key)}
  (hturns : ∀ turn ∈ turns, turn.OnlyMarks name)

include hs hturns

theorem ordered_keepsClass : (s.reconciling turns).Ordered (Cluster.KeepsClass name) s := by
  refine (SharedCluster.ordered_start (Cluster.isPassage_keepsClass name) s).run
    (Cluster.isPassage_keepsClass name) (fun w hw s => ?_) fun e he => ?_
  · obtain rfl : w = .markDeleted name := hturns _ hw
    exact ⟨(s.markDeleted_keeps name).1, s.keepsSpec_markDeleted name⟩
  · exact ⟨e.met.namespaces_meet e.call e.fate, (keepsEdits_of_log hs turns name he).keepsSpec⟩

omit hs in
/-- What a task deleted and is there again was created later. -/
theorem exists_creates {before later : List TaskCall} {d : TaskCall} {k : ObjectKey}
    (hlog : (s.reconciling turns).log = before ++ d :: later)
    (hd : d.after.objects.find? k = none)
    (hend : (s.reconciling turns).cluster.objects.find? k ≠ none) :
    ∃ between e after, later = between ++ e :: after ∧ e.call.Creates k := by
  have hstart : ({ cluster := s } : SharedCluster Key ReconcileResult).TracesLoss
      fun s => s.objects.find? k = none := fun l d l' h => by simp at h
  have hrun : (s.reconciling turns).TracesLoss fun s => s.objects.find? k = none := by
    refine hstart.run fun w hw s hnone => ?_
    obtain rfl : w = .markDeleted name := hturns _ hw
    rwa [(s.markDeleted_keeps name).2]
  obtain ⟨between, e, after, hlater, hbefore, hafter⟩ := hrun hlog hd hend
  exact ⟨between, e, after, hlater, creates_of_find? hbefore hafter⟩

/-- A class that is marked once is marked at every later read of it. -/
theorem isDeleting_of_finds {before later : List TaskCall} {d e : TaskCall} {c c' : NamespaceClass}
    (hlog : (s.reconciling turns).log = before ++ later) (hd : d ∈ before) (he : e ∈ later)
    (hfinds : d.Finds name c) (deleting : c.isDeleting = true) (hfinds' : e.Finds name c') :
    c'.isDeleting = true := by
  have horder := (ordered_keepsClass hs hturns).order
  rw [hlog] at horder
  have hkept := (List.pairwise_append.1 horder).2.2 d hd e he
  rw [hfinds.after_eq] at hkept
  obtain ⟨c₁, hc₁, -, hmark⟩ := hkept.spec c' hfinds'.found
  rw [hfinds.found] at hc₁
  exact hmark (Option.some.inj hc₁ ▸ deleting)

theorem keepsClass_of_callsOf {i : Nat} {r : ScheduledCall}
    (hr : r ∈ callsOf (s.reconciling turns).log i) : s.KeepsClass name r.met := by
  obtain ⟨e, he, -, rfl⟩ := mem_callsOf.1 hr
  exact (ordered_keepsClass hs hturns).met e he

/-- A task that has removed the finalizer had read the class, which was marked, and then deleted
what it declares from the namespaces that opt in. -/
theorem exists_deletion {c : NamespaceClass} (hc : s.classes.find? name = some c) {i : Nat}
    (hfinalized : Finalized name (callsOf (s.reconciling turns).log i)) {ns : Namespace}
    (hns : ns ∈ s.namespacesForClass name) (hopted : ns.cleanupEnabled = true) {t : Template}
    (ht : t ∈ Template.parseAll c.spec.resources) :
    ∃ before deletion later, (s.reconciling turns).log = before ++ deletion :: later ∧
      deletion.task = i ∧ deletion.call.Erases (.new t.kind ns.nameAny t.name) ∧
      deletion.fate = .served ∧ ∃ read ∈ callsOf before i, ∃ c', read.Finds name c' ∧
        c'.isDeleting = true := by
  obtain ⟨-, past, read, rest, c', hcalls, hfinds, deleting, listing, hlisting, hall⟩ := hfinalized
  have hread : read ∈ callsOf (s.reconciling turns).log i := by simp [hcalls]
  have hlists : listing ∈ callsOf (s.reconciling turns).log i := by simp [hcalls, hlisting]
  have hspec : c'.spec = c.spec := by
    obtain ⟨c₁, hc₁, hspec, -⟩ := (keepsClass_of_callsOf hs hturns hread).spec c' hfinds.found
    exact hspec.trans (congrArg _ (Option.some.inj (hc₁.symm.trans hc)))
  have hlisted : ns ∈ listing.met.namespacesForClass name :=
    (keepsClass_of_callsOf hs hturns hlists).mem_namespacesForClass.2 hns
  obtain ⟨u, hu, hkey⟩ := exists_declaredTemplate (mem_parseAll_of_declared (hspec ▸ ht))
    ns.nameAny
  obtain ⟨d, hd, hdeletes, hserved⟩ := hall ns hlisted hopted u hu
  obtain ⟨earlier, others, rfl⟩ := List.append_of_mem hd
  have hsplit : callsOf (s.reconciling turns).log i =
      (past ++ read :: earlier) ++ d :: others := by simp [hcalls]
  obtain ⟨before, deletion, later, hlog, htask, rfl, hbefore, -⟩ := exists_of_callsOf_eq hsplit
  exact ⟨before, deletion, later, hlog, htask, ⟨u.kind, ns.nameAny, u.name, hdeletes, hkey⟩,
    hserved, read, by simp [hbefore], c', hfinds, deleting⟩

/-- A task that creates an object in a namespace of a class has read the class, which was not
marked. -/
theorem exists_read_of_creates {before later : List TaskCall} {e : TaskCall} {k : ObjectKey}
    (hlog : (s.reconciling turns).log = before ++ e :: later) (hcreates : e.call.Creates k)
    {ns : Namespace} (hns : ns ∈ s.namespacesForClass name) (hk : k.namespaceName = ns.nameAny) :
    ∃ read ∈ callsOf before e.task, ∃ c, read.Finds name c ∧ c.isDeleting = false := by
  obtain ⟨kind, o, hcall, rfl⟩ := hcreates
  obtain ⟨-, -, -, hjustified⟩ := (follows_reconciling hs turns).log hlog
  rw [hcall] at hjustified
  obtain ⟨name', ns', ⟨r, hr, hread⟩, ⟨listing, hlisting, hmem⟩, hname⟩ := hjustified
  have hlists : listing ∈ callsOf (s.reconciling turns).log e.task := by
    rw [hlog, callsOf, List.filter_append, List.map_append]
    exact List.mem_append_left _ hlisting
  have hns' : ns' ∈ s.namespacesForClass name' :=
    (keepsClass_of_callsOf hs hturns hlists).mem_namespacesForClass.1 hmem
  obtain rfl := hs.wellFormed.toNamed.eq_of_mem_namespacesForClass hns hns' (hk.symm.trans hname)
  exact ⟨r, hr, hread⟩

/-- Where no call fails and users do nothing but mark the class for deletion: an object of a class
that is found in a namespace that opted into cleanup, once a reconcile of the class has removed the
finalizer, was deleted by that reconcile and created after that by another task, which had read the
class before the deletion, when it was not marked. -/
theorem created_late_by_earlier_reader {c : NamespaceClass}
    (hc : s.classes.find? name = some c) {key : Key} (hkey : key.name = name)
    {i cleaned orphaned : Nat} (hjob : (s.reconciling turns).job? i = some key)
    (hresult : (s.reconciling turns).result? i = some (.ok (.finalized cleaned orphaned)))
    {ns : Namespace} (hns : ns ∈ s.namespacesForClass name) (hopted : ns.cleanupEnabled = true)
    {t : Template} (ht : t ∈ Template.parseAll c.spec.resources) :
    let k := ObjectKey.new t.kind ns.nameAny t.name
    (s.reconciling turns).cluster.objects.find? k ≠ none →
      ∃ before deletion between creation later,
        (s.reconciling turns).log = before ++ deletion :: between ++ creation :: later ∧
        deletion.task = i ∧ deletion.call.Erases k ∧
        creation.task ≠ i ∧ creation.call.Creates k ∧
        ∃ read ∈ callsOf before creation.task, ∃ c', read.Finds name c' ∧
          c'.isDeleting = false := by
  intro k hfound
  have hfinalized : Finalized name (callsOf (s.reconciling turns).log i) :=
    hkey ▸ (follows_reconciling hs turns).ended hjob hresult cleaned orphaned rfl
  obtain ⟨before, deletion, later, hlog, htask, herases, hserved, marked, hmarked, c₁, hfinds₁,
    deleting⟩ := exists_deletion hs hturns hc hfinalized hns hopted ht
  obtain ⟨between, creation, after, rfl, hcreates⟩ :=
    exists_creates hturns hlog (find?_of_erases herases hserved) hfound
  have hlog' : (s.reconciling turns).log = before ++ deletion :: between ++ creation :: after := by
    rw [hlog, List.append_assoc, List.cons_append]
  -- the task that cleans up creates nothing
  have hother : creation.task ≠ i := fun hsame => by
    obtain ⟨kind, o, hcall, -⟩ := hcreates
    refine hfinalized.1 creation.toScheduledCall ?_ (hcall ▸ trivial)
    exact mem_callsOf.2 ⟨creation, by simp [hlog'], hsame, rfl⟩
  obtain ⟨read, hread, c', hfinds, active⟩ :=
    exists_read_of_creates hs hturns hlog' hcreates hns rfl
  refine ⟨before, deletion, between, creation, after, hlog', htask, herases, hother, hcreates,
    read, ?_, c', hfinds, active⟩
  -- a read after the deletion would have found the class marked
  obtain ⟨e, he, hetask, rfl⟩ := mem_callsOf.1 hread
  refine mem_callsOf.2 ⟨e, (List.mem_append.1 he).resolve_right fun hlater => ?_, hetask, rfl⟩
  obtain ⟨m, hm, -, rfl⟩ := mem_callsOf.1 hmarked
  have hlate : e ∈ deletion :: (between ++ creation :: after) := by
    rw [← List.cons_append]
    exact List.mem_append_left _ hlater
  rw [isDeleting_of_finds hs hturns hlog hm hlate hfinds₁ deleting hfinds] at active
  cases active

end Run

/-! ## A late write -/

/-- A namespace is reconciled up to the read of its class. Then the class is marked and cleaned up
after, and then the reconcile of the namespace goes on. -/
def lateTurns : List (Turn Key) :=
  .start (.ofNamespace "team") :: List.replicate 2 (.advance 0 .served) ++
    .write (.markDeleted "gold") :: .start (.ofClass "gold") ::
      List.replicate 6 (.advance 1 .served) ++ List.replicate 2 (.advance 0 .served)

theorem onlyMarks_lateTurns : ∀ turn ∈ lateTurns, turn.OnlyMarks "gold" := by
  simp [lateTurns, Turn.OnlyMarks]

/-- Both reconciles end as they should, and the object of the class is there. -/
theorem reconciling_lateTurns :
    let after := Cluster.sample.reconciling lateTurns
    (after.result? 1).bind Except.toOption = some (.finalized 1 0) ∧
      (after.result? 0).bind Except.toOption = some (.inNamespace "gold" 0) ∧
      after.tasks.map Task.job = [.ofNamespace "team", .ofClass "gold"] ∧
      after.cluster.objects.keys = [Cluster.sampleKey "new"] := by decide +kernel

/-- The class of the small cluster, its namespace and its template. -/
theorem Cluster.sample_class : ∃ c ns t, sample.classes.find? "gold" = some c ∧
    c.hasFinalizer = true ∧ (∀ raw ∈ c.spec.resources, ∃ t, Template.parse raw = .ok t) ∧
    ns ∈ sample.namespacesForClass "gold" ∧ ns.cleanupEnabled = true ∧ ns.nameAny = "team" ∧
    t ∈ Template.parseAll c.spec.resources ∧
    ObjectKey.new t.kind ns.nameAny t.name = sampleKey "new" := by
  obtain ⟨t, hparse, hkey⟩ := Template.exists_parse_sampleEntry
  obtain ⟨c, hc, hspec, held⟩ : ∃ c, sample.classes.find? "gold" = some c ∧
      c.spec.resources = [sampleEntry "new"] ∧ c.hasFinalizer = true := ⟨_, rfl, rfl, rfl⟩
  obtain ⟨ns, hns, hopted, hname⟩ : ∃ ns, ns ∈ sample.namespacesForClass "gold" ∧
      ns.cleanupEnabled = true ∧ ns.nameAny = "team" := ⟨_, List.mem_cons_self, rfl, rfl⟩
  refine ⟨c, ns, t, hc, held, ?_, hns, hopted, hname, ?_, by rw [hname, hkey, sampleKey]⟩
  · rw [hspec]
    exact fun raw hraw => ⟨t, List.mem_singleton.1 hraw ▸ hparse⟩
  · rw [hspec]
    exact Template.mem_parseAll.2 ⟨_, List.mem_singleton_self _, hparse⟩

/-- The config map of the class is found in the namespace after the finalizer was removed. -/
theorem created_late_by_earlier_reader_sample :
    let after := Cluster.sample.reconciling lateTurns
    Cluster.sample.Reachable ∧ (∀ turn ∈ lateTurns, turn.OnlyMarks "gold") ∧
      ∃ c ns t, Cluster.sample.classes.find? "gold" = some c ∧
        after.job? 1 = some (.ofClass "gold") ∧
        after.result? 1 = some (.ok (.finalized 1 0)) ∧
        ns ∈ Cluster.sample.namespacesForClass "gold" ∧ ns.cleanupEnabled = true ∧
        t ∈ Template.parseAll c.spec.resources ∧
        let k := ObjectKey.new t.kind ns.nameAny t.name
        after.cluster.objects.find? k ≠ none ∧
        ∃ before deletion between creation later,
          after.log = before ++ deletion :: between ++ creation :: later ∧
          deletion.task = 1 ∧ deletion.call.Erases k ∧
          creation.task ≠ 1 ∧ creation.call.Creates k ∧
          ∃ read ∈ callsOf before creation.task, ∃ c', read.Finds "gold" c' ∧
            c'.isDeleting = false := by
  intro after
  obtain ⟨c, ns, t, hc, -, -, hns, hopted, -, ht, hkey⟩ := Cluster.sample_class
  obtain ⟨hfinalized, -, -, hkeys⟩ := reconciling_lateTurns
  have hjob : after.job? 1 = some (.ofClass "gold") := by decide +kernel
  obtain ⟨result, hresult, hok⟩ := Option.bind_eq_some_iff.1 hfinalized
  obtain rfl := except_toOption_eq_some.1 hok
  have hfound : after.cluster.objects.find? (ObjectKey.new t.kind ns.nameAny t.name) ≠ none := by
    rw [hkey, Option.ne_none_iff_isSome, ← SortedMap.mem_keys_iff, hkeys]
    exact List.mem_singleton_self _
  exact ⟨Cluster.reachable_sample, onlyMarks_lateTurns, c, ns, t, hc, hjob, hresult, hns, hopted,
    ht, hfound, created_late_by_earlier_reader Cluster.reachable_sample onlyMarks_lateTurns hc rfl
      hjob hresult hns hopted ht hfound⟩

/-- So a cleanup can be undone by the reconcile of a namespace that was under way: the one of the
class has ended with the finalizer removed and the other has ended too, and the object is there. -/
theorem cleaned_namespace_refilled :
    ¬∀ (s : Cluster) (name : String) (c : NamespaceClass) (turns : List (Turn Key))
      (i cleaned orphaned : Nat), s.Reachable → s.classes.find? name = some c →
      c.hasFinalizer = true → (∀ raw ∈ c.spec.resources, ∃ t, Template.parse raw = .ok t) →
      (∀ turn ∈ turns, turn.OnlyMarks name) →
      let after := s.reconciling turns
      (after.tasks.map Task.job).Nodup →
      (∀ job ∈ after.tasks.map Task.job, job = .ofClass name ∨
        ∃ ns ∈ s.namespacesForClass name, ns.cleanupEnabled = true ∧
          job = .ofNamespace ns.nameAny) →
      after.job? i = some (.ofClass name) →
      after.result? i = some (.ok (.finalized cleaned orphaned)) →
      (∀ j < after.tasks.length, (after.result? j).isSome) →
      ∀ ns ∈ s.namespacesForClass name, ns.cleanupEnabled = true →
        ∀ t ∈ Template.parseAll c.spec.resources,
          after.cluster.objects.find? (ObjectKey.new t.kind ns.nameAny t.name) = none := by
  intro hclaim
  obtain ⟨c, ns, t, hc, held, hparse, hns, hopted, hname, ht, hkey⟩ := Cluster.sample_class
  obtain ⟨hfinalized, happlied, hjobs, hkeys⟩ := reconciling_lateTurns
  obtain ⟨result, hresult, hok⟩ := Option.bind_eq_some_iff.1 hfinalized
  obtain rfl := except_toOption_eq_some.1 hok
  have hended : ∀ j < (Cluster.sample.reconciling lateTurns).tasks.length,
      ((Cluster.sample.reconciling lateTurns).result? j).isSome := by
    have hlength : (Cluster.sample.reconciling lateTurns).tasks.length = 2 := by
      simpa using congrArg List.length hjobs
    intro j hj
    match j with
    | 0 =>
      obtain ⟨_, h, -⟩ := Option.bind_eq_some_iff.1 happlied
      exact Option.isSome_iff_exists.2 ⟨_, h⟩
    | 1 => exact Option.isSome_iff_exists.2 ⟨_, hresult⟩
    | j + 2 => omega
  have hkeysof : ∀ job ∈ (Cluster.sample.reconciling lateTurns).tasks.map Task.job,
      job = .ofClass "gold" ∨ ∃ ns ∈ Cluster.sample.namespacesForClass "gold",
        ns.cleanupEnabled = true ∧ job = .ofNamespace ns.nameAny := by
    rw [hjobs, List.forall_mem_cons, List.forall_mem_singleton]
    exact ⟨Or.inr ⟨ns, hns, hopted, by rw [hname]⟩, Or.inl rfl⟩
  have hnone := hclaim Cluster.sample "gold" c lateTurns 1 1 0 Cluster.reachable_sample hc held
    hparse onlyMarks_lateTurns (by rw [hjobs]; decide) hkeysof (by decide +kernel) hresult hended
    ns hns hopted t ht
  have hfound := List.mem_singleton_self (Cluster.sampleKey "new")
  rw [← hkeys, SortedMap.mem_keys_iff, ← hkey, hnone] at hfound
  cases hfound

end ClassReconciler
