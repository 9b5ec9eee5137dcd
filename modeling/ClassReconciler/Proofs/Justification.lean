import ClassReconciler.Proofs.ClassWrites
import ClassReconciler.Proofs.Interleaving
import ClassReconciler.Proofs.ObjectWork

/-!
# What justifies the writes of a reconcile

A reconcile among others knows of the cluster what its own calls have found. `Justified` says
what has been found when a write is made: a class is written as it was read, with the finalizer
added or removed, and an object is written into a namespace that names a class which was read
and was not being deleted. A reconcile that ends with the finalizer removed has deleted
everything that the class it read declares (`Finalized`).

`reconcile_justified` goes through all functions of the reconciler, whatever is answered.
-/

namespace ClassReconciler

/-! ## Calls of a task -/

/-- The call found a class. -/
structure ScheduledCall.Finds (r : ScheduledCall) (name : String) (c : NamespaceClass) : Prop where
  call : r.call = .getClass name
  fate : r.fate = .served
  found : r.met.classes.find? name = some c

namespace StoreCall

def Reads : StoreCall → Prop
  | .getNamespace _ | .getClass _ | .namespacesForClass _ | .getObject .. => True
  | _ => False

/-- The object of a template is deleted from a namespace. -/
def Deletes (c : StoreCall) (t : Template) (n : String) : Prop :=
  c = .deleteObject t.kind n t.name

def StoresObject : StoreCall → Prop
  | .createObject .. | .replaceObject .. => True
  | _ => False

theorem Reads.not_storesObject {c : StoreCall} (h : c.Reads) : ¬c.StoresObject := by
  cases c <;> first | exact id | exact h.elim

theorem Reads.not_deletes {c : StoreCall} (h : c.Reads) {kind : ObjectKind} {n name : String} :
    c ≠ .deleteObject kind n name := by
  rintro rfl
  exact h

end StoreCall

/-- What a reconcile has found when it writes. -/
def Justified (past : List ScheduledCall) : Effect → Prop
  | .call (.replaceClass c) => ∃ r ∈ past, ∃ name found, r.Finds name found ∧
      (found.isDeleting = false ∧ found.hasFinalizer = false ∧ c = found.addFinalizer.2 ∨
        found.isDeleting = true ∧ found.hasFinalizer = true ∧ c = found.removeFinalizer.2 ∧
          ∀ d ∈ past, ∀ kind n x, d.call = .deleteObject kind n x →
            ∃ t ∈ declaredTemplates found, t.kind = kind ∧ t.name = x)
  | .call (.createObject _ o) | .call (.replaceObject _ o) => ∃ name ns,
      (∃ r ∈ past, ∃ c, r.Finds name c ∧ c.isDeleting = false) ∧
      (∃ d ∈ past, ns ∈ d.met.namespacesForClass name) ∧ o.namespaceName = ns.nameAny
  | _ => True

/-- What a reconcile has done that ends with the finalizer removed: it has read the class, listed
its namespaces, and deleted from those that opt in what the class declares. -/
def Finalized (name : String) (past : List ScheduledCall) : Prop :=
  (∀ d ∈ past, ¬d.call.StoresObject) ∧ ∃ before read after c, past = before ++ read :: after ∧
    read.Finds name c ∧ c.isDeleting = true ∧ ∃ listing ∈ after,
      ∀ ns ∈ listing.met.namespacesForClass name, ns.cleanupEnabled = true →
        ∀ t ∈ declaredTemplates c, ∃ d ∈ after, d.call.Deletes t ns.nameAny ∧ d.fate = .served

/-- How a reconcile ends. -/
def Concluded (name : String) (r : ReconcileResult) (past : List ScheduledCall) : Prop :=
  ∀ cleaned orphaned, r = .ok (.finalized cleaned orphaned) → Finalized name past

theorem concluded_error (name : String) (e : ReconcileError) (past : List ScheduledCall) :
    Concluded name (.error e) past := nofun

section Walk

variable {admits : Fate → Prop}

/-! ## Applying -/

/-- Work that deletes but does not conclude is justified by the class and the namespaces that were
found. -/
theorem justified_worksIn {past : List ScheduledCall} {name : String} {namespaces : List Namespace}
    (hclass : ∃ r ∈ past, ∃ c, r.Finds name c ∧ c.isDeleting = false)
    (hlisted : ∀ ns ∈ namespaces, ∃ d ∈ past, ns ∈ d.met.namespacesForClass name)
    {deletes : Namespace → ObjectKind → String → Prop} {e : Effect}
    (he : ∃ ns ∈ namespaces, e.WorksIn ns.nameAny (deletes ns)) (more : List ScheduledCall) :
    Justified (past ++ more) e := by
  obtain ⟨ns, hns, he⟩ := he
  cases e with
  | warn w => trivial
  | call c => cases c with
    | createObject kind o | replaceObject kind o =>
      obtain ⟨r, hr, hfound⟩ := hclass
      obtain ⟨d, hd, hmem⟩ := hlisted ns hns
      exact ⟨name, ns, ⟨r, List.mem_append_left _ hr, hfound⟩, ⟨d, List.mem_append_left _ hd, hmem⟩,
        he⟩
    | getObject | deleteObject => trivial
    | _ => exact he.elim

/-- Applying and pruning are justified by the class and the namespaces that were found. -/
theorem ensures_worksIn {past : List ScheduledCall} {name : String} {namespaces : List Namespace}
    (hclass : ∃ r ∈ past, ∃ c, r.Finds name c ∧ c.isDeleting = false)
    (hlisted : ∀ ns ∈ namespaces, ∃ d ∈ past, ns ∈ d.met.namespacesForClass name)
    {deletes : Namespace → ObjectKind → String → Prop} {α : Type} {a : Action α}
    (ha : a.Asks fun e => ∃ ns ∈ namespaces, e.WorksIn ns.nameAny (deletes ns)) :
    a.Ensures (AnswersAmong admits) Justified past fun _ _ => True :=
  (ensures_among_of_asks ha past fun more _ _ he => justified_worksIn hclass hlisted he more).imp
    fun _ _ _ => trivial

/-! ## Namespaces -/

/-- A read is answered by what it finds, or the reconcile fails. -/
theorem ensures_read_then {c : StoreCall} {f : c.Answer → ReconcileAction Outcome}
    {past : List ScheduledCall} {name : String} (answer : Cluster → c.Answer)
    (hread : ∀ s : Cluster, s.perform c = (.ok (answer s), s)) (hreads : c.Reads)
    (hok : ∀ met, ScheduledCall.MayFollow ⟨met, c, .served⟩ past →
      (f (answer met)).run.Ensures (AnswersAmong admits) Justified (past ++ [⟨met, c, .served⟩])
        (Concluded name)) :
    (callOrFail c >>= f).run.Ensures (AnswersAmong admits) Justified past (Concluded name) := by
  refine ensures_read_among answer hread ?_ (concluded_error name) hok
  cases c <;> trivial

/-- The work of an action is done and the reconcile ends, not with the finalizer removed. -/
theorem ensures_liftM_then {α : Type} {a : Action α} {f : α → Outcome} {past : List ScheduledCall}
    (name : String) (ha : a.Ensures (AnswersAmong admits) Justified past fun _ _ => True)
    (hf : ∀ x cleaned orphaned, f x ≠ .finalized cleaned orphaned) :
    ((liftM a : ReconcileAction α) >>= fun x => pure (f x)).run.Ensures (AnswersAmong admits)
      Justified past (Concluded name) := by
  refine (ensures_exceptT_bind _ _ _ _).2 ((ensures_liftM _ _ _).2 (ha.imp fun x past' _ => ?_))
  exact fun cleaned orphaned h => absurd (Except.ok.inj h) (hf x cleaned orphaned)

theorem reconcileNamespace_justified {ns : Namespace} {past : List ScheduledCall}
    (hns : ∀ className, ns.className? = some className →
      ∃ d ∈ past, ns ∈ d.met.namespacesForClass className) (name : String) :
    (reconcileNamespace ns).run.Ensures (AnswersAmong admits) Justified past (Concluded name) := by
  rw [reconcileNamespace]
  cases hname : ns.className? with
  | none => exact nofun
  | some className =>
    refine ensures_read_then (fun s => s.classes.find? className) (fun _ => rfl) trivial
      fun met hfollows => ?_
    cases hc : met.classes.find? className with
    | none =>
      refine (ensures_exceptT_bind _ _ _ _).2 ((ensures_liftM _ _ _).2 ⟨trivial, ?_⟩)
      exact fun _ past' _ => concluded_error name _ past'
    | some c =>
      let read : ScheduledCall := ⟨met, .getClass className, .served⟩
      have hmem : read ∈ past ++ [read] := List.mem_append_right _ (List.mem_singleton_self read)
      simp only
      split
      case isTrue => exact nofun
      case isFalse active =>
        have hclass : ∃ r ∈ past ++ [read], ∃ c, r.Finds className c ∧ c.isDeleting = false :=
          ⟨read, hmem, c, ⟨rfl, rfl, hc⟩, by simpa using active⟩
        have hlisted : ∀ ns' ∈ [ns], ∃ d ∈ past ++ [read],
            ns' ∈ d.met.namespacesForClass className := by
          obtain ⟨d, hd, hlisted⟩ := hns className hname
          exact fun ns' hns' => ⟨d, List.mem_append_left _ hd, List.mem_singleton.1 hns' ▸ hlisted⟩
        have hasks : (applyAll c.spec.resources ns.nameAny).Asks fun e => ∃ ns' ∈ [ns],
            e.WorksIn ns'.nameAny fun _ _ => False :=
          (applyFrom_asks c.spec.resources 0 ns.nameAny).mono fun e he =>
            ⟨ns, List.mem_singleton_self ns, he⟩
        exact ensures_liftM_then name (ensures_worksIn hclass hlisted hasks) nofun

/-! ## Classes -/

theorem writeRecord_justified (c : NamespaceClass) (record : List Json)
    (past : List ScheduledCall) :
    (writeRecord c record).run.Ensures (AnswersAmong admits) Justified past fun _ _ => True :=
  .of_asks_true (writeRecord_asks c record) past fun _ _ he => he ▸ trivial

theorem warnEach_asks (className : String) (namespaces : List Namespace) :
    (warnEach className namespaces).Asks fun e => ∃ w, e = .warn w := by
  induction namespaces with
  | nil => trivial
  | cons ns rest ih => exact ⟨⟨_, rfl⟩, fun _ => ih⟩

theorem reconcileOrphans_justified (className : String) (past : List ScheduledCall)
    (name : String) :
    (reconcileOrphans className).run.Ensures (AnswersAmong admits) Justified past
      (Concluded name) := by
  refine ensures_read_then (fun s => s.namespacesForClass className) (fun _ => rfl) trivial
    fun met _ => ?_
  refine ensures_liftM_then name (.of_asks_true (warnEach_asks className _) _ ?_) nofun
  rintro past' _ ⟨w, rfl⟩
  trivial

section Class

variable {past : List ScheduledCall} {read : ScheduledCall} {name : String} {c : NamespaceClass}
  (hread : read ∈ past) (hfinds : read.Finds name c) (hname : c.nameAny = name)

include hread hfinds

theorem ensureFinalizer_justified (active : c.isDeleting = false) :
    (ensureFinalizer c).run.Ensures (AnswersAmong admits) Justified past fun _ past' =>
      ∃ more, past' = past ++ more := by
  cases hf : c.hasFinalizer with
  | true =>
    rw [ensureFinalizer, NamespaceClass.addFinalizer_of_hasFinalizer hf]
    exact ⟨[], (List.append_nil past).symm⟩
  | false =>
    rw [ensureFinalizer_of_not_hasFinalizer hf]
    refine ensures_callOrFail_among ?_ fun _ _ _ _ => ⟨_, rfl⟩
    exact ⟨read, hread, name, c, hfinds, Or.inl ⟨active, hf, rfl⟩⟩

include hname

theorem applyClass_justified (active : c.isDeleting = false) :
    (applyClass c).run.Ensures (AnswersAmong admits) Justified past (Concluded name) := by
  rw [applyClass]
  refine (ensures_exceptT_bind _ _ _ _).2 ((ensureFinalizer_justified hread hfinds active).imp ?_)
  rintro r past' ⟨more, rfl⟩
  cases r with
  | error e => exact concluded_error name e _
  | ok c' =>
    rw [hname]
    refine ensures_read_then (fun s => s.namespacesForClass name) (fun _ => rfl) trivial
      fun met _ => ?_
    let listing : ScheduledCall := ⟨met, .namespacesForClass name, .served⟩
    have hclass : ∃ r ∈ past ++ more ++ [listing], ∃ c, r.Finds name c ∧ c.isDeleting = false :=
      ⟨read, List.mem_append_left _ (List.mem_append_left _ hread), c, hfinds, active⟩
    have hlisted : ∀ ns ∈ met.namespacesForClass name, ∃ d ∈ past ++ more ++ [listing],
        ns ∈ d.met.namespacesForClass name :=
      fun ns hns => ⟨listing, List.mem_append_right _ (List.mem_singleton_self _), hns⟩
    refine (ensures_exceptT_bind _ _ _ _).2 ((ensures_liftM _ _ _).2
      ((ensures_worksIn hclass hlisted (updateEach_asks _ _ _ _)).imp fun tally p _ => ?_))
    refine (ensures_exceptT_bind _ _ _ _).2 ((writeRecord_justified _ _ _).imp fun r p' _ => ?_)
    cases r with
    | ok _ => exact nofun
    | error e => exact concluded_error name e p'

end Class

/-! ### Cleaning up -/

/-- What a cleanup has called: deletions of templates in the namespaces, and all of them if it is
complete. -/
structure CleansAll (templates : List Template) (namespaces : List Namespace) (complete : Prop)
    (calls : List ScheduledCall) : Prop where
  deletes : ∀ d ∈ calls, ∃ ns ∈ namespaces, ∃ t ∈ templates, d.call.Deletes t ns.nameAny
  all : complete → ∀ ns ∈ namespaces, ns.cleanupEnabled = true → ∀ t ∈ templates,
    ∃ d ∈ calls, d.call.Deletes t ns.nameAny ∧ d.fate = .served

theorem deleteTemplate_justified (t : Template) (n : String) (past : List ScheduledCall) :
    (deleteTemplate t n).Ensures (AnswersAmong admits) Justified past fun r past' =>
      ∃ d, past' = past ++ [d] ∧ d.call.Deletes t n ∧ (r.toBool = true → d.fate = .served) := by
  refine (Dialogue.ensures_map _ _ _ _).2 (ensures_call_among trivial fun met f _ _ => ?_)
  refine ⟨_, rfl, rfl, fun hok => ?_⟩
  cases f with
  | served => rfl
  | refused e | lost e => cases hok

theorem deleteEach_justified (templates : List Template) (n : String)
    (past : List ScheduledCall) :
    (deleteEach templates n).Ensures (AnswersAmong admits) Justified past fun results past' =>
      ∃ more, past' = past ++ more ∧
        (∀ d ∈ more, ∃ t ∈ templates, d.call.Deletes t n) ∧
        ((∀ r ∈ results, r.2 = none) → ∀ t ∈ templates,
          ∃ d ∈ more, d.call.Deletes t n ∧ d.fate = .served) := by
  induction templates generalizing past with
  | nil => exact ⟨[], (List.append_nil past).symm, by simp, by simp⟩
  | cons t rest ih =>
    refine (Dialogue.ensures_bind _ _ _ _).2 ((deleteTemplate_justified t n past).imp ?_)
    rintro r _ ⟨d, rfl, hd, hserved⟩
    refine (Dialogue.ensures_bind _ _ _ _).2 ((ih (past ++ [d])).imp ?_)
    rintro results _ ⟨more, rfl, hmore, hall⟩
    refine ⟨d :: more, by simp, ?_, ?_⟩
    · rw [List.forall_mem_cons]
      refine ⟨⟨t, List.mem_cons_self, hd⟩, fun d' hd' => ?_⟩
      obtain ⟨u, hu, hdel⟩ := hmore d' hd'
      exact ⟨u, List.mem_cons_of_mem _ hu, hdel⟩
    · intro hnone
      rw [List.forall_mem_cons] at hnone ⊢
      refine ⟨⟨d, List.mem_cons_self, hd, hserved ?_⟩, fun u hu => ?_⟩
      · cases r with
        | ok _ => rfl
        | error e => cases hnone.1
      · obtain ⟨d', hd', hdel⟩ := hall hnone.2 u hu
        exact ⟨d', List.mem_cons_of_mem _ hd', hdel⟩

theorem finalizeNamespace_justified (className : String) (templates : List Template)
    (ns : Namespace) (past : List ScheduledCall) :
    (finalizeNamespace className templates ns).Ensures (AnswersAmong admits) Justified past
      fun report past' => ∃ more, past' = past ++ more ∧
        CleansAll templates [ns] (report.failed = []) more := by
  rw [finalizeNamespace]
  split
  case isFalse hopted =>
    refine ⟨trivial, fun _ past' (h : past' = past) => ⟨[], ?_, by simp, fun _ ns' hns' h => ?_⟩⟩
    · rw [h, List.append_nil]
    · exact absurd (List.mem_singleton.1 hns' ▸ h) hopted
  case isTrue =>
    refine (Dialogue.ensures_bind _ _ _ _).2
      ((deleteEach_justified templates ns.nameAny past).imp ?_)
    rintro results _ ⟨more, rfl, hmore, hall⟩
    refine ⟨more, rfl, fun d hd => ⟨ns, List.mem_singleton_self ns, hmore d hd⟩, fun hfailed => ?_⟩
    intro ns' hns' _
    rw [List.mem_singleton.1 hns']
    refine hall fun r hr => ?_
    simpa using List.filterMap_eq_nil_iff.1 hfailed r hr

theorem CleansAll.append {templates : List Template} {ns : Namespace} {rest : List Namespace}
    {first others : FinalizeReport} {calls calls' : List ScheduledCall}
    (h : CleansAll templates [ns] (first.failed = []) calls)
    (h' : CleansAll templates rest (others.failed = []) calls') :
    CleansAll templates (ns :: rest) ((first.append others).failed = []) (calls ++ calls') where
  deletes d hd := by
    rcases List.mem_append.1 hd with hd | hd
    · obtain ⟨ns', hns', hdel⟩ := h.deletes d hd
      exact ⟨ns', List.mem_singleton.1 hns' ▸ List.mem_cons_self, hdel⟩
    · obtain ⟨ns', hns', hdel⟩ := h'.deletes d hd
      exact ⟨ns', List.mem_cons_of_mem _ hns', hdel⟩
  all hfailed ns' hns' hopted t ht := by
    obtain ⟨hfirst, hothers⟩ := List.append_eq_nil_iff.1 hfailed
    rcases List.mem_cons.1 hns' with rfl | hns'
    · obtain ⟨d, hd, hdel⟩ := h.all hfirst ns' (List.mem_singleton_self ns') hopted t ht
      exact ⟨d, List.mem_append_left _ hd, hdel⟩
    · obtain ⟨d, hd, hdel⟩ := h'.all hothers ns' hns' hopted t ht
      exact ⟨d, List.mem_append_right _ hd, hdel⟩

theorem finalizeEach_justified (className : String) (templates : List Template)
    (namespaces : List Namespace) (past : List ScheduledCall) :
    (finalizeEach className templates namespaces).Ensures (AnswersAmong admits) Justified past
      fun report past' => ∃ more, past' = past ++ more ∧
        CleansAll templates namespaces (report.failed = []) more := by
  induction namespaces generalizing past with
  | nil => exact ⟨[], (List.append_nil past).symm, by simp, by simp⟩
  | cons ns rest ih =>
    refine (Dialogue.ensures_bind _ _ _ _).2
      ((finalizeNamespace_justified className templates ns past).imp ?_)
    rintro first _ ⟨calls, rfl, hfirst⟩
    refine (Dialogue.ensures_bind _ _ _ _).2 ((ih (past ++ calls)).imp ?_)
    rintro others _ ⟨calls', rfl, hothers⟩
    exact ⟨calls ++ calls', List.append_assoc .., hfirst.append hothers⟩

/-- The cleanup after a class that a task has read before anything else but a namespace. -/
theorem finalizeClass_justified {before : List ScheduledCall} {read : ScheduledCall}
    {name : String} {c : NamespaceClass} (hbefore : ∀ d ∈ before, d.call.Reads)
    (hfinds : read.Finds name c) (hname : c.nameAny = name) (deleting : c.isDeleting = true)
    (held : c.hasFinalizer = true) :
    (finalizeClass c).run.Ensures (AnswersAmong admits) Justified (before ++ [read])
      (Concluded name) := by
  rw [finalizeClass, hname]
  refine ensures_read_then (fun s => s.namespacesForClass name) (fun _ => rfl) trivial
    fun met _ => ?_
  let listing : ScheduledCall := ⟨met, .namespacesForClass name, .served⟩
  refine (ensures_exceptT_bind _ _ _ _).2 ((ensures_liftM _ _ _).2
    ((finalizeEach_justified _ _ _ _).imp ?_))
  rintro report _ ⟨calls, rfl, hcalls⟩
  have hreads : ∀ d ∈ before ++ [read] ++ [listing], d.call.Reads := by
    simp only [List.forall_mem_append, List.forall_mem_singleton]
    exact ⟨⟨hbefore, hfinds.call ▸ trivial⟩, trivial⟩
  simp only
  split
  case isFalse => exact concluded_error name _ _
  case isTrue hcomplete =>
    have hall := hcalls.all (by simpa [FinalizeReport.isComplete] using hcomplete)
    refine (ensures_exceptT_bind _ _ _ _).2 (ensures_callOrFail_among ?_ fun met' f _ _ => ?_)
    · refine ⟨read, by simp, name, c, hfinds, Or.inr ⟨deleting, held, rfl, ?_⟩⟩
      intro d hd kind n x h
      rcases List.mem_append.1 hd with hd | hd
      · exact absurd h (hreads d hd).not_deletes
      · obtain ⟨ns, -, t, ht, hdel⟩ := hcalls.deletes d hd
        obtain ⟨rfl, -, rfl⟩ := StoreCall.deleteObject.inj (hdel.symm.trans h)
        exact ⟨t, ht, rfl, rfl⟩
    · let write : ScheduledCall := ⟨met', .replaceClass c.removeFinalizer.2, f⟩
      have hfinalized : Finalized name (before ++ [read] ++ [listing] ++ calls ++ [write]) := by
        refine ⟨?_, before, read, listing :: calls ++ [write], c, by simp, hfinds, deleting,
          listing, by simp, fun ns hns hopted t ht => ?_⟩
        · simp only [List.forall_mem_append, List.forall_mem_singleton] at hreads ⊢
          refine ⟨⟨⟨⟨fun d hd => ?_, ?_⟩, ?_⟩, fun d hd => ?_⟩, id⟩
          · exact (hreads.1.1 d hd).not_storesObject
          · exact hreads.1.2.not_storesObject
          · exact hreads.2.not_storesObject
          · obtain ⟨ns, -, t, -, hdel⟩ := hcalls.deletes d hd
            rw [hdel]
            exact id
        · obtain ⟨d, hd, hdel⟩ := hall ns hns hopted t ht
          exact ⟨d, by simp [hd], hdel⟩
      cases (met'.meet (.replaceClass c.removeFinalizer.2) f).1 with
      | ok _ => exact fun _ _ _ => hfinalized
      | error e => exact concluded_error name _ _

/-! ## Reconciles -/

theorem reconcileClassNamed_justified {before : List ScheduledCall}
    (hbefore : ∀ d ∈ before, d.call.Reads) (name : String) :
    (reconcileClassNamed name).run.Ensures (AnswersAmong admits) Justified before
      (Concluded name) := by
  refine ensures_read_then (fun s => s.classes.find? name) (fun _ => rfl) trivial
    fun met hfollows => ?_
  cases hc : met.classes.find? name with
  | none => exact reconcileOrphans_justified name _ name
  | some c =>
    have hfinds : ScheduledCall.Finds ⟨met, .getClass name, .served⟩ name c := ⟨rfl, rfl, hc⟩
    have hname : c.nameAny = name := hfollows.reachable.wellFormed.classes hc
    simp only [reconcileClass]
    cases hdeleting : c.isDeleting with
    | false => exact applyClass_justified (by simp) hfinds hname hdeleting
    | true => cases hheld : c.hasFinalizer with
      | true => exact finalizeClass_justified hbefore hfinds hname hdeleting hheld
      | false => exact nofun

/-- Every write of a reconcile is justified by what the reconcile has found, whatever others do
between its calls, and one that ends with the finalizer removed has cleaned up before. -/
theorem reconcile_justified (key : Key) :
    (reconcile key).run.Ensures (AnswersAmong admits) (fun past e => Justified past e) []
      (Concluded key.name) := by
  rw [reconcile]
  split
  case isTrue => exact reconcileClassNamed_justified (by simp) key.name
  case isFalse =>
    refine ensures_read_then (fun s => s.namespaces.find? key.name) (fun _ => rfl) trivial
      fun met hfollows => ?_
    cases hns : met.namespaces.find? key.name with
    | some ns =>
      have hnamed : met.Named := hfollows.reachable.wellFormed.toNamed
      refine reconcileNamespace_justified (fun className hclass => ?_) key.name
      refine ⟨_, List.mem_append_right _ (List.mem_singleton_self _), ?_⟩
      rw [hnamed.mem_namespacesForClass, hnamed.namespaces hns]
      exact ⟨hns, hclass⟩
    | none =>
      simp only
      split
      · exact nofun
      · exact reconcileClassNamed_justified (by simp [StoreCall.Reads]) key.name

end Walk

end ClassReconciler
