import ClassReconciler.Proofs.Course

/-!
# Work on the objects of namespaces

Applying, pruning and cleaning up work on the objects of one namespace after the other.
`Effect.WorksIn` is what such work asks: reads and writes of the objects of a namespace, with
deletions only of some kinds and names, and warnings to the namespace. The lemmas named
`..._asks` say of every function of the reconciler where it works and what it may delete
there, whatever it is answered. `Cluster.SameOutside` is what is left alone by that
(`ensures_sameOutside`).
-/

namespace ClassReconciler

/-! ## What is left alone -/

/-- Nothing but objects of namespaces with `p` differs. -/
structure Cluster.SameOutside (p : String → Prop) (s s' : Cluster) : Prop where
  namespaces : s'.namespaces = s.namespaces
  classes : s'.classes = s.classes
  webhooks : s'.webhooks = s.webhooks
  objects : ∀ k, ¬p k.namespaceName → s'.objects.find? k = s.objects.find? k

namespace Cluster

theorem SameOutside.refl (p : String → Prop) (s : Cluster) : SameOutside p s s :=
  ⟨rfl, rfl, rfl, fun _ _ => rfl⟩

theorem SameOutside.trans {p : String → Prop} {s s' s'' : Cluster} (h : SameOutside p s s')
    (h' : SameOutside p s' s'') : SameOutside p s s'' where
  namespaces := h'.namespaces.trans h.namespaces
  classes := h'.classes.trans h.classes
  webhooks := h'.webhooks.trans h.webhooks
  objects k hk := (h'.objects k hk).trans (h.objects k hk)

theorem SameOutside.mono {p q : String → Prop} {s s' : Cluster} (h : SameOutside p s s')
    (hpq : ∀ n, p n → q n) : SameOutside q s s' :=
  { h with objects := fun k hk => h.objects k fun hp => hk (hpq _ hp) }

theorem SameOutside.namespacesForClass {p : String → Prop} {s s' : Cluster}
    (h : SameOutside p s s') (className : String) :
    s'.namespacesForClass className = s.namespacesForClass className := by
  rw [Cluster.namespacesForClass, h.namespaces, Cluster.namespacesForClass]

theorem sameOutside_writeObject (s : Cluster) (o : Manifest) :
    SameOutside (· = o.namespaceName) s (s.writeObject o).2 where
  namespaces := rfl
  classes := rfl
  webhooks := rfl
  objects k hk := by
    have hne : k ≠ ObjectKey.of o := fun h => hk (h ▸ rfl)
    exact (SortedMap.find?_insert _ _ _ _).trans (if_neg hne)

theorem sameOutside_removeObject (s : Cluster) (key : ObjectKey) :
    SameOutside (· = key.namespaceName) s (s.removeObject key).2 where
  namespaces := rfl
  classes := rfl
  webhooks := rfl
  objects k hk := by
    have hne : k ≠ key := fun h => hk (h ▸ rfl)
    exact (SortedMap.find?_erase _ _ _).trans (if_neg hne)

end Cluster

/-! ## Work in a namespace -/

/-- A read or write of an object of the namespace, if a deletion then a permitted one, or a
warning to the namespace. -/
def Effect.WorksIn (n : String) (deletes : ObjectKind → String → Prop) : Effect → Prop
  | .call (.getObject _ m _) => m = n
  | .call (.createObject _ o) => o.namespaceName = n
  | .call (.replaceObject _ o) => o.namespaceName = n
  | .call (.deleteObject kind m name) => m = n ∧ deletes kind name
  | .call _ => False
  | .warn w => w.about.nameAny = n

theorem Effect.WorksIn.mono {n : String} {deletes deletes' : ObjectKind → String → Prop}
    {e : Effect} (h : e.WorksIn n deletes)
    (hd : ∀ kind name, deletes kind name → deletes' kind name) : e.WorksIn n deletes' := by
  cases e with
  | warn w => exact h
  | call c => cases c with
    | deleteObject kind m name => exact ⟨h.1, hd kind name h.2⟩
    | _ => exact h

/-- A call that works in a namespace leaves all else alone, whatever its fate. -/
theorem Effect.WorksIn.meet {n : String} {deletes : ObjectKind → String → Prop} {c : StoreCall}
    (h : Effect.WorksIn n deletes (.call c)) (s : Cluster) (f : Fate) :
    s.SameOutside (· = n) (s.meet c f).2 := by
  rcases s.meet_cluster c f with hs | hs <;> rw [hs]
  · exact .refl _ s
  cases c with
  | getObject kind m name => exact .refl _ s
  | createObject kind o =>
    simp only [Cluster.perform, Cluster.createObject]
    split
    · exact .refl _ s
    · exact h ▸ s.sameOutside_writeObject o
  | replaceObject kind o =>
    simp only [Cluster.perform, Cluster.replaceObject]
    split
    · exact .refl _ s
    · split
      · exact .refl _ s
      · exact h ▸ s.sameOutside_writeObject o
  | deleteObject kind m name => exact h.1 ▸ s.sameOutside_removeObject (ObjectKey.new kind m name)
  | _ => exact h.elim

/-- Work in some namespaces leaves all else alone on every course, so that each of its
effects is met by a cluster where only objects of these namespaces differ. -/
theorem ensures_sameOutside {rule : FateRule} {asks : Cluster → Effect → Prop} {α : Type}
    {a : Action α} {namespaces : List Namespace}
    {deletes : Namespace → ObjectKind → String → Prop}
    (ha : a.Asks fun e => ∃ ns ∈ namespaces, e.WorksIn ns.nameAny (deletes ns)) (s : Cluster)
    (hasks : ∀ s', s.SameOutside (fun n => ∃ ns ∈ namespaces, ns.nameAny = n) s' → ∀ e,
      (∃ ns ∈ namespaces, e.WorksIn ns.nameAny (deletes ns)) → asks s' e) :
    a.Ensures rule.Answers asks s
      fun _ s' => s.SameOutside (fun n => ∃ ns ∈ namespaces, ns.nameAny = n) s' := by
  refine .of_asks _ ha (.refl _ s) (fun s' e he hs => hasks s' hs e he) ?_
  rintro s₁ e x s₂ ⟨ns, hns, he⟩ hs hans
  cases e with
  | warn w =>
    obtain rfl : s₂ = s₁ := hans
    exact hs
  | call c =>
    obtain ⟨f, -, hm⟩ := hans
    rw [show s₂ = (s₁.meet c f).2 by rw [hm]]
    exact hs.trans ((he.meet s₁ f).mono fun n hn => ⟨ns, hns, hn.symm⟩)

/-! ## Applying -/

theorem upsert_asks (t : Template) (n : String) :
    (upsert t n).Asks (Effect.WorksIn n fun _ _ => False) := by
  refine ⟨rfl, fun r => ?_⟩
  match r with
  | .error e => trivial
  | .ok none => exact ⟨rfl, fun _ => trivial⟩
  | .ok (some existing) => exact ⟨rfl, fun _ => trivial⟩

theorem applyEntry_asks (index : Nat) (raw : Json) (n : String) :
    (applyEntry index raw n).Asks (Effect.WorksIn n fun _ _ => False) := by
  rw [applyEntry]
  split
  · trivial
  · refine (upsert_asks _ n).bind fun r => ?_
    match r with
    | .ok .created | .ok .updated | .error e => trivial

/-- Applying works in its namespace and deletes nothing. -/
theorem applyFrom_asks (raws : List Json) (index : Nat) (n : String) :
    (applyFrom index raws n).Asks (Effect.WorksIn n fun _ _ => False) := by
  induction raws generalizing index with
  | nil => trivial
  | cons raw rest ih =>
    exact (applyEntry_asks index raw n).bind fun _ => (ih (index + 1)).bind fun _ => trivial

/-! ## Deleting -/

/-- Only the given templates are deleted, and only in the given namespace. -/
theorem deleteEach_asks (templates : List Template) (n : String) :
    (deleteEach templates n).Asks
      (Effect.WorksIn n fun kind name => ∃ t ∈ templates, t.kind = kind ∧ t.name = name) := by
  induction templates with
  | nil => trivial
  | cons t rest ih =>
    refine .bind ?_ fun _ => .bind (ih.mono fun e he => ?_) fun _ => trivial
    · exact ⟨⟨rfl, t, List.mem_cons_self, rfl, rfl⟩, fun _ => trivial⟩
    · exact he.mono fun kind name ⟨u, hu, h⟩ => ⟨u, List.mem_cons_of_mem _ hu, h⟩

/-- Pruning deletes removed templates, where the namespace opts into that. -/
theorem pruneObsolete_asks (ns : Namespace) (removed : List Template) :
    (pruneObsolete ns removed).Asks (Effect.WorksIn ns.nameAny fun kind name =>
      ns.cleanupObsoleteEnabled ∧ ∃ t ∈ removed, t.kind = kind ∧ t.name = name) := by
  rw [pruneObsolete]
  split
  case isTrue => trivial
  case isFalse h =>
    have hopted : ns.cleanupObsoleteEnabled = true := by simp_all
    refine .bind ((deleteEach_asks removed ns.nameAny).mono fun e he => ?_) fun _ => trivial
    exact he.mono fun kind name h => ⟨hopted, h⟩

theorem finalizeNamespace_asks (className : String) (templates : List Template) (ns : Namespace) :
    (finalizeNamespace className templates ns).Asks (Effect.WorksIn ns.nameAny fun kind name =>
      ns.cleanupEnabled ∧ ∃ t ∈ templates, t.kind = kind ∧ t.name = name) := by
  rw [finalizeNamespace]
  split
  case isTrue hopted =>
    refine .bind ((deleteEach_asks templates ns.nameAny).mono fun e he => ?_) fun _ => trivial
    exact he.mono fun kind name h => ⟨hopted, h⟩
  case isFalse => exact ⟨rfl, fun _ => trivial⟩

/-- Cleaning up deletes the given templates, in those of the namespaces that opt into that. -/
theorem finalizeEach_asks (className : String) (templates : List Template)
    (namespaces : List Namespace) :
    (finalizeEach className templates namespaces).Asks fun e => ∃ ns ∈ namespaces,
      e.WorksIn ns.nameAny fun kind name =>
        ns.cleanupEnabled ∧ ∃ t ∈ templates, t.kind = kind ∧ t.name = name := by
  induction namespaces with
  | nil => trivial
  | cons ns rest ih =>
    refine .bind ((finalizeNamespace_asks className templates ns).mono fun e he => ?_) fun _ =>
      .bind (ih.mono fun e ⟨ns', hns, he⟩ => ?_) fun _ => trivial
    · exact ⟨ns, List.mem_cons_self, he⟩
    · exact ⟨ns', List.mem_cons_of_mem _ hns, he⟩

/-! ## Updating -/

/-- A namespace is updated by applying the resources and then, where that is safe, pruning. -/
theorem updateNamespace_eq (resources : List Json) (revision : Revision) (ns : Namespace) :
    updateNamespace resources revision ns = applyAll resources ns.nameAny >>= fun applied =>
      (applied, ·) <$> if revision.prunes then pruneObsolete ns revision.templates
        else pure {} := by
  rw [updateNamespace]
  refine congrArg (_ >>= ·) (funext fun applied => ?_)
  split <;> rfl

/-- An update of a namespace deletes what the revision removed, unless an entry could be any
of that, and only where the namespace opts in. -/
theorem updateNamespace_asks (resources : List Json) (revision : Revision) (ns : Namespace) :
    (updateNamespace resources revision ns).Asks (Effect.WorksIn ns.nameAny fun kind name =>
      revision.prunes ∧ ns.cleanupObsoleteEnabled ∧
        ∃ t ∈ revision.templates, t.kind = kind ∧ t.name = name) := by
  rw [updateNamespace_eq]
  refine .bind ((applyFrom_asks resources 0 ns.nameAny).mono fun e he => ?_) fun applied =>
    .map ?_ _
  · exact he.mono fun _ _ => False.elim
  · split
    case isTrue hprunes =>
      refine (pruneObsolete_asks ns revision.templates).mono fun e he => ?_
      exact he.mono fun kind name h => ⟨hprunes, h⟩
    case isFalse => trivial

theorem updateEach_asks (resources : List Json) (revision : Revision) (tally : Tally)
    (namespaces : List Namespace) :
    (updateEach resources revision tally namespaces).Asks fun e => ∃ ns ∈ namespaces,
      e.WorksIn ns.nameAny fun kind name => revision.prunes ∧ ns.cleanupObsoleteEnabled ∧
        ∃ t ∈ revision.templates, t.kind = kind ∧ t.name = name := by
  induction namespaces generalizing tally with
  | nil => trivial
  | cons ns rest ih =>
    refine .bind ((updateNamespace_asks resources revision ns).mono fun e he => ?_) fun r =>
      (ih (tally.add r.1 r.2)).mono fun e ⟨ns', hns, he⟩ => ?_
    · exact ⟨ns, List.mem_cons_self, he⟩
    · exact ⟨ns', List.mem_cons_of_mem _ hns, he⟩

end ClassReconciler
