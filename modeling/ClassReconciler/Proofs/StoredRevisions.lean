import ClassReconciler.Proofs.Versions

/-!
# Revisions and their versions

In a cluster that comes about, everything is stored at the place that its own fields name, and its
version tells it from everything else that is stored, and from everything that was stored anywhere
at an earlier time (`Reachable.versioned`). One write keeps this because it stores one thing at
most, with a version beyond all others (`Wrote.distinct`).
-/

namespace ClassReconciler

namespace Cluster

/-! ## Versions of what is stored -/

/-- Everything is stored at its own place, with a version that nothing else has. -/
structure Distinct (s : Cluster) : Prop where
  placed : ∀ {p x}, s.storedAt p = some x → x.place = p
  stamped : ∀ {p x}, s.storedAt p = some x → x.metadata.StampedIn 0 s.version
  distinct : ∀ {p q x y}, s.storedAt p = some x → s.storedAt q = some y →
    x.version? = y.version? → p = q

/-- A write keeps versions distinct. -/
theorem Wrote.distinct {s s' : Cluster} (h : s.Wrote s') (hs : s.Distinct) : s'.Distinct where
  placed {p x} hx := by
    cases h with
    | removed _ kept => exact hs.placed (kept p x hx)
    | stored q y _ _ placed stored =>
      rw [stored] at hx
      split at hx
      case isTrue hp =>
        obtain rfl := Option.some.inj hx
        rcases placed with hplace | ⟨z, hz, hplace⟩
        · rw [hplace, hp]
        · rw [hplace, hs.placed hz, hp]
      case isFalse => exact hs.placed hx
  stamped hx := by
    rcases h.storedAt_or hx with hold | hnew
    · exact (hs.stamped hold).mono (Nat.le_refl _) h.version_le
    · exact hnew.mono (Nat.zero_le _) (Nat.le_refl _)
  distinct {p q x y} hx hy hv := by
    cases h with
    | removed _ kept => exact hs.distinct (kept p x hx) (kept q y hy) hv
    | stored r z version stamped _ stored =>
      rw [stored] at hx hy
      by_cases hp : p = r <;> by_cases hq : q = r
      · rw [hp, hq]
      · rw [if_pos hp] at hx
        rw [if_neg hq] at hy
        obtain rfl := Option.some.inj hx
        exact absurd hv ((hs.stamped hy).ne stamped)
      · rw [if_neg hp] at hx
        rw [if_pos hq] at hy
        obtain rfl := Option.some.inj hy
        exact absurd hv.symm ((hs.stamped hx).ne stamped)
      · rw [if_neg hp] at hx
        rw [if_neg hq] at hy
        exact hs.distinct hx hy hv

@[simp] theorem storedAt_empty (p : Place) : ({} : Cluster).storedAt p = none := by
  cases p <;> rfl

theorem Reachable.distinct {s : Cluster} (h : s.Reachable) : s.Distinct :=
  h.of_wrote ⟨by simp, by simp, by simp⟩ fun hwrote hs => hwrote.distinct hs

/-! ## Earlier revisions -/

/-- After writes, what is found at a place was there before them, or has a newer version. -/
theorem storedAt_of_writes (writes : List ClientWrite) (s : Cluster) :
    let s' := writes.foldl ClientWrite.apply s
    s.version ≤ s'.version ∧ ∀ {p x}, s'.storedAt p = some x →
      s.storedAt p = some x ∨ x.metadata.StampedIn s.version s'.version := by
  induction writes generalizing s with
  | nil => exact ⟨Nat.le_refl _, Or.inl⟩
  | cons w rest ih =>
    have hwrote := s.wrote_apply w
    obtain ⟨hversion, hrest⟩ := ih (w.apply s)
    refine ⟨Nat.le_trans hwrote.version_le hversion, fun hx => ?_⟩
    rcases hrest hx with hold | hnew
    · exact (hwrote.storedAt_or hold).imp_right (·.mono (Nat.le_refl _) hversion)
    · exact Or.inr (hnew.mono hwrote.version_le (Nat.le_refl _))

/-- Something is stored at a place, or was at an earlier time, in some course of writes by which
the cluster comes about. -/
def HasHeld (s : Cluster) (p : Place) (x : Stored) : Prop :=
  ∃ (earlier : Cluster) (writes : List ClientWrite), earlier.Reachable ∧
    writes.foldl ClientWrite.apply earlier = s ∧ earlier.storedAt p = some x

theorem Reachable.hasHeld {s : Cluster} (h : s.Reachable) {p : Place} {x : Stored}
    (hx : s.storedAt p = some x) : s.HasHeld p x :=
  ⟨s, [], h, rfl, hx⟩

/-- No version has been beyond the count of versions. -/
theorem HasHeld.stampedIn {s : Cluster} {p : Place} {x : Stored} (h : s.HasHeld p x) :
    x.metadata.StampedIn 0 s.version := by
  obtain ⟨earlier, writes, hearlier, rfl, hx⟩ := h
  exact (hearlier.distinct.stamped hx).mono (Nat.le_refl _) (storedAt_of_writes writes earlier).1

/-- Everything is stored at its own place, with a version that nothing else has that is stored or
was at an earlier time. -/
structure Versioned (s : Cluster) : Prop where
  placed : ∀ {p x}, s.storedAt p = some x → x.place = p
  versioned : ∀ {p x}, s.storedAt p = some x → x.version?.isSome
  unique : ∀ {p q x y}, s.storedAt p = some x → s.HasHeld q y → y.version? = x.version? →
    q = p ∧ y = x

theorem Reachable.versioned {s : Cluster} (h : s.Reachable) : s.Versioned where
  placed := h.distinct.placed
  versioned hx := by
    obtain ⟨v, -, -, hv⟩ := h.distinct.stamped hx
    rw [Stored.version?, hv]
    rfl
  unique {p q x y} hx hy hv := by
    obtain ⟨earlier, writes, hearlier, rfl, hy⟩ := hy
    rcases (storedAt_of_writes writes earlier).2 hx with hold | hnew
    · obtain rfl := hearlier.distinct.distinct hy hold hv
      exact ⟨rfl, Option.some.inj (hy.symm.trans hold)⟩
    · exact absurd hv.symm ((hearlier.distinct.stamped hy).ne hnew)

end Cluster

end ClassReconciler
