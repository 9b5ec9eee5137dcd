/-!
# Positions of a list

Two ways to choose items of a list by where they stand: by a list of marks, one for each position
(`marked`), and by the numbers of the positions (`keptFrom`).
-/

namespace ClassReconciler

variable {α μ : Type}

section Marks

variable [DecidableEq μ]

/-- The items at the positions that have a mark. -/
def marked (items : List α) (marks : List μ) (x : μ) : List α :=
  ((items.zip marks).filter (·.2 = x)).map Prod.fst

theorem marked_cons (a : α) (items : List α) (m : μ) (marks : List μ) (x : μ) :
    marked (a :: items) (m :: marks) x =
      if m = x then a :: marked items marks x else marked items marks x := by
  rw [marked, List.zip_cons_cons, List.filter_cons]
  by_cases hm : m = x
  · rw [if_pos hm, if_pos (by simpa using hm)]
    rfl
  · rw [if_neg hm, if_neg (by simpa using hm)]
    rfl

/-- With a mark for each item, what has a mark is what the mark is given to. -/
theorem marked_map (mark : α → μ) (items : List α) (x : μ) :
    marked items (items.map mark) x = items.filter (mark · = x) := by
  induction items with
  | nil => rfl
  | cons a rest ih =>
    rw [List.map_cons, marked_cons, List.filter_cons, ih]
    by_cases hx : mark a = x <;> simp [hx]

end Marks

/-- The items at the positions that are kept, where the first position is `index`. -/
def keptFrom (kept : Nat → Bool) (index : Nat) (items : List α) : List α :=
  ((items.zipIdx index).filter (kept ·.2)).map Prod.fst

theorem keptFrom_cons (kept : Nat → Bool) (index : Nat) (a : α) (items : List α) :
    keptFrom kept index (a :: items) =
      if kept index then a :: keptFrom kept (index + 1) items
      else keptFrom kept (index + 1) items := by
  rw [keptFrom, List.zipIdx_cons, List.filter_cons]
  split
  · rfl
  · rfl

/-- Items that are not chosen may be dropped by their positions. -/
theorem filterMap_keptFrom {β : Type} (f : α → Option β) (kept : Nat → Bool) (index : Nat)
    (items : List α)
    (h : ∀ i a, items[i]? = some a → kept (index + i) = false → f a = none) :
    (keptFrom kept index items).filterMap f = items.filterMap f := by
  induction items generalizing index with
  | nil => rfl
  | cons a rest ih =>
    have hrest : (keptFrom kept (index + 1) rest).filterMap f = rest.filterMap f := by
      refine ih (index + 1) fun i b hb hkept => h (i + 1) b hb ?_
      rwa [Nat.add_right_comm, Nat.add_assoc] at hkept
    rw [keptFrom_cons]
    cases hkept : kept index with
    | true => rw [if_pos rfl, List.filterMap_cons, List.filterMap_cons, hrest]
    | false =>
      rw [if_neg Bool.false_ne_true, hrest, List.filterMap_cons, h 0 a rfl hkept]

end ClassReconciler
