/-!
# Maps in key order

`SortedMap κ α` is a finite map held as its entries in ascending key order, so that going
through a map visits its keys in order and two maps with the same look-ups are equal
(`SortedMap.ext_find?`). `find?_insert` and `find?_erase` say what the two writes do to
every look-up.
-/

namespace ClassReconciler

universe u v w

/-! ## Entry lists -/

section Entries

variable {κ : Type u} {α : Type v}

/-- The entries of a list are in strictly ascending key order. -/
def Ascending [Ord κ] (entries : List (κ × α)) : Prop :=
  entries.Pairwise fun a b => compare a.1 b.1 = .lt

/-- The value of the first entry under a key. -/
def findEntry [DecidableEq κ] (k : κ) : List (κ × α) → Option α
  | [] => none
  | (k', a) :: rest => if k = k' then some a else findEntry k rest

/-- Sets a key's value, keeping the order of the entries. -/
def insertEntry [Ord κ] (k : κ) (a : α) : List (κ × α) → List (κ × α)
  | [] => [(k, a)]
  | (k', a') :: rest =>
    match compare k k' with
    | .lt => (k, a) :: (k', a') :: rest
    | .eq => (k, a) :: rest
    | .gt => (k', a') :: insertEntry k a rest

/-- Drops every entry under a key. -/
def eraseEntry [DecidableEq κ] (k : κ) (entries : List (κ × α)) : List (κ × α) :=
  entries.filter fun e => k ≠ e.1

theorem mem_insertEntry [Ord κ] {k : κ} {a : α} {e : κ × α} {entries : List (κ × α)}
    (h : e ∈ insertEntry k a entries) : e = (k, a) ∨ e ∈ entries := by
  induction entries with
  | nil => simpa [insertEntry] using h
  | cons e' rest ih =>
    obtain ⟨k', a'⟩ := e'
    simp only [insertEntry] at h
    split at h
    · simpa using h
    · rcases List.mem_cons.1 h with h | h
      · exact Or.inl h
      · exact Or.inr (List.mem_cons_of_mem _ h)
    · rcases List.mem_cons.1 h with h | h
      · exact Or.inr (h ▸ List.mem_cons_self)
      · exact (ih h).imp id (List.mem_cons_of_mem _)

theorem findEntry_eraseEntry [DecidableEq κ] (k k' : κ) (entries : List (κ × α)) :
    findEntry k' (eraseEntry k entries) = if k' = k then none else findEntry k' entries := by
  induction entries with
  | nil => simp [eraseEntry, findEntry]
  | cons e rest ih =>
    obtain ⟨k₁, a₁⟩ := e
    simp only [eraseEntry, List.filter_cons] at ih ⊢
    by_cases h : k = k₁
    · subst h
      by_cases h' : k' = k <;> simp_all [findEntry]
    · by_cases h' : k' = k₁
      · subst h'
        simp [findEntry, h, Ne.symm h]
      · simp_all [findEntry]

theorem Ascending.eraseEntry [Ord κ] [DecidableEq κ] {k : κ} {entries : List (κ × α)}
    (h : Ascending entries) : Ascending (eraseEntry k entries) :=
  List.Pairwise.filter _ h

variable [Ord κ] [DecidableEq κ] [Std.TransOrd κ] [Std.LawfulEqOrd κ]

omit [DecidableEq κ] in
theorem Ascending.insertEntry {k : κ} {a : α} {entries : List (κ × α)}
    (h : Ascending entries) : Ascending (insertEntry k a entries) := by
  induction entries with
  | nil => simp [ClassReconciler.insertEntry, Ascending]
  | cons e rest ih =>
    obtain ⟨k', a'⟩ := e
    obtain ⟨hhead, htail⟩ := List.pairwise_cons.1 h
    simp only [ClassReconciler.insertEntry]
    cases hc : compare k k' with
    | lt =>
      refine List.pairwise_cons.2 ⟨fun e he => ?_, h⟩
      rcases List.mem_cons.1 he with rfl | he
      · exact hc
      · exact Std.TransCmp.lt_trans hc (hhead e he)
    | eq =>
      obtain rfl := Std.LawfulEqCmp.compare_eq_iff_eq.1 hc
      exact List.pairwise_cons.2 ⟨hhead, htail⟩
    | gt =>
      refine List.pairwise_cons.2 ⟨fun e he => ?_, ih htail⟩
      rcases mem_insertEntry he with rfl | he
      · exact Std.OrientedCmp.lt_of_gt hc
      · exact hhead e he

omit [Std.TransOrd κ] in
theorem findEntry_insertEntry (k k' : κ) (a : α) (entries : List (κ × α)) :
    findEntry k' (insertEntry k a entries) =
      if k' = k then some a else findEntry k' entries := by
  induction entries with
  | nil => simp [insertEntry, findEntry]
  | cons e rest ih =>
    obtain ⟨k₁, a₁⟩ := e
    simp only [insertEntry]
    cases hc : compare k k₁ with
    | lt => rfl
    | eq =>
      obtain rfl := Std.LawfulEqCmp.compare_eq_iff_eq.1 hc
      simp only [findEntry]
      split <;> rfl
    | gt =>
      have hne : k ≠ k₁ := fun h => by simp [h] at hc
      simp only [findEntry, ih]
      by_cases h : k' = k₁
      · simp [h, Ne.symm hne]
      · simp [h]

omit [Std.TransOrd κ] in
theorem findEntry_eq_none_of_lt {k : κ} {entries : List (κ × α)}
    (h : ∀ e ∈ entries, compare k e.1 = .lt) : findEntry k entries = none := by
  induction entries with
  | nil => rfl
  | cons e rest ih =>
    obtain ⟨k', a'⟩ := e
    have hk : k ≠ k' := by
      rintro rfl
      simpa using h _ List.mem_cons_self
    simp only [findEntry, if_neg hk]
    exact ih fun e he => h e (List.mem_cons_of_mem _ he)

omit [Std.TransOrd κ] in
/-- In an ascending list, the entries are those that look-up finds. -/
theorem Ascending.mem_iff_findEntry {entries : List (κ × α)} (h : Ascending entries)
    {k : κ} {a : α} : (k, a) ∈ entries ↔ findEntry k entries = some a := by
  induction entries with
  | nil => simp [findEntry]
  | cons e rest ih =>
    obtain ⟨k', a'⟩ := e
    obtain ⟨hhead, htail⟩ := List.pairwise_cons.1 h
    simp only [List.mem_cons, Prod.mk.injEq, findEntry]
    by_cases hk : k = k'
    · subst hk
      rw [if_pos rfl, Option.some.injEq]
      refine ⟨fun h' => h'.elim (fun h' => h'.2.symm) fun h' => ?_, fun h' => Or.inl ⟨rfl, h'.symm⟩⟩
      have := hhead _ h'
      simp at this
    · simp [hk, ih htail]

/-- Ascending lists with the same look-ups are the same list. -/
theorem Ascending.ext {l₁ l₂ : List (κ × α)} (h₁ : Ascending l₁) (h₂ : Ascending l₂)
    (h : ∀ k, findEntry k l₁ = findEntry k l₂) : l₁ = l₂ := by
  induction l₁ generalizing l₂ with
  | nil =>
    cases l₂ with
    | nil => rfl
    | cons e _ =>
      have := h e.1
      simp [findEntry] at this
  | cons e rest ih =>
    obtain ⟨k, a⟩ := e
    cases l₂ with
    | nil =>
      have := h k
      simp [findEntry] at this
    | cons e' rest' =>
      obtain ⟨k', a'⟩ := e'
      obtain ⟨hhead, htail⟩ := List.pairwise_cons.1 h₁
      obtain ⟨hhead', htail'⟩ := List.pairwise_cons.1 h₂
      have hk : k = k' := by
        cases hc : compare k k' with
        | eq => exact Std.LawfulEqCmp.compare_eq_iff_eq.1 hc
        | lt =>
          have hnone : findEntry k ((k', a') :: rest') = none := by
            refine findEntry_eq_none_of_lt fun e he => ?_
            rcases List.mem_cons.1 he with rfl | he
            · exact hc
            · exact Std.TransCmp.lt_trans hc (hhead' e he)
          have hk := h k
          rw [hnone] at hk
          simp [findEntry] at hk
        | gt =>
          have hc' : compare k' k = .lt := Std.OrientedCmp.lt_of_gt hc
          have hnone : findEntry k' ((k, a) :: rest) = none := by
            refine findEntry_eq_none_of_lt fun e he => ?_
            rcases List.mem_cons.1 he with rfl | he
            · exact hc'
            · exact Std.TransCmp.lt_trans hc' (hhead e he)
          have hk := h k'
          rw [hnone] at hk
          simp [findEntry] at hk
      subst hk
      have ha : a = a' := by simpa [findEntry] using h k
      subst ha
      congr 1
      refine ih htail htail' fun k₁ => ?_
      have hk₁ := h k₁
      simp only [findEntry] at hk₁
      by_cases heq : k₁ = k
      · subst heq
        rw [findEntry_eq_none_of_lt hhead, findEntry_eq_none_of_lt hhead']
      · simpa [heq] using hk₁

end Entries

/-! ## Maps -/

/-- A finite map, held as its entries in ascending key order. -/
structure SortedMap (κ : Type u) [Ord κ] (α : Type v) where
  entries : List (κ × α)
  ascending : Ascending entries

namespace SortedMap

variable {κ : Type u} [Ord κ] [DecidableEq κ] {α : Type v} {β : Type w}

instance [DecidableEq α] : DecidableEq (SortedMap κ α) := fun m m' =>
  decidable_of_iff (m.entries = m'.entries) <| by cases m; cases m'; simp

def empty : SortedMap κ α := ⟨[], List.Pairwise.nil⟩

instance : Inhabited (SortedMap κ α) := ⟨empty⟩

def find? (m : SortedMap κ α) (k : κ) : Option α := findEntry k m.entries

def contains (m : SortedMap κ α) (k : κ) : Bool := (m.find? k).isSome

def keys (m : SortedMap κ α) : List κ := m.entries.map Prod.fst

def values (m : SortedMap κ α) : List α := m.entries.map Prod.snd

/-- Applies a function to every value. -/
def map (f : α → β) (m : SortedMap κ α) : SortedMap κ β :=
  ⟨m.entries.map fun e => (e.1, f e.2), by
    rw [Ascending, List.pairwise_map]
    exact m.ascending⟩

variable [Std.TransOrd κ] [Std.LawfulEqOrd κ]

def insert (m : SortedMap κ α) (k : κ) (a : α) : SortedMap κ α :=
  ⟨insertEntry k a m.entries, m.ascending.insertEntry⟩

def erase (m : SortedMap κ α) (k : κ) : SortedMap κ α :=
  ⟨eraseEntry k m.entries, m.ascending.eraseEntry⟩

/-- Inserts the entries one after the other, so that the last one under a key stays. -/
def ofList (entries : List (κ × α)) : SortedMap κ α :=
  entries.foldl (fun m e => m.insert e.1 e.2) empty

omit [Std.TransOrd κ] [Std.LawfulEqOrd κ] in
@[simp] theorem find?_empty (k : κ) : (empty : SortedMap κ α).find? k = none := rfl

theorem find?_insert (m : SortedMap κ α) (k k' : κ) (a : α) :
    (m.insert k a).find? k' = if k' = k then some a else m.find? k' :=
  findEntry_insertEntry k k' a m.entries

omit [Std.TransOrd κ] [Std.LawfulEqOrd κ] in
theorem find?_erase (m : SortedMap κ α) (k k' : κ) :
    (m.erase k).find? k' = if k' = k then none else m.find? k' :=
  findEntry_eraseEntry k k' m.entries

omit [Std.TransOrd κ] [Std.LawfulEqOrd κ] in
theorem find?_of_erase {m : SortedMap κ α} {k k' : κ} {a : α}
    (h : (m.erase k).find? k' = some a) : m.find? k' = some a := by
  rw [find?_erase] at h
  split at h
  · cases h
  · exact h

/-- Two maps with the same look-ups are the same map. -/
theorem ext_find? {m m' : SortedMap κ α} (h : ∀ k, m.find? k = m'.find? k) : m = m' := by
  obtain ⟨l, hl⟩ := m
  obtain ⟨l', hl'⟩ := m'
  obtain rfl := Ascending.ext hl hl' h
  rfl

omit [Std.TransOrd κ] in
theorem mem_entries_iff {m : SortedMap κ α} {k : κ} {a : α} :
    (k, a) ∈ m.entries ↔ m.find? k = some a :=
  m.ascending.mem_iff_findEntry

omit [DecidableEq κ] [Std.TransOrd κ] in
/-- No key has two entries. -/
theorem pairwise_entries_ne (m : SortedMap κ α) : m.entries.Pairwise fun e f => e.1 ≠ f.1 :=
  m.ascending.imp fun {e f} hlt heq => by simp [heq] at hlt

omit [Std.TransOrd κ] in
/-- The values are what some key finds. -/
theorem mem_values_iff {m : SortedMap κ α} {a : α} : a ∈ m.values ↔ ∃ k, m.find? k = some a := by
  simp only [values, List.mem_map, Prod.exists, exists_eq_right, mem_entries_iff]

omit [Std.TransOrd κ] in
theorem mem_keys_iff {m : SortedMap κ α} {k : κ} : k ∈ m.keys ↔ (m.find? k).isSome := by
  simp only [keys, List.mem_map, Prod.exists, exists_and_right, exists_eq_right, mem_entries_iff,
    Option.isSome_iff_exists]

theorem mem_keys_ofList {entries : List (κ × α)} {k : κ} :
    k ∈ (ofList entries).keys ↔ k ∈ entries.map Prod.fst := by
  have hfold : ∀ (m : SortedMap κ α),
      ((entries.foldl (fun m e => m.insert e.1 e.2) m).find? k).isSome ↔
        (m.find? k).isSome ∨ k ∈ entries.map Prod.fst := by
    induction entries with
    | nil => simp
    | cons e rest ih =>
      intro m
      rw [List.foldl_cons, ih, find?_insert, List.map_cons, List.mem_cons]
      by_cases h : k = e.1 <;> simp [h]
  rw [mem_keys_iff, ofList, hfold]
  simp

omit [Std.TransOrd κ] [Std.LawfulEqOrd κ] in
@[simp] theorem find?_map (f : α → β) (m : SortedMap κ α) (k : κ) :
    (m.map f).find? k = (m.find? k).map f := by
  obtain ⟨entries, h⟩ := m
  induction entries with
  | nil => rfl
  | cons e rest ih =>
    have ih := ih (List.pairwise_cons.1 h).2
    simp only [find?, map, List.map_cons, findEntry] at ih ⊢
    split
    · rfl
    · exact ih

/-- The last value under a key stays. -/
theorem insert_insert (m : SortedMap κ α) (k : κ) (a a' : α) :
    (m.insert k a).insert k a' = m.insert k a' :=
  ext_find? fun k' => by
    simp only [find?_insert]
    split <;> rfl

theorem map_insert (f : α → β) (m : SortedMap κ α) (k : κ) (a : α) :
    (m.insert k a).map f = (m.map f).insert k (f a) :=
  ext_find? fun k' => by
    simp only [find?_map, find?_insert]
    split <;> rfl

theorem map_erase (f : α → β) (m : SortedMap κ α) (k : κ) :
    (m.erase k).map f = (m.map f).erase k :=
  ext_find? fun k' => by
    simp only [find?_map, find?_erase]
    split <;> rfl

end SortedMap

end ClassReconciler
