import ClassReconciler.SortedMap

/-!
# Reconcile keys

A key names the object whose change started a reconcile. A key without a kind is looked up
as a namespace first and then as a class. The key's namespace is only shown.
-/

namespace ClassReconciler

/-- The kind of object that a key names. -/
inductive KeyKind where
  | inNamespace
  | ofClass
deriving DecidableEq, Inhabited

namespace KeyKind

def rank : KeyKind → Nat
  | .inNamespace => 0
  | .ofClass => 1

/-- Namespaces come before classes. -/
instance : Ord KeyKind := ⟨compareOn rank⟩

instance : Std.TransOrd KeyKind := inferInstanceAs (Std.TransCmp (compareOn rank))

instance : Std.LawfulEqOrd KeyKind where
  eq_of_compare {a b} h := by cases a <;> cases b <;> first | rfl | exact absurd h (by decide)

def text : KeyKind → String
  | .inNamespace => "Namespace"
  | .ofClass => "NamespaceClass"

end KeyKind

/-- The object that a reconcile is about. -/
structure Key where
  name : String
  inNamespace : Option String := none
  kind : Option KeyKind := none
deriving DecidableEq, Inhabited

namespace Key

/-- Keys are ordered by name, then namespace, then kind, unset before set. -/
instance : Ord Key :=
  ⟨compareLex (compareOn name) (compareLex (compareOn inNamespace) (compareOn kind))⟩

instance : Std.TransOrd Key :=
  inferInstanceAs <| Std.TransCmp
    (compareLex (compareOn name) (compareLex (compareOn inNamespace) (compareOn kind)))

instance : Std.LawfulEqOrd Key where
  eq_of_compare {a b} h := by
    obtain ⟨h₁, h⟩ := Ordering.then_eq_eq.1 h
    obtain ⟨h₂, h₃⟩ := Ordering.then_eq_eq.1 h
    rw [compareOn, Std.LawfulEqCmp.compare_eq_iff_eq] at h₁ h₂ h₃
    cases a
    cases b
    simp_all

def ofNamespace (name : String) : Key := { name, kind := some .inNamespace }

def ofClass (name : String) : Key := { name, kind := some .ofClass }

def text (k : Key) : String :=
  (match k.kind with
    | some kind => kind.text ++ " "
    | none => "") ++
  (match k.inNamespace with
    | some ns => ns ++ "/" ++ k.name
    | none => k.name)

/-- Keys in ascending order, each of them once. -/
def sorted (keys : List Key) : List Key := (SortedMap.ofList (keys.map fun k => (k, ()))).keys

end Key

end ClassReconciler
