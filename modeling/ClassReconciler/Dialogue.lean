/-!
# Dialogues

A computation that asks questions of the outside and goes on with the answers, as a tree: a
path through the tree is one course that the outside can give it. The same tree is run
against a cluster in memory, against a server, or against nothing at all when a statement is
about every course. `Dialogue.runM` interprets the questions in a monad, and `runM_bind` says
that it does so one after the other.
-/

namespace ClassReconciler

universe u

/-- A computation that asks questions `q : Q` with answers in `Answer q`. -/
inductive Dialogue {Q : Type} (Answer : Q → Type) (α : Type u) : Type u where
  | done (a : α)
  | ask (q : Q) (next : Answer q → Dialogue Answer α)

namespace Dialogue

variable {Q : Type} {Answer : Q → Type} {α β γ : Type u}

def bind : Dialogue Answer α → (α → Dialogue Answer β) → Dialogue Answer β
  | .done a, f => f a
  | .ask q next, f => .ask q fun a => (next a).bind f

instance : Monad (Dialogue Answer) where
  pure := .done
  bind := bind

/-- One question, whose answer is the result. -/
def question (q : Q) : Dialogue Answer (Answer q) := .ask q .done

@[simp] theorem done_bind (a : α) (f : α → Dialogue Answer β) : (done a >>= f) = f a := rfl

@[simp] theorem ask_bind (q : Q) (next : Answer q → Dialogue Answer α) (f : α → Dialogue Answer β) :
    (ask q next >>= f) = ask q fun a => next a >>= f := rfl

theorem bind_done (d : Dialogue Answer α) : d >>= done = d := by
  induction d with
  | done a => rfl
  | ask q next ih => exact congrArg (ask q) (funext ih)

theorem bind_assoc (d : Dialogue Answer α) (f : α → Dialogue Answer β)
    (g : β → Dialogue Answer γ) : d >>= f >>= g = d >>= fun a => f a >>= g := by
  induction d with
  | done a => rfl
  | ask q next ih => exact congrArg (ask q) (funext ih)

instance : LawfulMonad (Dialogue Answer) :=
  LawfulMonad.mk' _ (fun d => bind_done d) (fun _ _ => rfl) bind_assoc

/-- Every question on every course satisfies `p`. -/
def Asks (p : Q → Prop) : Dialogue Answer α → Prop
  | .done _ => True
  | .ask q next => p q ∧ ∀ a, (next a).Asks p

theorem Asks.bind {p : Q → Prop} {d : Dialogue Answer α} {f : α → Dialogue Answer β}
    (hd : d.Asks p) (hf : ∀ a, (f a).Asks p) : (d >>= f).Asks p := by
  induction d with
  | done a => exact hf a
  | ask q next ih => exact ⟨hd.1, fun a => ih a (hd.2 a)⟩

/-- Answers every question in a monad. -/
def runM {m : Type → Type} [Monad m] (answer : (q : Q) → m (Answer q)) {α : Type} :
    Dialogue Answer α → m α
  | .done a => pure a
  | .ask q next => answer q >>= fun a => (next a).runM answer

theorem runM_bind {m : Type → Type} [Monad m] [LawfulMonad m] (answer : (q : Q) → m (Answer q))
    {α β : Type} (d : Dialogue Answer α) (f : α → Dialogue Answer β) :
    (d >>= f).runM answer = d.runM answer >>= fun a => (f a).runM answer := by
  induction d with
  | done a => exact (pure_bind a fun a => (f a).runM answer).symm
  | ask q next ih =>
    show (answer q >>= fun a => (next a >>= f).runM answer) = _
    simp only [ih, runM, LawfulMonad.bind_assoc]

end Dialogue

end ClassReconciler
