/-! # Dialogues

Programs as trees of questions. A dialogue either is over or asks a question and goes on with the
answer; who answers, and by which means, is left open. Every statement about a dialogue is thereby a
statement about all worlds that may answer it.
-/

namespace HeadEnd

/-- A program that puts questions of type `Q`; the type of an answer depends on its question. -/
inductive Dialogue (Q : Type) (A : Q → Type) (α : Type) where
  /-- The dialogue is over. -/
  | done (result : α)
  /-- The dialogue goes on with the answer. -/
  | ask (question : Q) (next : A question → Dialogue Q A α)

namespace Dialogue

variable {Q R : Type} {A : Q → Type} {B : R → Type} {α β γ σ : Type}

protected def bind : Dialogue Q A α → (α → Dialogue Q A β) → Dialogue Q A β
  | done a, f => f a
  | ask q next, f => ask q fun answer => (next answer).bind f

instance : Monad (Dialogue Q A) where
  pure := done
  bind := Dialogue.bind

def question (q : Q) : Dialogue Q A (A q) :=
  ask q done

/-- The outcome of a dialogue with a world, and the state that it leaves the world in. -/
def run (world : (q : Q) → σ → A q × σ) : Dialogue Q A α → σ → α × σ
  | done a, s => (a, s)
  | ask q next, s =>
    let (answer, s) := world q s
    (next answer).run world s

/-- The dialogue in which every question is answered by means of another dialogue. -/
def relay (f : (q : Q) → Dialogue R B (A q)) : Dialogue Q A α → Dialogue R B α
  | done a => done a
  | ask q next => (f q).bind fun answer => (next answer).relay f

/-! ## Laws -/

@[simp] theorem pure_eq (a : α) : (pure a : Dialogue Q A α) = done a := rfl

@[simp] theorem done_bind (a : α) (f : α → Dialogue Q A β) : done a >>= f = f a := rfl

@[simp] theorem ask_bind (q : Q) (next : A q → Dialogue Q A α) (f : α → Dialogue Q A β) :
    ask q next >>= f = ask q fun answer => next answer >>= f := rfl

theorem bind_done (d : Dialogue Q A α) : d >>= done = d := by
  induction d with
  | done a => rfl
  | ask q next ih => exact congrArg (ask q) (funext ih)

theorem bind_bind (d : Dialogue Q A α) (f : α → Dialogue Q A β) (g : β → Dialogue Q A γ) :
    d >>= f >>= g = d >>= fun a => f a >>= g := by
  induction d with
  | done a => rfl
  | ask q next ih => exact congrArg (ask q) (funext ih)

instance : LawfulMonad (Dialogue Q A) :=
  LawfulMonad.mk' _ bind_done (fun _ _ => rfl) bind_bind

/-- A world answers one dialogue after another. -/
theorem run_bind (world : (q : Q) → σ → A q × σ) (d : Dialogue Q A α) (f : α → Dialogue Q A β)
    (s : σ) : (d >>= f).run world s = (f (d.run world s).1).run world (d.run world s).2 := by
  induction d generalizing s with
  | done a => rfl
  | ask q next ih => exact ih _ _

end Dialogue

end HeadEnd
