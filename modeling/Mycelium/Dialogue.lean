/-!
# Dialogues

A dialogue is a computation that puts questions to its surroundings and goes on
with their answers.  Everything a bot does is a dialogue: what its steps are is
data, and who answers is left open, be it a channel, a script or an adversary.

`conduct` lets a monad answer all questions of a dialogue, which may be another
dialogue.  The monad laws are `pure_bind`, `bind_pure` and `bind_assoc`.
-/

namespace Mycelium

/-- A computation that is done, or asks a question and goes on with the answer. -/
inductive Dialogue (Q : Type) (A : Q → Type) (α : Type) : Type where
  /-- Nothing more is asked. -/
  | done (a : α)
  /-- A question, and what follows for each answer. -/
  | ask (q : Q) (next : A q → Dialogue Q A α)

namespace Dialogue

variable {Q : Type} {A : Q → Type} {α β γ : Type}

/-- A dialogue followed by another one that depends on its result. -/
protected def bind : Dialogue Q A α → (α → Dialogue Q A β) → Dialogue Q A β
  | done a, f => f a
  | ask q next, f => ask q fun r => (next r).bind f

instance : Monad (Dialogue Q A) where
  pure := done
  bind := Dialogue.bind

/-- The dialogue of one question. -/
def put (q : Q) : Dialogue Q A (A q) := ask q done

/-- The result of a dialogue whose questions a monad answers. -/
def conduct {m : Type → Type} [Monad m] (answer : (q : Q) → m (A q)) : Dialogue Q A α → m α
  | done a => pure a
  | ask q next => do
      let r ← answer q
      (next r).conduct answer

@[simp] theorem pure_eq (a : α) : (pure a : Dialogue Q A α) = done a := rfl

@[simp] theorem bind_eq (d : Dialogue Q A α) (f : α → Dialogue Q A β) : d >>= f = d.bind f := rfl

@[simp] theorem done_bind (a : α) (f : α → Dialogue Q A β) : (done a).bind f = f a := rfl

@[simp] theorem ask_bind (q : Q) (next : A q → Dialogue Q A α) (f : α → Dialogue Q A β) :
    (ask q next).bind f = ask q fun r => (next r).bind f := rfl

theorem bind_pure (d : Dialogue Q A α) : d.bind done = d := by
  induction d with
  | done a => rfl
  | ask q next ih => simp [ih]

theorem bind_assoc (d : Dialogue Q A α) (f : α → Dialogue Q A β) (g : β → Dialogue Q A γ) :
    (d.bind f).bind g = d.bind fun a => (f a).bind g := by
  induction d with
  | done a => rfl
  | ask q next ih => simp [ih]

instance : LawfulMonad (Dialogue Q A) where
  map_const := rfl
  id_map d := bind_pure d
  seqLeft_eq _ _ := by
    show Dialogue.bind _ _ = Dialogue.bind (Dialogue.bind _ _) _
    rw [bind_assoc]
    rfl
  seqRight_eq d e := by
    show Dialogue.bind _ _ = Dialogue.bind (Dialogue.bind _ _) _
    rw [bind_assoc]
    show Dialogue.bind d (fun _ => e) = Dialogue.bind d fun _ => Dialogue.bind e done
    rw [bind_pure]
  pure_seq f d := rfl
  bind_pure_comp _ _ := rfl
  bind_map _ _ := rfl
  pure_bind _ _ := rfl
  bind_assoc := bind_assoc

end Dialogue

end Mycelium
