import Mycelium.Dialogue

/-!
# What is asked and answered in a dialogue

A dialogue is run by answering its questions, one after the other.  `Runs` says which result
it has for which answers, whoever gives them.  Someone who answers by what was asked before
always brings it to an end (`runs_play`).
-/

namespace Mycelium

/-- A question with its answer. -/
structure Exchange (Q : Type) (A : Q → Type) where
  /-- The question. -/
  question : Q
  /-- The answer. -/
  answer : A question

namespace Dialogue

variable {Q : Type} {A : Q → Type} {α β : Type}

/-- A dialogue has a result when its questions get these answers. -/
inductive Runs : Dialogue Q A α → List (Exchange Q A) → α → Prop where
  | done (a : α) : Runs (.done a) [] a
  | ask {q : Q} {next : A q → Dialogue Q A α} {r : A q} {xs : List (Exchange Q A)} {a : α}
      (rest : Runs (next r) xs a) : Runs (.ask q next) (⟨q, r⟩ :: xs) a

theorem Runs.of_bind {d : Dialogue Q A α} {f : α → Dialogue Q A β} {xs : List (Exchange Q A)}
    {b : β} (h : Runs (d.bind f) xs b) :
    ∃ ys zs a, xs = ys ++ zs ∧ Runs d ys a ∧ Runs (f a) zs b := by
  induction d generalizing xs with
  | done a => exact ⟨[], xs, a, rfl, .done a, h⟩
  | ask q next ih =>
      cases h with
      | ask rest =>
          obtain ⟨ys, zs, a, rfl, hd, hf⟩ := ih _ rest
          exact ⟨_ :: ys, zs, a, rfl, .ask hd, hf⟩

/-! ## Answers by what was asked before -/

/-- What a question gets as an answer after what was asked before. -/
abbrev Strategy (Q : Type) (A : Q → Type) := List (Exchange Q A) → (q : Q) → A q

/-- Exchanges after some earlier ones are answered as a strategy says. -/
def Answers (answer : Strategy Q A) : (past xs : List (Exchange Q A)) → Prop
  | _, [] => True
  | past, x :: xs => x.answer = answer past x.question ∧ Answers answer (past ++ [x]) xs

theorem Answers.exists_answer_eq {answer : Strategy Q A} {past xs : List (Exchange Q A)}
    {x : Exchange Q A} (h : Answers answer past xs) (hx : x ∈ xs) :
    ∃ earlier, x.answer = answer earlier x.question := by
  induction xs generalizing past with
  | nil => cases hx
  | cons y ys ih =>
      obtain rfl | hx := List.mem_cons.1 hx
      · exact ⟨past, h.1⟩
      · exact ih h.2 hx

/-- The rest of a dialogue whose questions are answered by a strategy: the exchanges and the
result. -/
def play (answer : Strategy Q A) : List (Exchange Q A) → Dialogue Q A α → List (Exchange Q A) × α
  | _, done a => ([], a)
  | past, ask q next =>
      let x : Exchange Q A := ⟨q, answer past q⟩
      let p := play answer (past ++ [x]) (next x.answer)
      (x :: p.1, p.2)

variable (answer : Strategy Q A) (past : List (Exchange Q A)) (d : Dialogue Q A α)

/-- A dialogue comes to an end whatever is answered. -/
theorem runs_play : d.Runs (d.play answer past).1 (d.play answer past).2 := by
  induction d generalizing past with
  | done a => exact .done a
  | ask q next ih => exact .ask (ih _ _)

theorem answers_play : Answers answer past (d.play answer past).1 := by
  induction d generalizing past with
  | done a => trivial
  | ask q next ih => exact ⟨rfl, ih _ _⟩

end Dialogue

end Mycelium
