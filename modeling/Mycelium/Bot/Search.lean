import Mycelium.Bot.Session
import Mycelium.Content
import Mycelium.Publication

/-!
# The initial search

A bot adopts the first program that it finds under its hashtag.  If there is
none, or the channel cannot be reached, it starts from the fallback system.
-/

namespace Mycelium.Bot

variable {σ : Type}

/-- The plain text of a content. -/
def decoded (content : Json) : Session σ Text := .ofOutcome (Content.plainText content)

/-- The plain text of the first post that holds a program. -/
def firstProgram? : List (Except Fault Post) → Session σ (Option Text)
  | [] => pure none
  | p :: ps => do
      let text ← decoded (← .ofOutcome p).content
      if Program.isProgram .usual text then return some text else firstProgram? ps

/-- The plain text of the first candidate message that holds a program. -/
def seedProgram? (settings : Settings) : Session σ (Option Text) := do
  firstProgram? (← .candidates settings.hashtag settings.candidateLimit)

/-- The rule system of a text that was found to hold a program, which is read once more, and
the fallback system if none was found. -/
def seedSystem : Option Text → Except Fault RuleSystem
  | some text => (Program.parse .usual text).mapError .program
  | none => .ok Publication.fallback

/-- A text that was found to hold a program is read without an error. -/
theorem exists_seedSystem (found : Option Text)
    (program : ∀ text, found = some text → Program.isProgram .usual text = true) :
    ∃ system, seedSystem found = .ok system ∧ system.rules ≠ [] := by
  cases found with
  | none => exact ⟨Publication.fallback, rfl, List.cons_ne_nil _ _⟩
  | some text =>
      have hprogram := program text rfl
      rw [Program.isProgram] at hprogram
      cases hparse : Program.parse .usual text with
      | ok system =>
          rw [hparse] at hprogram
          exact ⟨system, by rw [seedSystem, hparse]; rfl, by simpa using hprogram⟩
      | error e =>
          rw [hparse] at hprogram
          cases hprogram

/-- A first rule system is looked for and adopted. -/
def search (settings : Settings) : Session σ RuleSystem := do
  .change (.enter .searching)
  let found ← match ← (seedProgram? settings).outcome with
    | .ok found => pure found
    | .error f => if f.isTransient then pure none else throw f
  let system ← .ofOutcome (seedSystem found)
  .change (.seed system)
  return system

end Mycelium.Bot
