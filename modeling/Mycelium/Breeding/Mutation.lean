import Mycelium.Breeding.Rates
import Mycelium.Random.Source
import Mycelium.Rule.System

/-!
# Mutation

A mutated rule has another trigger: its own with one random change, tried again
until it is neither blank nor the old one, or with a letter added when too many
tries failed.  Now and then it gets a response of the vocabulary as well.

A mutated system has some of its rules mutated, perhaps a new rule of the
vocabulary somewhere and perhaps one rule less, and is filled up or cut to its
bounds.
-/

namespace Mycelium.Breeding

variable {σ : Type} [RandomSource σ]

/-! ## The vocabulary -/

/-- The triggers of new rules. -/
def triggerWords : List Text :=
  ["hello", "hi", "help", "support", "pricing", "weather", "news", "thanks", "spore", "mushroom",
    "forest", "rain", "morning", "night", "why", "how"].map String.toList

/-- The responses of new rules. -/
def responseWords : List Text :=
  ["Hello, Fediverse user!", "Hi there! How can I help?", "The mycelium hears you.",
    "Spores are on their way.", "Thanks for reaching out!", "Ask me about the forest.",
    "Good morning from the underground.", "Sleep well, the network keeps growing.",
    "I am still evolving, try again later."].map String.toList

/-- The letters a trigger may get. -/
def letters : List Char := "abcdefghijklmnopqrstuvwxyz".toList

theorem triggerWords_ne_nil : triggerWords ≠ [] := by simp [triggerWords]

theorem responseWords_ne_nil : responseWords ≠ [] := by simp [responseWords]

theorem letters_ne_nil : letters ≠ [] := by decide

/-- No trigger of the vocabulary is blank. -/
theorem not_blank_of_mem_triggerWords {w : Text} (h : w ∈ triggerWords) :
    Text.isBlankText w = false := by
  have : ∀ w ∈ triggerWords, Text.isBlankText w = false := by decide
  exact this w h

/-- A response of the vocabulary drawn. -/
def response : Draw σ Text := do return (← Draw.pick responseWords responseWords_ne_nil).1

/-- A letter drawn. -/
def letter : Draw σ Char := do return (← Draw.pick letters letters_ne_nil).1

/-- A rule of the vocabulary drawn. -/
def newRule : Draw σ Rule := do
  let word ← Draw.pick triggerWords triggerWords_ne_nil
  let answer ← response
  return ⟨word.1, answer, none, .empty, not_blank_of_mem_triggerWords word.2⟩

/-! ## Triggers -/

/-- A change of a trigger. -/
inductive Edit where
  /-- One character changes its case. -/
  | swapCase
  /-- One character is left out, if there is another one. -/
  | drop
  /-- A letter is put in. -/
  | insert
  /-- A letter takes the place of one character. -/
  | replace
  /-- A word of the vocabulary is added. -/
  | extend
  deriving DecidableEq

/-- The changes, each as likely as the others. -/
def edits : List Edit := [.swapCase, .drop, .insert, .replace, .extend]

/-- A change drawn. -/
def edit : Draw σ Edit := do return (← Draw.pick edits (by simp [edits])).1

/-- A trigger with a word of the vocabulary added. -/
def extended (t : Text) : Draw σ Text := do
  return t ++ ' ' :: (← Draw.pick triggerWords triggerWords_ne_nil).1

/-- A trigger changed at a place that is drawn, without the blanks that then stand
at its ends. -/
def altered (e : Edit) (t : Text) (h : t ≠ []) : Draw σ Text := do
  let i ← Draw.below t.length (List.length_pos_iff.2 h)
  let changed ← match e with
    | .swapCase => pure (t.take i ++ Text.swapCase t[i] ++ t.drop (i + 1))
    | .drop => pure (if 1 < t.length then t.eraseIdx i else t)
    | .insert => do
        let j ← Draw.below (t.length + 1) (Nat.succ_pos _)
        pure (t.take j ++ (← letter) :: t.drop j)
    | .replace => do pure (t.set i (← letter))
    | .extend => pure t
  return Text.strip changed

/-- A trigger with one change drawn. -/
def perturbed (t : Text) (h : t ≠ []) : Draw σ Text := do
  match ← edit with
  | .extend => extended t
  | e => altered e t h

/-- A text with one change drawn.  Nothing but a word can be added to an empty text. -/
def perturbed? (t : Text) : Draw σ (Option Text) := do
  if h : t ≠ [] then return some (← perturbed t h)
  else
    match ← edit with
    | .extend => return some (← extended t)
    | _ => return none

/-- What a change of an empty text is refused with. -/
def noPlace : Text := "empty range for randrange()".toList

/-- A trigger that is not blank. -/
abbrev Trigger := { t : Text // Text.isBlankText t = false }

/-- A trigger is not empty. -/
theorem Trigger.ne_nil (t : Trigger) : t.1 ≠ [] := by
  intro h
  have := t.2
  simp [h, Text.isBlankText] at this

/-- A trigger with a letter added. -/
def withLetter (t : Trigger) (c : Char) : Trigger :=
  ⟨t.1 ++ [c], by
    have := t.2
    simp only [Text.isBlankText] at this ⊢
    rw [List.all_append, this, Bool.false_and]⟩

/-- Another trigger, within a number of tries. -/
def otherTrigger (t : Trigger) : Nat → Draw σ Trigger
  | 0 => do return withLetter t (← letter)
  | tries + 1 => do
      let candidate ← perturbed t.1 t.ne_nil
      if h : Text.isBlankText candidate = false then
        if candidate ≠ t.1 then return ⟨candidate, h⟩ else otherTrigger t tries
      else otherTrigger t tries

/-! ## Rules and systems -/

/-- A rule with another trigger, and perhaps another response. -/
def mutatedRule (rates : Rates) (r : Rule) : Draw σ Rule := do
  let trigger ← otherTrigger ⟨r.trigger, r.trigger_not_blank⟩ rates.tries
  let answer ← if ← Draw.chance rates.response then response else pure r.response
  return ⟨trigger.1, answer, r.condition, r.template, trigger.2⟩

/-- Rules of which some are mutated. -/
def mutatedRules (rates : Rates) : List Rule → Draw σ (List Rule)
  | [] => pure []
  | r :: rs => do
      let r ← if ← Draw.chance rates.mutation then mutatedRule rates r else pure r
      return r :: (← mutatedRules rates rs)

/-- Rules with one of the vocabulary put in at a place that is drawn. -/
def withNewRule (rs : List Rule) : Draw σ (List Rule) := do
  let i ← Draw.below (rs.length + 1) (Nat.succ_pos _)
  return rs.take i ++ (← newRule) :: rs.drop i

/-- Rules without one that is drawn, if there are more than a number. -/
def withoutOne (least : Nat) (rs : List Rule) : Draw σ (List Rule) := do
  if h : least < rs.length then
    let i ← Draw.below rs.length (Nat.zero_lt_of_lt h)
    return rs.eraseIdx i
  else return rs

/-- Rules with so many of the vocabulary added. -/
def filledUp : Nat → List Rule → Draw σ (List Rule)
  | 0, rs => pure rs
  | n + 1, rs => do filledUp n (rs ++ [← newRule])

/-- A mutated system. -/
def mutated (rates : Rates) (s : RuleSystem) : Draw σ RuleSystem := do
  let rs ← mutatedRules rates s.rules
  let rs ← if ← Draw.chance rates.addition then withNewRule rs else pure rs
  let rs ← if ← Draw.chance rates.deletion then withoutOne rates.atLeast rs else pure rs
  let rs ← filledUp (rates.atLeast - rs.length) rs
  return ⟨rs.take rates.atMost⟩

end Mycelium.Breeding
