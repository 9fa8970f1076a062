import Mycelium.Breeding.Mutation

/-!
# Crossover

The rules of two parents are taken in turn, and each goes into the child with the
same chance.  If there are too few, rules that are not in the child yet are drawn
from the others; if both parents are empty the child is one rule of the
vocabulary.
-/

namespace Mycelium.Breeding

variable {σ : Type} [RandomSource σ]

/-- The items of two lists in turn, then the rest of the longer one. -/
def interleaved {α : Type} : List α → List α → List α
  | [], ys => ys
  | x :: xs, [] => x :: xs
  | x :: xs, y :: ys => x :: y :: interleaved xs ys

/-- Rules of which each is kept by chance. -/
def someOf (rate : Float) : List Rule → Draw σ (List Rule)
  | [] => pure []
  | r :: rs => do
      let keep ← Draw.chance rate
      let rest ← someOf rate rs
      return if keep then r :: rest else rest

/-- Rules with so many drawn from others added, as long as there are any. -/
def drawnFrom : Nat → List Rule → List Rule → Draw σ (List Rule)
  | 0, _, child => pure child
  | n + 1, others, child => do
      if h : others ≠ [] then
        let i ← Draw.below others.length (List.length_pos_iff.2 h)
        drawnFrom n (others.eraseIdx i) (child ++ [others[i]])
      else return child

/-- The child of two parents. -/
def crossed (rates : Rates) (a b : RuleSystem) : Draw σ RuleSystem := do
  let rs := interleaved a.rules b.rules
  let child ← someOf rates.inclusion rs
  let others := rs.filter fun r => !child.any fun c => r == c
  let child ← drawnFrom (rates.atLeast - child.length) others child
  let child ← if child.isEmpty then do pure [← newRule] else pure child
  return ⟨child.take rates.atMost⟩

end Mycelium.Breeding
