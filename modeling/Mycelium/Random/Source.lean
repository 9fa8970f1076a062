/-!
# Random sources

A random source gives fractions and numbers below a bound, one after the other,
and goes from one state to the next with every draw.  Nothing is assumed of a
fraction; a number below `n` is one of `0` to `n - 1`.
-/

namespace Mycelium

/-- States from which random values are drawn. -/
class RandomSource (σ : Type) where
  /-- A fraction. -/
  fraction : σ → Float × σ
  /-- A number below a bound. -/
  below : (n : Nat) → 0 < n → σ → Fin n × σ

/-- A computation that draws from a random source. -/
abbrev Draw (σ : Type) := StateM σ

namespace Draw

variable {σ : Type} [RandomSource σ]

/-- A fraction drawn. -/
def fraction : Draw σ Float := fun s => RandomSource.fraction s

/-- A number below a bound drawn. -/
def below (n : Nat) (h : 0 < n) : Draw σ (Fin n) := fun s => RandomSource.below n h s

/-- Whether a fraction drawn lies below a rate. -/
def chance (rate : Float) : Draw σ Bool := do return (← fraction) < rate

/-- An item of a list drawn. -/
def pick {α : Type} (xs : List α) (h : xs ≠ []) : Draw σ { x // x ∈ xs } := do
  let i ← below xs.length (List.length_pos_iff.2 h)
  return ⟨xs[i], xs.getElem_mem i.isLt⟩

end Draw

end Mycelium
