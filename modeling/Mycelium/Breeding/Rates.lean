/-!
# Rates and bounds of breeding
-/

namespace Mycelium

/-- How often rules are changed, and how large a rule system may be. -/
structure Rates where
  /-- How often a rule is mutated. -/
  mutation : Float := 0.5
  /-- How often a new rule is added. -/
  addition : Float := 0.3
  /-- How often a rule is deleted. -/
  deletion : Float := 0.1
  /-- How often a mutated rule gets another response. -/
  response : Float := 0.2
  /-- How often a rule of a parent goes into the child. -/
  inclusion : Float := 0.5
  /-- The least number of rules. -/
  leastRules : Int := 1
  /-- The greatest number of rules. -/
  mostRules : Int := 12
  /-- The weight of a system without fitness. -/
  floor : Float := 0.05
  /-- How often a trigger is changed at most before a letter is added to it. -/
  attempts : Int := 8
  /-- How long a program may be, zero for any length. -/
  budget : Int := 240

namespace Rates

/-- The least number of rules of a child. -/
def atLeast (r : Rates) : Nat := (max 1 r.leastRules).toNat

/-- The greatest number of rules of a child. -/
def atMost (r : Rates) : Nat := (max 1 r.mostRules).toNat

theorem cast_atLeast (r : Rates) : (r.atLeast : Int) = max 1 r.leastRules := by
  rw [atLeast]
  omega

theorem cast_atMost (r : Rates) : (r.atMost : Int) = max 1 r.mostRules := by
  rw [atMost]
  omega

theorem one_le_atLeast (r : Rates) : 1 ≤ r.atLeast := by
  rw [atLeast]
  omega

theorem one_le_atMost (r : Rates) : 1 ≤ r.atMost := by
  rw [atMost]
  omega

/-- How often a trigger is changed at most. -/
def tries (r : Rates) : Nat := (max 1 r.attempts).toNat

end Rates

end Mycelium
