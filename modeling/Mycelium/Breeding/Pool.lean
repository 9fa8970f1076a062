import Mycelium.Breeding.Rates
import Mycelium.Program.Fitness
import Mycelium.Random.Source
import Mycelium.Json.Coercion

/-!
# Candidate pools

A pool holds the rule systems that may become parents, each with a weight.  A
weight is never negative and never infinite.  A parent is drawn with a chance in
proportion to its weight; if no weight is positive, all have the same chance.
-/

namespace Mycelium

/-- A rule system that may become a parent. -/
structure Candidate where
  /-- The rule system. -/
  system : RuleSystem
  /-- Its weight. -/
  weight : Float

/-- Rule systems that may become parents. -/
abbrev Pool := List Candidate

namespace Pool

/-- What drawing from an empty pool is refused with. -/
def noCandidate : Text := "candidate pool is empty".toList

/-- The weight that a number is taken as: zero for one that is negative or not
finite. -/
def admissible (x : Float) : Float :=
  let x := if Binary64.isFinite x then x else 0.0
  if 0.0 < x then x else 0.0

/-- The pool with one more system. -/
def add (pool : Pool) (system : RuleSystem) (weight : Float) : Pool :=
  pool ++ [⟨system, admissible weight⟩]

/-- The weight of a fitness: the fitness, or zero if it is negative or not finite,
and the floor. -/
def weight (rates : Rates) (fitness : Float) : Float :=
  let x := if Binary64.isFinite fitness then fitness else 0.0
  (if x < 0.0 then 0.0 else x) + rates.floor

/-- The weight of a fitness that may be no number, which then counts as zero.  An
integer outside the range of a double has no weight. -/
def weightOfMark (rates : Rates) (mark : Json) : Except Json.Mismatch Float :=
  match mark.toFloat with
  | .ok x => .ok (weight rates x)
  | .error .tooLarge => .error .tooLarge
  | .error _ => .ok (weight rates 0.0)

/-- The pool of scored systems, in order. -/
def ofScored (rates : Rates) (xs : List Scored) : Pool :=
  xs.foldl (fun pool x => pool.add x.system (weight rates x.fitness)) []

/-- The pool of systems whose fitness may be no number, in order. -/
def ofMarked (rates : Rates) (xs : List (RuleSystem × Json)) : Except Json.Mismatch Pool :=
  xs.foldlM (fun pool x => do return add pool x.1 (← weightOfMark rates x.2)) []

/-- The sum of the weights. -/
def total (pool : Pool) : Float := pool.foldl (fun sum c => sum + c.weight) 0.0

/-- The first system at which the sum of the weights so far exceeds a number, or
the last system. -/
def reach (mark : Float) (last : RuleSystem) : Float → Pool → RuleSystem
  | _, [] => last
  | sum, c :: rest =>
      let sum := sum + c.weight
      if mark < sum then c.system else reach mark last sum rest

/-- A parent drawn from a pool that is not empty. -/
def select {σ : Type} [RandomSource σ] (pool : Pool) (h : pool ≠ []) : Draw σ RuleSystem := do
  let sum := pool.total
  if sum ≤ 0.0 then return (← Draw.pick pool h).1.system
  else return reach ((← Draw.fraction) * sum) (pool.getLast h).system 0.0 pool

end Pool

end Mycelium
