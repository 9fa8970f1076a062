import Mycelium.Breeding.Crossover
import Mycelium.Breeding.Pool
import Mycelium.Program.Printer
import Mycelium.Rule.Fitting

/-!
# Evolution

The next system is bred from a pool: two parents are drawn, crossed, the child
mutated, and rules dropped at its end until its program keeps to the budget.  One
rule is always kept.
-/

namespace Mycelium.Breeding

variable {σ : Type} [RandomSource σ]

/-- Whether the program of a system keeps to a budget. -/
def keepsTo (budget : Int) (s : RuleSystem) : Bool := (s.program.length : Int) ≤ budget

/-- A system without the last rules that its budget has no room for. -/
def withinBudget (rates : Rates) (s : RuleSystem) : RuleSystem :=
  if rates.budget ≤ 0 then s
  else s.first ((s.longest? (keepsTo rates.budget) s.size).getD 1)

/-- The system bred from a pool that is not empty. -/
def bred (rates : Rates) (pool : Pool) (h : pool ≠ []) : Draw σ RuleSystem := do
  let a ← pool.select h
  let b ← pool.select h
  return withinBudget rates (← mutated rates (← crossed rates a b))

/-- The pool of a cycle: the current system, the lineage, and what others
published. -/
def poolOf (rates : Rates) (current : Scored) (lineage others : List Scored) : Pool :=
  Pool.ofScored rates (current :: lineage ++ others)

/-- The pool of a cycle is never empty. -/
theorem poolOf_ne_nil (rates : Rates) (current : Scored) (lineage others : List Scored) :
    poolOf rates current lineage others ≠ [] := by
  have grows : ∀ (xs : List Scored) (p : Pool), p ≠ [] →
      xs.foldl (fun pool x => Pool.add pool x.system (Pool.weight rates x.fitness)) p ≠ [] := by
    intro xs
    induction xs with
    | nil => intro p hp; exact hp
    | cons x xs ih => intro p _; exact ih _ (by simp [Pool.add])
  rw [poolOf, Pool.ofScored, List.cons_append, List.foldl_cons]
  exact grows _ _ (by simp [Pool.add])

/-- The system of the next cycle. -/
def evolved (rates : Rates) (current : Scored) (lineage others : List Scored) :
    Draw σ RuleSystem :=
  bred rates (poolOf rates current lineage others) (poolOf_ne_nil rates current lineage others)

end Mycelium.Breeding
