import Mycelium.Breeding.Rates
import Mycelium.Config.Basic
import Mycelium.Json.Coercion

/-!
# The rates of breeding that are configured

The part `evolution` of the tuneables sets rates and bounds of breeding.  A value
that cannot be taken as the number that is needed leaves the usual one.  Only a
value outside the range of that number is refused.
-/

namespace Mycelium

/-- Whether a value is a number, but outside the range of the numbers that are
needed. -/
def Json.Mismatch.isOutOfRange : Json.Mismatch → Bool
  | .infinite | .tooLarge => true
  | _ => false

/-- Rates under the names by which they are configured. -/
def Rates.toMembers (r : Rates) : Members :=
  [("mutation_rate".toList, .float r.mutation), ("add_rule_rate".toList, .float r.addition),
    ("delete_rule_rate".toList, .float r.deletion),
    ("response_mutation_rate".toList, .float r.response),
    ("crossover_probability_per_rule".toList, .float r.inclusion),
    ("min_rules".toList, .int r.leastRules), ("max_rules".toList, .int r.mostRules),
    ("weight_floor".toList, .float r.floor), ("max_mutation_attempts".toList, .int r.attempts),
    ("max_program_chars".toList, .int r.budget)]

namespace Config

/-- A number that is configured under a name, or the usual one. -/
def configured {α : Type} (take : Json → Except Json.Mismatch α) (ms : Members) (name : String)
    (usual : α) : Except Json.Mismatch α :=
  match ms.get? name.toList with
  | none => .ok usual
  | some v =>
      match take v with
      | .ok a => .ok a
      | .error e => if e.isOutOfRange then .error e else .ok usual

/-- The rates that a part of the tuneables sets. -/
def ratesOf (ms : Members) : Except Json.Mismatch Rates := do
  let usual : Rates := {}
  return {
    mutation := ← configured Json.toFloat ms "mutation_rate" usual.mutation
    addition := ← configured Json.toFloat ms "add_rule_rate" usual.addition
    deletion := ← configured Json.toFloat ms "delete_rule_rate" usual.deletion
    response := ← configured Json.toFloat ms "response_mutation_rate" usual.response
    inclusion := ← configured Json.toFloat ms "crossover_probability_per_rule" usual.inclusion
    leastRules := ← configured Json.toInt ms "min_rules" usual.leastRules
    mostRules := ← configured Json.toInt ms "max_rules" usual.mostRules
    floor := ← configured Json.toFloat ms "weight_floor" usual.floor
    attempts := ← configured Json.toInt ms "max_mutation_attempts" usual.attempts
    budget := ← configured Json.toInt ms "max_program_chars" usual.budget }

/-- The rates that the tuneables set. -/
def rates (tuneables : Members) : Except Json.Mismatch Rates :=
  ratesOf (part tuneables "evolution".toList)

end Config

end Mycelium
