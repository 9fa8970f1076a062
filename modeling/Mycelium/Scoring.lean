import Mycelium.Rule.System
import Mycelium.Json.Coercion

/-!
# Interactions and scores

The log holds the interactions that the active rule system answered, oldest
first.  A scorer turns the log of a cycle into a fitness.
-/

namespace Mycelium

/-- A text that was answered. -/
structure Interaction where
  /-- The text, if there was one. -/
  text : Option Text
  /-- The answer. -/
  response : Text
  /-- Whether the answer was another one than that for no match. -/
  matched : Bool
  deriving DecidableEq

/-- The interactions of a cycle, oldest first. -/
abbrev Log := List Interaction

namespace Log

/-- The log with one more interaction. -/
def record (log : Log) (i : Interaction) : Log := log ++ [i]

/-- The number of interactions that some rule matched. -/
def matchCount (log : Log) : Nat := log.countP Interaction.matched

/-- The log without its oldest interactions. -/
def consume (log : Log) (count : Int) : Log := log.drop count.toNat

/-- The share of the interactions that some rule matched, to four places. -/
def matchRate (log : Log) : Float :=
  if log.isEmpty then 0.0
  else Binary64.roundTo 4 (Float.ofNat log.matchCount / Float.ofNat log.length)

end Log

/-- A way to turn a log into a fitness. -/
inductive Scorer where
  /-- Every log gets the same fitness. -/
  | constant (value : Float)
  /-- A log gets the share of its interactions that some rule matched. -/
  | matchRate

namespace Scorer

/-- The fitness of a log. -/
def score : Scorer → Log → Float
  | .constant value, _ => value
  | .matchRate, log => log.matchRate

/-- The scorer of a name, blanks and case ignored; the constant zero if there is no
name. -/
def named? (name : Json) : Option Scorer :=
  let key := Text.lower (Text.strip (name.orElse (.str "constant".toList)).shown)
  if key = "constant".toList then some (.constant 0.0)
  else if key = "match_rate".toList then some .matchRate
  else none

/-- What an unknown name is refused with. -/
def unknown (name : Json) : Text := "unknown fitness scorer: ".toList ++ name.shownInside

end Scorer

end Mycelium
