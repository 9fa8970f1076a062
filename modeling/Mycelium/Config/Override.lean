import Mycelium.Environment
import Mycelium.Json.Coercion

/-!
# Overrides

A variable of the environment may override a value of the configuration.  Its
text is read in one of five ways, as any other value may be.  A text that cannot be
read overrides nothing.
-/

namespace Mycelium.Config

/-- How a value is read. -/
inductive Reading where
  /-- As a word that turns something on or off. -/
  | truth
  /-- As a hashtag, number signs in front of it dropped. -/
  | hashtag
  /-- As an integer above zero. -/
  | positive
  /-- As an integer. -/
  | integer
  /-- As a word, blanks and case ignored. -/
  | word
  deriving DecidableEq

/-- Why a value cannot be read. -/
inductive Refusal where
  /-- It turns nothing on or off. -/
  | noTruth (raw : Json)
  /-- There is no hashtag in it. -/
  | noHashtag
  /-- It is an integer that is not above zero. -/
  | notPositive (raw : Json)
  /-- It is no integer. -/
  | number (m : Json.Mismatch)

/-- What a refusal says. -/
def Refusal.message : Refusal → Text
  | noTruth raw => "invalid bool: ".toList ++ raw.shownInside
  | noHashtag => "empty hashtag".toList
  | notPositive raw => "expected positive int: ".toList ++ raw.shownInside
  | number m => m.message

/-- The text of a value, empty if the value does not count as true. -/
def textOf (raw : Json) : Text := (raw.orElse (.str [])).shown

/-- The integer of a value. -/
def readInteger (raw : Json) : Except Refusal Int := raw.toInt.mapError .number

/-- What a value is read as. -/
def Reading.read : Reading → Json → Except Refusal Json
  | truth, raw =>
      match Environment.truth? (textOf raw) with
      | some b => .ok (.bool b)
      | none => .error (.noTruth raw)
  | hashtag, raw =>
      let tag := (Text.strip (textOf raw)).dropWhile (· == '#')
      if tag.isEmpty then .error .noHashtag else .ok (.str tag)
  | positive, raw => do
      let n ← readInteger raw
      if 0 < n then .ok (.int n) else .error (.notPositive raw)
  | integer, raw => do return .int (← readInteger raw)
  | word, raw => .ok (.str (Environment.word raw.shown))

/-- A value of the configuration that a variable overrides. -/
structure Override where
  /-- The name of the value. -/
  key : Text
  /-- The variable. -/
  source : Text
  /-- How its text is read. -/
  reading : Reading

/-- The value that an environment gives, if it gives one. -/
def Override.value? (o : Override) (env : Environment) : Option Json :=
  (env.given? o.source).bind fun raw => (o.reading.read (.str raw)).toOption

/-- All overrides. -/
def overrides : List Override := [
  ⟨"enabled".toList, "FUNGI_ENABLED".toList, .truth⟩,
  ⟨"mycelial_hashtag".toList, "FUNGI_HASHTAG".toList, .hashtag⟩,
  ⟨"candidate_limit".toList, "FUNGI_CANDIDATE_LIMIT".toList, .positive⟩,
  ⟨"lifecycle_interval".toList, "FUNGI_LIFECYCLE_INTERVAL".toList, .positive⟩,
  ⟨"answer_interval".toList, "FUNGI_ANSWER_INTERVAL".toList, .positive⟩,
  ⟨"history_limit".toList, "FUNGI_HISTORY_LIMIT".toList, .integer⟩,
  ⟨"fitness_scorer".toList, "FUNGI_FITNESS_SCORER".toList, .word⟩,
  ⟨"max_message_chars".toList, "FUNGI_MAX_MESSAGE_CHARS".toList, .positive⟩]

end Mycelium.Config
