import Mycelium.Breeding.Rates
import Mycelium.Entries
import Mycelium.Json.Coercion

/-!
# The settings of a bot

A bot takes four settings from its configuration.  A value that does not count as
true is replaced, and every other one is taken as the kind that is needed.
-/

namespace Mycelium.Bot

/-- What a bot is set to. -/
structure Settings where
  /-- The hashtag, without a number sign. -/
  hashtag : Text
  /-- How many candidate messages are looked at. -/
  candidateLimit : Int
  /-- How long a message may be, zero for any length. -/
  messageLimit : Int
  /-- How long the lineage may become, zero for any length. -/
  historyLimit : Int
  /-- The rates of breeding. -/
  rates : Rates

namespace Settings

/-- How long a message may be if the configuration does not say. -/
def usualMessageLimit : Int := 280

/-- The settings that a configuration gives. -/
def ofMembers (config : Members) (rates : Rates) : Except Json.Mismatch Settings := do
  let value (name : String) (absent : Json) : Json := (config.get? name.toList).getD absent
  let hashtag := ((value "mycelial_hashtag" .null).orElse (.str "fungifeed".toList)).shown
  let candidateLimit ← ((value "candidate_limit" (.int 30)).orElse (.int 30)).toInt
  let messageLimit ← ((value "max_message_chars" (.int usualMessageLimit)).orElse (.int 0)).toInt
  let historyLimit ← ((value "history_limit" (.int 0)).orElse (.int 0)).toInt
  return {
    hashtag := hashtag.dropWhile (· == '#')
    candidateLimit, messageLimit, historyLimit, rates }

end Settings

end Mycelium.Bot
