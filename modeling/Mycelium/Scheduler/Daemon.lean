import Mycelium.Config.Basic
import Mycelium.Config.Breeding
import Mycelium.Scheduler.Arguments
import Mycelium.Scheduler.Heartbeat
import Mycelium.Scheduler.Run

/-!
# The daemon

A scheduler starts from its configuration, its state file and a channel.  Then the
bot looks for a first rule system, and the due tasks are done: once, or again and
again with a pause in between until the program is to stop.

* Every start forgets when the tasks were done, for the rule systems are gone too.
* A fault at the start, or of a single run, ends the program; a fault of one of many
  runs does not.
-/

namespace Mycelium.Scheduler

/-- What a scheduler starts with. -/
structure Start where
  /-- The configuration. -/
  config : Members
  /-- The settings of the bot. -/
  settings : Bot.Settings
  /-- The scorer. -/
  scorer : Scorer
  /-- The state that was kept. -/
  state : Members

/-- The value that a state file holds, and an empty object if it holds none. -/
def keptValue (file : File) : Except File.Fault Json := do return (← file.json?).getD (.obj [])

/-- The state of an earlier program, without the times at which tasks were done. -/
def keptState (file : File) : Except Fault Members :=
  match keptValue file with
  | .error f => .error (.file f)
  | .ok (.obj ms) => .ok (Task.all.foldl (fun s t => Entries.erase s t.lastRunKey) ms)
  | .ok v => .error (.noState v.kindName)

namespace Start

/-- The name of the scorer that a configuration gives. -/
def scorerName (config : Members) : Json :=
  (config.get? "fitness_scorer".toList).getD (.str "constant".toList)

/-- The scorer that a configuration gives. -/
def scorerOf (config : Members) : Except Fault Scorer :=
  match Scorer.named? (scorerName config) with
  | some s => .ok s
  | none => .error (.unknownScorer (Scorer.unknown (scorerName config)))

/-- Whether a configuration switches the program on. -/
def isEnabled (config : Members) : Bool :=
  ((config.get? "enabled".toList).getD (.bool true)).holds

/-- What a scheduler starts with, unless the configuration switches it off. -/
def ofSources? (env : Environment) (tuneables state : File) (channel : Except Fault Unit) :
    Except Fault (Option Start) := do
  let parts ← (Config.tuneables tuneables).mapError .file
  let config := Config.ofSources env parts
  if !isEnabled config then return none
  let state ← keptState state
  channel
  let rates ← (Config.rates parts).mapError .mismatch
  let scorer ← scorerOf config
  let settings ← (Bot.Settings.ofMembers config rates).mapError .mismatch
  return some { config, settings, scorer, state }

/-- The mark of the mentions that was kept. -/
def lastMention (s : Start) : Json := (s.state.get? "last_mention_id".toList).getD .null

/-- The state of the bot at the start. -/
def bot {σ : Type} (s : Start) (source : σ) : Bot.State σ :=
  .initial s.settings s.lastMention source

end Start

/-- How many seconds pass between two runs. -/
def pause : Nat := 30

variable {σ : Type}

/-- The due tasks are done, and a heartbeat is written if there is a directory. -/
def round (s : Start) (wanted : Selection) : Run σ Unit := do
  let reports ← runDue s.settings s.config wanted
  let snapshot := (← .bot .look).snapshot
  if ← .put .directory then
    let now ← .put .clock
    .put (.beat (← .print (heartbeat now (.obj reports) (.obj snapshot.toMembers))))

/-- At most so many rounds, until the program is to stop. -/
def serve (s : Start) : Nat → Run σ Unit
  | 0 => return
  | n + 1 => do
      let _ ← (round s {}).outcome
      if ← .put (.wait pause) then return
      serve s n

/-- The bot looks for a first rule system. -/
def seedFirst (s : Start) : Run σ Unit := do
  let _ ← .bot (Bot.search s.settings)

/-- The whole program, with at most so many rounds if it goes on. -/
def daemon (s : Start) (a : Arguments) (rounds : Nat) : Run σ Unit := do
  seedFirst s
  if a.isSingle then round s a.selection else serve s rounds

end Mycelium.Scheduler
