import Mycelium.Bot.Cycle
import Mycelium.Scheduler.Task

/-!
# Runs of the due tasks

A run does the tasks that are due, one after the other, and keeps what it knows in a
state that outlives the program: when each task was done, with which outcome, how
many cycles were completed, and the mark of the mentions.

* A task that fails does not stop the next one.  What was kept of its last success
  stays, and only its outcome changes.
* If the times of a task cannot be compared, the run ends there and nothing is saved.
* Nothing is saved without a directory either, which is no fault.  It is one if the state
  cannot be written.
-/

namespace Mycelium.Scheduler

/-- What a run asks. -/
inductive Prompt (σ : Type) where
  /-- A question of the bot. -/
  | bot (q : Bot.Prompt σ)
  /-- What time is it? -/
  | clock
  /-- The directory of the files is made if there is none.  Is there one now? -/
  | directory
  /-- A text is written as the state. -/
  | save (text : Text)
  /-- A text is written as a sign of life. -/
  | beat (text : Text)
  /-- Some seconds pass.  Is the program to stop? -/
  | wait (seconds : Nat)

/-- What a run gets as an answer. -/
abbrev Prompt.Answer {σ : Type} : Prompt σ → Type
  | bot q => q.Answer
  | clock => Float
  | directory => Bool
  | save _ => Unit
  | beat _ => Unit
  | wait _ => Bool

/-- A dialogue of a scheduler that changes its state and may end with a fault.  The
changes up to the fault stay. -/
abbrev Run (σ α : Type) := ExceptT Fault (StateT Members (Dialogue (Prompt σ) Prompt.Answer)) α

namespace Run

variable {σ α : Type}

/-- One question. -/
def put (q : Prompt σ) : Run σ q.Answer :=
  ExceptT.lift (StateT.lift (Dialogue.put (A := Prompt.Answer) q))

/-- A session of the bot. -/
def bot (s : Bot.Session σ α) : Run σ α :=
  ExceptT.mk (StateT.lift
    (s.run.conduct fun q => Dialogue.put (A := Prompt.Answer) (Prompt.bot q)))

/-- A run that goes on with its outcome, fault or not. -/
def outcome (r : Run σ α) : Run σ (Except Fault α) := ExceptT.lift r.run

/-- An outcome as a run. -/
def ofOutcome (r : Except Fault α) : Run σ α := ExceptT.mk (pure r)

/-- The text of a value. -/
def print (v : Json) : Run σ Text := ofOutcome (v.print.mapError .unwritten)

/-- A value is kept under a name. -/
def keep (name : Text) (v : Json) : Run σ Unit := modify fun state => state.put name v

end Run

variable {σ : Type}

/-- A task is done: what it reports.  What it achieved is kept. -/
def perform (settings : Bot.Settings) : Task → Run σ Members
  | .lifecycle => do
      let report ← .bot (Bot.cycle settings)
      .keep "cycles".toList (.int (← .bot .look).cycles)
      return report.toMembers
  | .answering => do
      let tally ← .bot Bot.answerMentions
      let mark := (← .bot .look).lastMention
      if mark.holds then .keep "last_mention_id".toList mark
      return tally.toMembers

/-- A task is done, and its outcome is kept. -/
def attempt (settings : Bot.Settings) (t : Task) : Run σ Members := do
  match ← (perform settings t).outcome with
  | .ok report =>
      .keep t.lastRunKey (.float (← .put .clock))
      .keep t.lastResultKey (.str "ok".toList)
      return report
  | .error f =>
      .keep t.lastResultKey (.str ("error: ".toList ++ f.summary))
      return [("error".toList, .str f.summary)]

/-- The due ones of some tasks are done: their reports, by their names. -/
def attemptDue (settings : Bot.Settings) (config : Members) (wanted : Selection) (now : Float) :
    List Task → Run σ Members
  | [] => return []
  | t :: ts => do
      if ← .ofOutcome (wanted.isDue t config (← get) now) then
        let report ← attempt settings t
        return (t.name, .obj report) :: (← attemptDue settings config wanted now ts)
      else attemptDue settings config wanted now ts

/-- The state is saved if there is a directory. -/
def saveState : Run σ Unit := do
  if ← .put .directory then .put (.save (← .print (.obj (← get))))

/-- All due tasks are done, and the state is saved. -/
def runDue (settings : Bot.Settings) (config : Members) (wanted : Selection) : Run σ Members := do
  let now ← .put .clock
  let reports ← attemptDue settings config wanted now Task.all
  saveState
  return reports

end Mycelium.Scheduler
