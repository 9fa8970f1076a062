import Mycelium.Fault

/-!
# Tasks

A bot has two tasks, a cycle of breeding and the answering of mentions.  Each is
switched on by the configuration and is due again when an interval has passed since
it was done.

The interval and the time at which a task was done come from files and may be any
values.  Numbers of all kinds are compared exactly, and a value that is no number is
refused.
-/

namespace Mycelium.Scheduler

/-- What is done again and again. -/
inductive Task where
  /-- A cycle. -/
  | lifecycle
  /-- The mentions are answered. -/
  | answering
  deriving DecidableEq

namespace Task

/-- All tasks, in the order in which they are done. -/
def all : List Task := [lifecycle, answering]

/-- The name of a task. -/
def name : Task → Text
  | lifecycle => "lifecycle".toList
  | answering => "answer_mentions".toList

/-- The name under which the configuration switches a task on. -/
def enabledKey : Task → Text
  | lifecycle => "lifecycle_enabled".toList
  | answering => "answer_enabled".toList

/-- The name under which the configuration gives the interval of a task. -/
def intervalKey : Task → Text
  | lifecycle => "lifecycle_interval".toList
  | answering => "answer_interval".toList

/-- The name under which the time is kept at which a task was done. -/
def lastRunKey (t : Task) : Text := "last_run_".toList ++ t.name

/-- The name under which the last outcome of a task is kept. -/
def lastResultKey (t : Task) : Text := "last_result_".toList ++ t.name

/-- The interval of a task for which there is none in the configuration. -/
def usualInterval : Json := .int 600

/-- Whether a configuration switches a task on. -/
def isEnabled (t : Task) (config : Members) : Bool :=
  ((config.get? t.enabledKey).getD (.bool true)).holds

/-- The interval that a configuration gives. -/
def interval (t : Task) (config : Members) : Json :=
  (config.get? t.intervalKey).getD usualInterval

/-- The time at which a task was done, as it was kept. -/
def lastRun (t : Task) (state : Members) : Json := (state.get? t.lastRunKey).getD (.float 0.0)

end Task

/-- A value that is a number. -/
def number? : Json → Except Fault Json
  | .bool b => .ok (.bool b)
  | .int n => .ok (.int n)
  | .float x => .ok (.float x)
  | v => .error (.noTime v.kindName)

/-- How much time has passed since a time that was kept. -/
def elapsed (now : Float) (last : Json) : Except Fault Float := do
  match (← number? last).toFloat with
  | .ok x => return now - x
  | .error e => throw (.mismatch e)

/-- Whether a time is shorter than an interval. -/
def isShorter (time : Float) (interval : Json) : Except Fault Bool := do
  match ← number? interval with
  | .int n => return Binary64.isBelowInt time n
  | .bool b => return Binary64.isBelowInt time (if b then 1 else 0)
  | .float x => return time < x
  | _ => return false

/-- Whether it is too early to do a task again. -/
def isEarly (t : Task) (config state : Members) (now : Float) : Except Fault Bool := do
  isShorter (← elapsed now (t.lastRun state)) (t.interval config)

/-- Which tasks are wanted. -/
structure Selection where
  /-- The name of the only task that is wanted. -/
  only : Option Text := none
  /-- Whether tasks are done that are switched off or not due. -/
  force : Bool := false

/-- Whether a task is wanted.  An empty name names no task and excludes none. -/
def Selection.wants (s : Selection) (t : Task) : Bool :=
  match s.only with
  | none | some [] => true
  | some name => t.name == name

/-- Whether a task is to be done. -/
def Selection.isDue (s : Selection) (t : Task) (config state : Members) (now : Float) :
    Except Fault Bool :=
  if !s.wants t then .ok false
  else if s.force then .ok true
  else if !t.isEnabled config then .ok false
  else (isEarly t config state now).map (!·)

/-- A task that is wanted and forced is due whatever the configuration and the state. -/
theorem Selection.isDue_of_force {s : Selection} {t : Task} (hw : s.wants t = true)
    (hf : s.force = true) (config state : Members) (now : Float) :
    s.isDue t config state now = .ok true := by
  simp [isDue, hw, hf]

/-- A task that is not wanted is not due. -/
theorem Selection.isDue_of_unwanted {s : Selection} {t : Task} (hw : s.wants t = false)
    (config state : Members) (now : Float) : s.isDue t config state now = .ok false := by
  simp [isDue, hw]

end Mycelium.Scheduler
