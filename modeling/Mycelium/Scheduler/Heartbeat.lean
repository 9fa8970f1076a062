import Mycelium.Fault
import Mycelium.File

/-!
# The heartbeat

After every run a scheduler writes the time, the reports of the run, and what the
bot shows of its state.  A watchdog reads how old that file is.  A file without a
time above zero has no age, nor has one that cannot be read, unless a value stands too
deep in it; the age of a time that lies ahead is zero.
-/

namespace Mycelium.Scheduler

/-- A heartbeat.  What counts as false is no snapshot. -/
def heartbeat (now : Float) (reports snapshot : Json) : Json :=
  .obj [("ts".toList, .float now), ("stats".toList, reports),
    ("fungi".toList, snapshot.orElse (.obj []))]

/-- The age of a time. -/
def ageOf (ts now : Float) : Option Float :=
  if ts ≤ 0.0 then none
  else
    let age := now - ts
    some (if 0.0 < age then age else 0.0)

/-- The age of the heartbeat that a value is. -/
def ageOfValue (v : Json) (now : Float) : Except Fault (Option Float) :=
  match v with
  | .obj ms =>
      match ((Entries.get? ms "ts".toList).getD (.int 0)).toFloat with
      | .ok ts => .ok (ageOf ts now)
      | .error .tooLarge => .error (.mismatch .tooLarge)
      | .error _ => .ok none
  | v => .error (.noObject v.kindName)

/-- The age of the heartbeat in a file. -/
def heartbeatAge (file : File) (now : Float) : Except Fault (Option Float) :=
  match file.json? with
  | .ok (some v) => ageOfValue v now
  | .error (.tooDeep kind) => .error (.file (.tooDeep kind))
  | _ => .ok none

end Mycelium.Scheduler
