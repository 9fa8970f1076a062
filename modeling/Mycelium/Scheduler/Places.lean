import Mycelium.Environment
import Mycelium.Fault
import Mycelium.Path

/-!
# Places

The files of a bot lie in one directory, which the environment may name.
-/

namespace Mycelium.Scheduler

/-- Where the files of a bot are. -/
structure Places where
  /-- The tuneables file. -/
  tuneables : Text
  /-- The credentials file. -/
  credentials : Text
  /-- The directory of the files that a scheduler writes. -/
  directory : Text
  /-- The state file. -/
  state : Text
  /-- The heartbeat file. -/
  heartbeat : Text

namespace Places

/-- The variable that names the directory. -/
def homeVariable : Text := "FUNGI_HOME".toList

/-- The variable that names the credentials file. -/
def credentialsVariable : Text := "FUNGI_ENV_FILE".toList

/-- The directory that an environment gives. -/
def baseOf (env : Environment) : Except Fault Text :=
  match env.given? homeVariable, env.home? with
  | some path, _ => .ok (Path.normal path)
  | none, some home => .ok (Path.within home ".fungi".toList)
  | none, none => .error .noHome

/-- The places in a directory.  The environment may name another credentials file. -/
def within (base : Text) (env : Environment) : Places :=
  let directory := Path.within base "scheduler".toList
  { tuneables := Path.within base "tuneables.json".toList
    credentials := Path.normal
      ((env.given? credentialsVariable).getD (Path.within base ".env".toList))
    directory
    state := Path.within directory "state.json".toList
    heartbeat := Path.within directory "heartbeat.json".toList }

/-- The places that an environment gives. -/
def ofEnvironment (env : Environment) : Except Fault Places :=
  (baseOf env).map fun base => within base env

end Places

end Mycelium.Scheduler
