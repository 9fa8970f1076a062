import Mycelium.Environment
import Mycelium.Fault
import Mycelium.Path

/-!
# The journal

The components of a bot write records, each with a level, under the name of a
logger.  All loggers of the bot are below one.

* A component that is set up gets a file and perhaps the console.  A component that
  was set up already, or whose file cannot be opened, gets nothing.
* The name of a component may lead out of the directory, so that two components may
  write to one file.  The file is opened if its directory is there.
* A record of a logger of the bot goes to every file, once for each component that
  writes to it, and to the console, unless its level is below the one that was set up
  last.

`record_of_low` says that a record below the level changes nothing.
-/

namespace Mycelium

/-- How serious a record is. -/
inductive Level where
  /-- Of interest while a fault is looked for. -/
  | debug
  /-- Of interest. -/
  | info
  /-- Unexpected. -/
  | warning
  /-- A failure. -/
  | error
  /-- A failure that ends the program. -/
  | critical
  deriving DecidableEq

namespace Level

/-- The rank of a level. -/
def rank : Level → Nat
  | debug => 1
  | info => 2
  | warning => 3
  | error => 4
  | critical => 5

/-- The name of a level. -/
def name : Level → Text
  | debug => "DEBUG".toList
  | info => "INFO".toList
  | warning => "WARNING".toList
  | error => "ERROR".toList
  | critical => "CRITICAL".toList

end Level

namespace Journal

/-- How the environment sets the journal up. -/
structure Options where
  /-- Whether records of the lowest level are kept. -/
  debug : Bool
  /-- Whether records go to the console too. -/
  tee : Bool
  /-- The directory of the files. -/
  directory : Text

/-- The directory of the files. -/
def directoryOf (env : Environment) : Except Fault Text :=
  match env.given? "FUNGI_LOG_DIR".toList, env.home? with
  | some path, _ => .ok (Path.normal path)
  | none, some home => .ok (Path.within home ".fungi/logs".toList)
  | none, none => .error .noHome

/-- The options that an environment gives. -/
def Options.ofEnvironment (env : Environment) : Except Fault Options :=
  (directoryOf env).map fun directory =>
    { debug := Environment.isOn ((env.get? "FUNGI_DEBUG".toList).getD [])
      tee := Environment.isOn ((env.get? "FUNGI_LOG_TEE".toList).getD "1".toList)
      directory }

/-- The level that is set up. -/
def Options.level (o : Options) : Level := if o.debug then .debug else .info

/-- Where records go. -/
inductive Sink where
  /-- Into the file at a path. -/
  | file (path : Text)
  /-- To the console. -/
  | console
  deriving DecidableEq

end Journal

/-- Where the records of a bot go, and what the files hold. -/
structure Journal where
  /-- The least level of a record that is kept, once one was set up. -/
  level : Option Level
  /-- Where records go, in the order in which it was set up. -/
  sinks : List Journal.Sink
  /-- The path of each component that was set up. -/
  paths : Entries Text
  /-- The records in each file that was opened, each without its time. -/
  files : Entries (List Text)

namespace Journal

/-- A journal in which nothing was set up. -/
def empty : Journal := ⟨none, [], [], []⟩

/-- The name of the file of a component. -/
def fileName (component : Text) : Text := component ++ ".log".toList

/-- The most bytes that the name of a file may have. -/
def longestName : Nat := 255

/-- Whether a file can be made at a settled path, given a directory that is there.
Directories that are there are that one and those above it. -/
def canHold (directory file : Text) : Bool :=
  let place := (Path.parts file).dropLast
  let name := (Path.parts file).getLast?.getD []
  (place.isPrefixOf (Path.settledParts directory) || place.all (· == Path.above)) &&
    (Text.toUtf8 name).size ≤ longestName

/-- The file that is opened at a path, if it can be opened.  No path holds the character
with the number zero. -/
def open? (directory path : Text) : Except Fault (Option Text) :=
  let file := Path.settled path
  if file.contains '\x00' then .error .nullCharacter
  else if canHold directory file then .ok (some file)
  else .ok none

/-- The journal after a component with a path got a file. -/
def attach (o : Options) (component path file : Text) (j : Journal) : Journal where
  level := some o.level
  sinks := j.sinks ++ .file file :: (if o.tee then [.console] else [])
  paths := j.paths.put component path
  files := j.files.put file ((j.files.get? file).getD [])

/-- The path of the file of a component, if it has one, and the journal after the
component was set up.  `available` tells whether the directory can be made. -/
def setUp (o : Options) (available : Bool) (component : Text) (j : Journal) :
    Except Fault (Option Text × Journal) := do
  if let some path := j.paths.get? component then return (some path, j)
  if !available then return (none, j)
  let path := Path.within o.directory (fileName component)
  match ← open? o.directory path with
  | some file => return (some path, j.attach o component path file)
  | none => return (none, j)

/-- The logger of the bot. -/
def rootLogger : Text := "fungi".toList

/-- The logger of a component. -/
def loggerOf (component : Text) : Text := rootLogger ++ ['.'] ++ component

/-- Whether a logger belongs to the bot. -/
def isOurs (logger : Text) : Bool :=
  logger == rootLogger || (rootLogger ++ ['.']).isPrefixOf logger

/-- Whether a record is kept. -/
def keeps (j : Journal) (logger : Text) (level : Level) : Bool :=
  match j.level with
  | some least => isOurs logger && least.rank ≤ level.rank
  | none => false

/-- The text of a record, without its time. -/
def line (logger : Text) (level : Level) (message : Text) : Text :=
  level.name ++ [' '] ++ logger ++ [':', ' '] ++ message

/-- The journal after a record. -/
def record (logger : Text) (level : Level) (message : Text) (j : Journal) : Journal :=
  if j.keeps logger level then
    { j with files := j.files.map fun f =>
        (f.1, f.2 ++ List.replicate (j.sinks.count (.file f.1)) (line logger level message)) }
  else j

/-- The line that names a failure: its kind, and what it says unless that is nothing. -/
def failureLine (kind failure : Text) : Text :=
  if failure.isEmpty then kind else kind ++ [':', ' '] ++ failure

/-- The journal after the failure of a component, which a second line names. -/
def recordFailure (component message kind failure : Text) (j : Journal) : Journal :=
  j.record (loggerOf component) .error
    (message ++ [':', ' '] ++ failure ++ ['\n'] ++ failureLine kind failure)

/-- A component that was set up is not set up again. -/
theorem setUp_of_get? {o : Options} {available : Bool} {component path : Text} {j : Journal}
    (h : j.paths.get? component = some path) :
    j.setUp o available component = .ok (some path, j) := by
  simp [setUp, h, pure, Except.pure]

/-- A record below the level changes nothing. -/
theorem record_of_low {j : Journal} {logger message : Text} {least level : Level}
    (h : j.level = some least) (hl : level.rank < least.rank) :
    j.record logger level message = j := by
  have : j.keeps logger level = false := by
    simp [keeps, h]
    omega
  simp [record, this]

end Journal

end Mycelium
