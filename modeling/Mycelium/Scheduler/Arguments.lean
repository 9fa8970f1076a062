import Mycelium.Scheduler.Task

/-!
# Arguments

The scheduler is called with four options.  Their names may be cut short as long as
one option alone starts so, and the value of an option may follow it after an equals
sign.  The arguments are read from left to right; the first one that asks for help or
is misused ends the reading.  Arguments that are no options are a misuse too, but
that is found last.  All arguments after two dashes are no options.
-/

namespace Mycelium.Scheduler

/-- What the arguments ask for. -/
structure Arguments where
  /-- Whether the due tasks are done once and not again and again. -/
  once : Bool := false
  /-- The only task that is done. -/
  task : Option Task := none
  /-- Whether tasks are done that are switched off or not due. -/
  force : Bool := false
  deriving DecidableEq

namespace Arguments

/-- Why arguments ask for nothing. -/
inductive Ending where
  /-- They ask for help. -/
  | help
  /-- They are misused. -/
  | misused
  deriving DecidableEq

/-- The exit code of an ending. -/
def Ending.code : Ending → Nat
  | help => 0
  | misused => 2

/-- An option. -/
inductive Switch where
  /-- Help is asked for. -/
  | help
  /-- The due tasks are done once. -/
  | once
  /-- Only one task is done. -/
  | task
  /-- Tasks are done that are switched off or not due. -/
  | force
  deriving DecidableEq

/-- The names of the options. -/
def names : List (Text × Switch) :=
  [("--help".toList, .help), ("--once".toList, .once), ("--task".toList, .task),
    ("--force".toList, .force)]

/-- What an argument is. -/
inductive Token where
  /-- An option and the value after its equals sign. -/
  | long (s : Switch) (value : Option Text)
  /-- The letter for help and what follows it. -/
  | short (rest : Text)
  /-- The start of the names of several options. -/
  | ambiguous
  /-- No option. -/
  | other
  deriving DecidableEq

/-- The name and the value of an argument. -/
def named (arg : Text) : Text × Option Text :=
  match Text.cut ['='] arg with
  | some (name, value) => (name, some value)
  | none => (arg, none)

/-- The option with a name that is cut short. -/
def abbreviated (name : Text) (value : Option Text) : Token :=
  match names.filter fun n => name.isPrefixOf n.1 with
  | [] => .other
  | [n] => .long n.2 value
  | _ => .ambiguous

/-- What an argument is that does not follow two dashes. -/
def token (arg : Text) : Token :=
  match arg with
  | '-' :: '-' :: _ => abbreviated (named arg).1 (named arg).2
  | '-' :: 'h' :: rest => .short rest
  | _ => .other

/-- What the letter for help leads to with what follows it.  It may be repeated, also
after an equals sign; everything else is a misuse. -/
def shortEnding (rest : Text) : Ending :=
  let letters := if rest.head? = some '=' then rest.drop 1 else rest
  if rest = [] || (letters ≠ [] && letters.all (· == 'h')) then .help else .misused

/-- The task of a name. -/
def taskNamed? (name : Text) : Option Task := Task.all.find? fun t => t.name = name

/-- What arguments ask for beyond what was asked for already.  `strange` tells whether
there was an argument that is no option. -/
def readAll (strange : Bool) (a : Arguments) : List Text → Except Ending Arguments
  | [] => if strange then .error .misused else .ok a
  | arg :: rest =>
      if arg = ['-', '-'] then .error .misused
      else
        match token arg with
        | .long .help none => .error .help
        | .short rest => .error (shortEnding rest)
        | .long .once none => readAll strange { a with once := true } rest
        | .long .force none => readAll strange { a with force := true } rest
        | .long .task (some name) =>
            match taskNamed? name with
            | some t => readAll strange { a with task := some t } rest
            | none => .error .misused
        | .long .task none =>
            match rest with
            | name :: rest =>
                match taskNamed? name with
                | some t => readAll strange { a with task := some t } rest
                | none => .error .misused
            | [] => .error .misused
        | .other => readAll true a rest
        | _ => .error .misused

/-- What arguments ask for. -/
def parse (args : List Text) : Except Ending Arguments :=
  if (args.takeWhile (· != ['-', '-'])).any fun arg => token arg = .ambiguous then .error .misused
  else readAll false {} args

/-- The tasks that are wanted in a single run. -/
def selection (a : Arguments) : Selection where
  only := a.task.map Task.name
  force := a.force || a.task.isSome

/-- Whether there is a single run. -/
def isSingle (a : Arguments) : Bool := a.once || a.task.isSome

end Arguments

end Mycelium.Scheduler
