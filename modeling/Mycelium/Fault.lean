import Mycelium.File
import Mycelium.Json.Coercion
import Mycelium.Json.Printer
import Mycelium.Program.Parser

/-!
# Faults

A fault ends an operation.  Only one kind is expected to pass by itself: that the
channel could not be reached.  All others are permanent.
-/

namespace Mycelium

/-- What kind of failure a collaborator reports. -/
inductive FailureKind where
  /-- A value it cannot work with. -/
  | value
  /-- A failure of its own. -/
  | runtime
  /-- A failure of the system it runs on. -/
  | system
  deriving DecidableEq

/-- Why an operation ended. -/
inductive Fault where
  /-- The channel could not be reached. -/
  | unreachable (message : Text)
  /-- A collaborator failed. -/
  | failed (kind : FailureKind) (message : Text)
  /-- A character reference has too many digits. -/
  | number (fault : Number.Fault)
  /-- A value cannot be taken as a number. -/
  | mismatch (m : Json.Mismatch)
  /-- There is no rule to publish. -/
  | noRule
  /-- A text holds no program. -/
  | program (e : Program.Error)
  /-- A file is refused. -/
  | file (fault : File.Fault)
  /-- A value cannot be written. -/
  | unwritten (o : Json.Obstacle)
  /-- A value of this kind stands where an object has to. -/
  | noObject (kind : Text)
  /-- The state that was kept is a value of this kind. -/
  | noState (kind : Text)
  /-- A value of this kind stands where a text has to. -/
  | noText (kind : Text)
  /-- There is no token of the bearer. -/
  | noToken
  /-- There is no scorer of this name. -/
  | unknownScorer (message : Text)
  /-- A value of this kind cannot be compared with a time. -/
  | noTime (kind : Text)
  /-- What is to be answered is a value of this kind and no message. -/
  | noMessage (kind : Text)
  /-- A message that is to be answered has no id. -/
  | noId
  /-- Nothing tells where the home directory is. -/
  | noHome
  /-- A path holds the character with the number zero. -/
  | nullCharacter
  deriving DecidableEq

namespace Fault

/-- Whether a fault is expected to pass by itself. -/
def isTransient : Fault → Bool
  | unreachable _ => true
  | _ => false

/-- What a fault says. -/
def message : Fault → Text
  | unreachable m => m
  | failed _ m => m
  | number f => f.message
  | mismatch m => m.message
  | noRule => "min() arg is an empty sequence".toList
  | program e => e.message
  | file f => f.message
  | unwritten o => o.message
  | noObject kind => ['\x27'] ++ kind ++ "' object has no attribute 'get'".toList
  | noState kind => "no state: a value of kind ".toList ++ kind
  | noText kind => "expected string or bytes-like object, got '".toList ++ kind ++ ['\x27']
  | noToken => "TWITTER_BEARER_TOKEN not set".toList
  | unknownScorer message => message
  | noTime kind => "no time: a value of kind ".toList ++ kind
  | noMessage kind => "no message: a value of kind ".toList ++ kind
  | noId => "the message has no id".toList
  | noHome => "Could not determine home directory.".toList
  | nullCharacter => "embedded null byte".toList

/-- The start of what a fault says, as it is reported. -/
def summary (f : Fault) : Text := f.message.take 200

end Fault

end Mycelium
