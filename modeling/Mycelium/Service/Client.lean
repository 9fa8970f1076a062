import Mycelium.Dialogue
import Mycelium.Fault
import Mycelium.Service.Request

/-!
# The client

A client passes requests on to the service.  Once the service says that it was asked
too often, the client passes nothing on for 900 seconds, and everything that needs
the service is unreachable.

* `isBackedOff_limited`: from the moment of that answer until 900 seconds later the
  client passes nothing on.
* Whatever else a request leads to leaves that time as it is.
-/

namespace Mycelium

namespace Service

/-- What a client asks. -/
inductive Prompt where
  /-- What time is it? -/
  | clock
  /-- A request to the service. -/
  | call (r : Request)

/-- What a client gets as an answer. -/
abbrev Prompt.Answer : Prompt → Type
  | clock => Float
  | call r => Except Failure r.Reply

/-- What a client remembers. -/
structure Client where
  /-- The account of the bot, once it is known. -/
  account : Option Account := none
  /-- Until when nothing is passed on. -/
  backoffUntil : Float := 0.0

/-- A dialogue of a client that changes what it remembers and may end with a fault. -/
abbrev Session (α : Type) := ExceptT Fault (StateT Client (Dialogue Prompt Prompt.Answer)) α

namespace Session

/-- The time. -/
def clock : Session Float :=
  ExceptT.lift (StateT.lift (Dialogue.put (A := Prompt.Answer) Prompt.clock))

/-- A request, whatever it leads to. -/
def ask (r : Request) : Session (Except Failure r.Reply) :=
  ExceptT.lift (StateT.lift (Dialogue.put (A := Prompt.Answer) (Prompt.call r)))

end Session

/-- How many seconds nothing is passed on. -/
def backoffSeconds : Float := 900.0

/-- Whether nothing is passed on at a time. -/
def Client.isBackedOff (c : Client) (now : Float) : Bool :=
  0.0 < c.backoffUntil && now < c.backoffUntil

/-- The client after the answer that it asked too often. -/
def Client.limited (c : Client) (now : Float) : Client :=
  { c with backoffUntil := now + backoffSeconds }

/-- Whether nothing is passed on now. -/
def isBackedOff : Session Bool := do return (← get).isBackedOff (← .clock)

/-- A request is passed on. -/
def call (r : Request) : Session r.Reply := do
  if ← isBackedOff then
    throw (.unreachable (r.method ++ ": rate limit backoff active".toList))
  match ← .ask r with
  | .ok reply => return reply
  | .error .limited =>
      let now ← .clock
      modify (·.limited now)
      throw (.unreachable (r.method ++ ": rate limited".toList))
  | .error (.failed message) =>
      throw (.unreachable (r.method ++ " failed: ".toList ++ message))
  | .error (.refused message) => throw (.failed .value message)

/-- Between the answer that it asked too often and the end of the pause a client
passes nothing on, if that end is a time above zero. -/
theorem Client.isBackedOff_limited (c : Client) {now later : Float}
    (h : 0.0 < now + backoffSeconds) (hl : later < now + backoffSeconds) :
    (c.limited now).isBackedOff later = true := by
  simp only [Client.limited, Client.isBackedOff, Bool.and_eq_true]
  exact ⟨decide_eq_true h, decide_eq_true hl⟩

end Service

end Mycelium
