import Mycelium.Bot.Message
import Mycelium.Bot.State
import Mycelium.Dialogue

/-!
# Sessions

What a bot does is a dialogue in which it looks at its state, changes it, and
turns to the channel, to the scorer and to the engine that breeds.  While one of these
collaborators is asked, other operations of the same bot may run and change its state; between two
such questions nothing else happens.

A session may end with a fault.
-/

namespace Mycelium.Bot

/-- What a bot asks. -/
inductive Prompt (σ : Type) where
  /-- What is the state? -/
  | look
  /-- The state is changed. -/
  | change (c : Change σ)
  /-- What was posted lately under a hashtag? -/
  | candidates (tag : Text) (limit : Int)
  /-- Which mentions are newer than a mark? -/
  | mentions (since : Json)
  /-- A message is published. -/
  | publish (message : Text)
  /-- A mention is answered. -/
  | reply (text : Text) (mention : Mention)
  /-- Which fitness has a rule system that gave these answers? -/
  | score (system : RuleSystem) (log : Log)
  /-- Which rule system is bred from the one that was published, from the lineage and from those
  of others? -/
  | breed (published : Scored) (lineage others : List Scored) (source : σ)

/-- What a bot gets as an answer.  A message that cannot be read is the fault that it
leads to.  The engine gives the random source back, also when it fails. -/
abbrev Prompt.Answer {σ : Type} : Prompt σ → Type
  | look => State σ
  | change _ => Unit
  | candidates _ _ => Except Fault (List (Except Fault Post))
  | mentions _ => Except Fault (List (Except Fault Mention))
  | publish _ => Except Fault Unit
  | reply _ _ => Except Fault Unit
  | score _ _ => Except Fault Float
  | breed _ _ _ _ => Except Fault RuleSystem × σ

/-- A dialogue of a bot that may end with a fault. -/
abbrev Session (σ α : Type) := ExceptT Fault (Dialogue (Prompt σ) Prompt.Answer) α

namespace Session

variable {σ : Type}

/-- The state. -/
def look : Session σ (State σ) := ExceptT.lift (Dialogue.put Prompt.look)

/-- The state is changed. -/
def change (c : Change σ) : Session σ Unit := ExceptT.lift (Dialogue.put (Prompt.change c))

/-- What was posted lately under a hashtag. -/
def candidates (tag : Text) (limit : Int) : Session σ (List (Except Fault Post)) :=
  ExceptT.mk (Dialogue.put (Prompt.candidates tag limit))

/-- The mentions that are newer than a mark. -/
def mentions (since : Json) : Session σ (List (Except Fault Mention)) :=
  ExceptT.mk (Dialogue.put (Prompt.mentions since))

/-- A message is published. -/
def publish (message : Text) : Session σ Unit :=
  ExceptT.mk (Dialogue.put (Prompt.publish message))

/-- A mention is answered. -/
def reply (text : Text) (mention : Mention) : Session σ Unit :=
  ExceptT.mk (Dialogue.put (Prompt.reply text mention))

/-- The fitness of a rule system that gave the answers of a log. -/
def score (system : RuleSystem) (log : Log) : Session σ Float :=
  ExceptT.mk (Dialogue.put (Prompt.score system log))

/-- What comes of breeding, and the random source after it. -/
def breed (published : Scored) (lineage others : List Scored) (source : σ) :
    Session σ (Except Fault RuleSystem × σ) :=
  ExceptT.lift (Dialogue.put (Prompt.breed published lineage others source))

/-- A session that goes on with its outcome, fault or not. -/
def outcome {α : Type} (s : Session σ α) : Session σ (Except Fault α) :=
  ExceptT.lift s.run

/-- An outcome as a session. -/
def ofOutcome {α : Type} (r : Except Fault α) : Session σ α := ExceptT.mk (pure r)

end Session

end Mycelium.Bot
