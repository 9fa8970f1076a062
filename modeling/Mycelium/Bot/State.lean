import Mycelium.Bot.Mark
import Mycelium.Bot.Settings
import Mycelium.Lineage
import Mycelium.Program.Fitness
import Mycelium.Scoring

/-!
# The state of a bot

All that a bot remembers is one value, and it changes in the ways that `Change`
lists and in no other.  So the state is what the changes so far made of the first one.
-/

namespace Mycelium.Bot

/-- What a bot is at. -/
inductive Phase where
  /-- It looks for a first rule system. -/
  | searching
  /-- It answers. -/
  | active
  /-- It scores its rule system. -/
  | scoring
  /-- It publishes its rule system and looks at those of others. -/
  | publishing
  /-- It breeds the next rule system. -/
  | evolving
  deriving DecidableEq

/-- The name of a phase. -/
def Phase.name : Phase → Text
  | searching => "searching".toList
  | active => "active".toList
  | scoring => "scoring".toList
  | publishing => "publishing".toList
  | evolving => "evolving".toList

/-- All that a bot remembers. -/
structure State (σ : Type) where
  /-- What it is at. -/
  phase : Phase
  /-- The rule system it answers with. -/
  current : RuleSystem
  /-- The fitness of the last scored rule system. -/
  fitness : Float
  /-- The rule systems it published, with their fitness. -/
  lineage : Lineage Scored
  /-- The interactions that were not scored in a completed cycle. -/
  log : Log
  /-- The id of the last mention it is done with. -/
  lastMention : Json
  /-- The ids of later mentions that were answered already. -/
  replied : List Text
  /-- The number of completed cycles. -/
  cycles : Nat
  /-- Whether it has had a first rule system. -/
  seeded : Bool
  /-- Whether a cycle is going on. -/
  busy : Bool
  /-- The random source. -/
  source : σ

/-- The state a bot starts in. -/
def State.initial {σ : Type} (settings : Settings) (lastMention : Json) (source : σ) : State σ where
  phase := .searching
  current := ⟨[]⟩
  fitness := 0.0
  lineage := .empty settings.historyLimit
  log := []
  lastMention := lastMention
  replied := []
  cycles := 0
  seeded := false
  busy := false
  source := source

/-- A change of the state. -/
inductive Change (σ : Type) where
  /-- A phase begins. -/
  | enter (phase : Phase)
  /-- A first rule system is adopted. -/
  | seed (system : RuleSystem)
  /-- An interaction is recorded. -/
  | record (i : Interaction)
  /-- A mention was answered while an earlier one waits. -/
  | remember (id : Text)
  /-- All mentions up to an id are done with. -/
  | advance (id : Text)
  /-- The current rule system got a fitness. -/
  | judge (fitness : Float)
  /-- A cycle is completed: what was published, the next rule system, how many
  interactions were scored, and the random source after breeding. -/
  | complete (published : Scored) (next : RuleSystem) (scored : Nat) (source : σ)
  /-- Breeding has failed, and has left the random source like this. -/
  | draw (source : σ)
  /-- A cycle starts. -/
  | start
  /-- A cycle ends, completed or not. -/
  | stop

/-- The state after a change. -/
def Change.apply {σ : Type} (s : State σ) : Change σ → State σ
  | enter phase => { s with phase }
  | seed system => { s with current := system, fitness := 0.0, seeded := true, phase := .active }
  | record i => { s with log := s.log.record i }
  | remember id => { s with replied := if id ∈ s.replied then s.replied else s.replied ++ [id] }
  | advance id =>
      { s with lastMention := .str id, replied := s.replied.filter fun m => isAfter m id }
  | judge fitness => { s with fitness }
  | complete published next scored source =>
      { s with
        lineage := s.lineage.append published
        current := next
        log := s.log.consume scored
        cycles := s.cycles + 1
        phase := .active
        source := source }
  | draw source => { s with source }
  | start => { s with busy := true }
  | stop => { s with busy := false }

/-- What a bot shows of its state. -/
structure Snapshot where
  /-- What it is at. -/
  phase : Phase
  /-- The program of the rule system it answers with. -/
  program : Text
  /-- The fitness of the last scored rule system. -/
  fitness : Float
  /-- The length of the lineage. -/
  lineage : Nat
  /-- The number of interactions in the log. -/
  interactions : Nat
  /-- The number of completed cycles. -/
  cycles : Nat
  /-- The id of the last mention it is done with. -/
  lastMention : Json

/-- What is shown of a state. -/
def State.snapshot {σ : Type} (s : State σ) : Snapshot where
  phase := s.phase
  program := s.current.program
  fitness := s.fitness
  lineage := s.lineage.items.length
  interactions := s.log.length
  cycles := s.cycles
  lastMention := s.lastMention

/-- A snapshot as an object. -/
def Snapshot.toMembers (s : Snapshot) : Members :=
  [("phase".toList, .str s.phase.name), ("program".toList, .str s.program),
    ("fitness".toList, .float s.fitness), ("history".toList, .int s.lineage),
    ("interactions".toList, .int s.interactions), ("cycles".toList, .int s.cycles),
    ("last_mention_id".toList, s.lastMention)]

end Mycelium.Bot
