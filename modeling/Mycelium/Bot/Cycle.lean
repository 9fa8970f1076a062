import Mycelium.Bot.Answering
import Mycelium.Breeding.Evolution

/-!
# Cycles

In a cycle the current rule system is scored by the interactions of the log, is
published, and gives way to one that is bred from it, from the lineage, and from
what others published.

* The log is handed to the scorer as it is at the start of the cycle, and only
  those interactions leave it when the cycle is completed.
* What is published goes into the lineage, with rules dropped so that the message
  fits.
* If the channel cannot be reached, the cycle is given up.
* The next rule system comes from an engine that is asked for it.  A fault of it ends the
  cycle, and so does one of the scorer.
* While a cycle goes on no other one starts.

A bot has an engine of its own, which does not fail (`ownEngine`).
-/

namespace Mycelium.Bot

variable {σ : Type}

/-- What others published, among posts of which one may be the bot's own. -/
def observations (own : Text) : List (Except Fault Post) → Session σ (List Scored)
  | [] => pure []
  | p :: ps => do
      let text ← decoded (← .ofOutcome p).content
      if !own.isEmpty && Text.strip text == Text.strip own then observations own ps
      else
        match Program.observation? .usual text with
        | some x => return x :: (← observations own ps)
        | none => observations own ps

/-- What others published lately under the hashtag. -/
def scrape (settings : Settings) (own : Text) : Session σ (List Scored) := do
  observations own (← .candidates settings.hashtag settings.candidateLimit)

/-- How a cycle went. -/
inductive Report where
  /-- Another cycle was going on. -/
  | busy
  /-- The channel could not be reached. -/
  | deferred (error : Text)
  /-- The cycle was completed: its number, the fitness, how many interactions were
  scored, how many systems of others were found, and the size of the next one. -/
  | completed (cycle : Nat) (fitness : Float) (interactions others rules : Nat)

/-- A report as an object. -/
def Report.toMembers : Report → Members
  | busy => [("skipped".toList, .str "busy".toList)]
  | deferred e => [("deferred".toList, .str Phase.publishing.name), ("error".toList, .str e)]
  | completed cycle fitness interactions others rules =>
      [("cycle".toList, .int cycle), ("fitness".toList, .float fitness),
        ("interactions".toList, .int interactions), ("mycelial".toList, .int others),
        ("rules".toList, .int rules)]

/-- A cycle of which it is known that no other one goes on. -/
def cycleAlone (settings : Settings) : Session σ Report := do
  let before ← .look
  .change (.enter .scoring)
  let fitness ← .score before.current before.log
  .change (.judge fitness)
  .change (.enter .publishing)
  let some p :=
      Publication.forChannel? before.current fitness settings.hashtag settings.messageLimit
    | throw .noRule
  let others ← Session.outcome do
    .publish p.message
    scrape settings p.message
  match others with
  | .error f =>
      if f.isTransient then
        .change (.enter .active)
        return .deferred f.summary
      else throw f
  | .ok others =>
      .change (.enter .evolving)
      let now ← .look
      let published : Scored := ⟨p.system, fitness⟩
      match ← .breed published now.lineage.items others now.source with
      | (.error f, source) =>
          .change (.draw source)
          throw f
      | (.ok next, source) =>
          .change (.complete published next before.log.length source)
          let cycles := (← .look).cycles
          return .completed cycles fitness before.log.length others.length next.size

/-- A cycle, unless another one goes on.  A bot without a rule system looks for one
first. -/
def cycle (settings : Settings) : Session σ Report := do
  if (← .look).busy then return .busy
  .change .start
  let result ← Session.outcome do
    if !(← .look).seeded then
      let _ ← search settings
    cycleAlone settings
  .change .stop
  .ofOutcome result

/-- What the engine of a bot's own answers. -/
def ownEngine [RandomSource σ] (rates : Rates) (published : Scored) (lineage others : List Scored)
    (source : σ) : Except Fault RuleSystem × σ :=
  let (next, source) := (Breeding.evolved rates published lineage others).run source
  (.ok next, source)

end Mycelium.Bot
