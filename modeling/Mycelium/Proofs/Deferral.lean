import Mycelium.Proofs.Accounts
import Mycelium.Proofs.Exclusion

/-!
# Deferred cycles

A cycle in which the channel cannot be reached is given up, be it when the message is to be
published or when the posts are to be looked at.  It leaves the state as it was but for the
score, which the current rule system has got before (`Reaches.defers`).
-/

namespace Mycelium.Bot

open Session

variable {σ : Type} [RandomSource σ] {surroundings : Surroundings σ} {c : Nat} {w : World σ}

/-! ## Cycles that are given up -/

/-- The channel cannot be reached: either no message can be published, or the posts cannot be
looked at after that. -/
def Surroundings.IsDown (surroundings : Surroundings σ) (c : Nat) : Prop :=
  ∀ h message, ∃ f : Fault, f.isTransient = true ∧
    (surroundings.publish h message = .error f ∨
      surroundings.publish h message = .ok () ∧
        (surroundings.candidates (.answered c (.publish message) (.ok ()) :: h)).bind
          (given message) = .error f)

/-- What is given up has left the state as it was. -/
structure GivesUp {α : Type} (s : State σ) (r : Except Fault α) (w : World σ) : Prop where
  fault : ∃ f, f.isTransient = true ∧ r = .error f
  state : w.state = s

theorem yields_scrape {settings : Settings} {own : Text} {f : Fault}
    (transient : f.isTransient = true)
    (unseen : (surroundings.candidates w.history).bind (given own) = .error f) :
    Yields surroundings c (scrape settings own) (GivesUp w.state) w := by
  rw [scrape, yields_bind, yields_candidates]
  cases hposts : surroundings.candidates w.history with
  | error g =>
      rw [hposts] at unseen
      exact ⟨⟨f, transient, by cases unseen; rfl⟩, rfl⟩
  | ok ps =>
      rw [hposts] at unseen
      dsimp only
      rw [observations_eq, show given own ps = .error f from unseen]
      exact ⟨⟨f, transient, rfl⟩, rfl⟩

theorem Surroundings.IsDown.yields_exchange (down : surroundings.IsDown c) (settings : Settings)
    (message : Text) (w : World σ) :
    Yields surroundings c (do
      Session.publish message
      scrape settings message) (GivesUp w.state) w := by
  rw [yields_bind, yields_publish]
  obtain ⟨f, transient, unpublished | ⟨published, unseen⟩⟩ := down w.history message
  · rw [unpublished]
    exact ⟨⟨f, transient, rfl⟩, rfl⟩
  · rw [published]
    exact yields_scrape (w := w.after (.answered c (.publish message) (.ok ()))) transient unseen

variable {settings : Settings} {fitness : Float}

/-- The report of a cycle that is given up, and the state that it leaves. -/
def Defers (s : State σ) (r : Except Fault Report) (w : World σ) : Prop :=
  (∃ f : Fault, f.isTransient = true ∧ r = .ok (.deferred f.summary)) ∧ w.state = s

theorem yields_cycleAlone (rules : w.state.current.rules ≠ [])
    (scored : ∀ h, surroundings.score h w.state.log = .ok fitness) (down : surroundings.IsDown c) :
    Yields surroundings c (cycleAlone settings)
      (Defers { w.state with phase := .active, fitness := fitness }) w := by
  obtain ⟨p, hp, -⟩ := Publication.exists_forChannel rules fitness settings.hashtag
    settings.messageLimit
  refine yields_bind.2 (yields_look.2 (yields_bind.2 (yields_change.2 (yields_bind.2 ?_))))
  rw [yields_score, scored]
  refine yields_bind.2 (yields_change.2 (yields_bind.2 (yields_change.2 ?_)))
  rw [hp]
  refine yields_bind.2 (yields_outcome.2 ((down.yields_exchange settings p.message _).mono ?_))
  intro r w' givesUp
  obtain ⟨f, transient, rfl⟩ := givesUp.fault
  dsimp only
  rw [if_pos transient]
  refine yields_bind.2 (yields_change.2 ⟨⟨f, transient, rfl⟩, ?_⟩)
  show { w'.state with phase := .active } = _
  rw [givesUp.state]
  rfl

theorem yields_cycle (idle : w.state.busy = false) (seeded : w.state.seeded = true)
    (rules : w.state.current.rules ≠ [])
    (scored : ∀ h, surroundings.score h w.state.log = .ok fitness) (down : surroundings.IsDown c) :
    Yields surroundings c (cycle settings)
      (Defers { w.state with phase := .active, fitness := fitness }) w := by
  refine yields_bind.2 (yields_look.2 ?_)
  dsimp only
  rw [idle]
  refine yields_bind.2 (yields_change.2 (yields_bind.2 (yields_outcome.2 (yields_bind.2 ?_))))
  rw [yields_look]
  dsimp only
  rw [show (w.after (.changed c .start)).state.seeded = true from seeded]
  refine (yields_cycleAlone (w := w.after (.changed c .start)) rules scored down).mono ?_
  rintro r w' ⟨⟨f, transient, rfl⟩, hstate⟩
  refine yields_bind.2 (yields_change.2 ⟨⟨f, transient, rfl⟩, ?_⟩)
  show { w'.state with busy := false } = _
  rw [hstate, ← idle]
  rfl

/-- In every run of a bot that has its own engine, a cycle that cannot reach the channel is given
up once the bot has had a first rule system.  It leaves the state as it was, but for the fitness,
which is the score that it got. -/
theorem Reaches.defers {lastMention : Json} {source : σ} {m : Moment σ}
    (reaches : Reaches settings (.initial settings lastMention source) m)
    (bred : m.world.HasOwnEngine settings.rates)
    (seeded : m.world.state.seeded = true) (idle : m.world.state.busy = false)
    (scored : ∀ h, surroundings.score h m.world.state.log = .ok fitness)
    (down : surroundings.IsDown c) :
    ∃ (f : Fault) (later : List (Event σ)), f.isTransient = true ∧
      m.world.call settings surroundings c .cycle =
        ⟨{ m.world.state with phase := .active, fitness := fitness },
          .ended c (.ok (.report (.deferred f.summary))) :: later⟩ := by
  have start : World.IsAccounted settings (⟨.initial settings lastMention source, []⟩ : World σ) :=
    ⟨nofun, List.nodup_nil, nofun, nofun⟩
  have governs := (isKept_accounts settings).reaches start nofun reaches
    (bred.obeys.mono fun _ _ => Event.BredByOwn.breedsRules)
  have rules := governs.holds.always.fruitful seeded
  have reports : Plays surroundings c (fun r w =>
      (∃ f : Fault, f.isTransient = true ∧ r = .ok (.report (.deferred f.summary))) ∧
        w.state = { m.world.state with phase := .active, fitness := fitness })
      (Operation.cycle.session settings).run (m.world.after (.began c .cycle)) := by
    have defers : Yields surroundings c (cycle settings) _ (m.world.after (.began c .cycle)) :=
      yields_cycle (w := m.world.after (.began c .cycle)) idle seeded rules scored down
    refine (yields_map _).2 (defers.mono ?_)
    rintro r w ⟨⟨f, transient, rfl⟩, hstate⟩
    exact ⟨⟨f, transient, rfl⟩, hstate⟩
  obtain ⟨_, w, ⟨⟨f, transient, rfl⟩, hstate⟩, hcall⟩ := reports.rest
  exact ⟨f, w.history, transient, hcall.trans (by rw [← hstate]; rfl)⟩

/-- A bot that has answered a text with its first rule system. -/
def answeredBot : World Tape :=
  seededBot.calls ⟨[], 1, 0, 0, {}⟩ {} [.answer (some ['a'])]

theorem reaches_answeredBot : ∃ waiting,
    Reaches ⟨[], 1, 0, 0, {}⟩ (.initial ⟨[], 1, 0, 0, {}⟩ .null ⟨[], 0⟩)
      ⟨answeredBot, none, waiting⟩ := by
  obtain ⟨_, seeded⟩ := reaches_seededBot
  exact reaches_calls ((World.IsIdle.start _).calls _ _ _) {} _ seeded

/-- A channel that publishes but cannot be looked at, and a scorer that counts. -/
def blindChannel : Surroundings Tape where
  candidates _ := .error (.unreachable [])
  score _ log := .ok (Float.ofNat log.length)

theorem defers_answeredBot :
    answeredBot.state.seeded = true ∧ answeredBot.state.busy = false ∧
      (∀ h, blindChannel.score h answeredBot.state.log = .ok 1.0) ∧
      blindChannel.IsDown answeredBot.history.length ∧
      ∃ (f : Fault) (later : List (Event Tape)), f.isTransient = true ∧
        answeredBot.call ⟨[], 1, 0, 0, {}⟩ blindChannel answeredBot.history.length .cycle =
          ⟨{ answeredBot.state with phase := .active, fitness := 1.0 },
            .ended answeredBot.history.length (.ok (.report (.deferred f.summary))) :: later⟩ := by
  obtain ⟨_, reaches⟩ := reaches_answeredBot
  have seeded : answeredBot.state.seeded = true := by decide +kernel
  have idle : answeredBot.state.busy = false := by decide +kernel
  have counted : Float.ofNat answeredBot.state.log.length = 1.0 := by decide +kernel
  have scored : ∀ h, blindChannel.score h answeredBot.state.log = .ok 1.0 :=
    fun _ => congrArg Except.ok counted
  have down : blindChannel.IsDown answeredBot.history.length :=
    fun _ _ => ⟨.unreachable [], rfl, .inr ⟨rfl, rfl⟩⟩
  have seededBred : seededBot.HasOwnEngine {} := .calls (fun _ => rfl) _ (.start _) (.start _)
  have bred : answeredBot.HasOwnEngine {} :=
    .calls (fun _ => rfl) _ ((World.IsIdle.start _).calls _ _ _) seededBred
  exact ⟨seeded, idle, scored, down, Reaches.defers reaches bred seeded idle scored down⟩

/-- A channel that cannot be reached at all, and a scorer that counts. -/
def deadChannel : Surroundings Tape where
  publish _ _ := .error (.unreachable [])
  score _ log := .ok (Float.ofNat log.length)

/-- The calls that were told that their cycle was given up, the latest one first. -/
def toldDeferred (h : List (Event σ)) : List Nat :=
  h.filterMap fun
    | .ended c (.ok (.report (.deferred _))) => some c
    | _ => none

/-- A cycle that is given up leaves another fitness. -/
theorem fitness_ne_of_deferred :
    (∃ waiting, Reaches ⟨[], 1, 0, 0, {}⟩ (.initial ⟨[], 1, 0, 0, {}⟩ .null ⟨[], 0⟩)
      ⟨answeredBot, none, waiting⟩) ∧ answeredBot.state.seeded = true ∧
      deadChannel.IsDown answeredBot.history.length ∧
      let after := answeredBot.call ⟨[], 1, 0, 0, {}⟩ deadChannel answeredBot.history.length .cycle
      toldDeferred after.history = [answeredBot.history.length] ∧
        after.state.fitness ≠ answeredBot.state.fitness := by
  refine ⟨reaches_answeredBot, by decide +kernel, fun _ _ => ?_, by decide +kernel,
    by decide +kernel⟩
  exact ⟨.unreachable [], rfl, .inl rfl⟩

end Mycelium.Bot
