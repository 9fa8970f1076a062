import Mathlib.Logic.Relation
import Mathlib.Logic.Function.Basic
import Mycelium.Bot.Cycle

/-!
# Runs

A run is made of calls of operations.  A call goes on by itself until it turns to a
collaborator.  While the collaborator is asked other calls may begin and go on, and
every answer may come.  So the calls of a run are interleaved at those questions and
nowhere else, and calls that begin inside another one are a special case.

The history of a run has its events, the latest one first.  What is assumed of the
surroundings is a law that says which event may follow which history (`Obeys`).

`Reaches.proper` says what every history looks like: a call begins once, and then does
what its operation may do until it ends.
-/

namespace Mycelium.Bot

/-- An operation of a bot. -/
inductive Operation where
  /-- A first rule system is looked for. -/
  | search
  /-- A text is answered. -/
  | answer (text : Option Text)
  /-- The new mentions are answered. -/
  | answerMentions
  /-- A cycle. -/
  | cycle

/-- What an operation gives. -/
inductive Result where
  /-- The rule system that was adopted. -/
  | system (system : RuleSystem)
  /-- The answer to a text. -/
  | response (response : Text)
  /-- How it went over the mentions. -/
  | tally (tally : Tally)
  /-- How the cycle went. -/
  | report (report : Report)

variable {σ : Type}

/-- What an operation does. -/
def Operation.session (settings : Settings) : Operation → Session σ Result
  | search => Result.system <$> Bot.search settings
  | answer text => Result.response <$> Bot.answer text
  | answerMentions => Result.tally <$> Bot.answerMentions
  | cycle => Result.report <$> Bot.cycle settings

/-! ## Events -/

/-- What happens in a run, with the call that it happens in. -/
inductive Event (σ : Type) where
  /-- The call begins. -/
  | began (call : Nat) (op : Operation)
  /-- The call changes the state. -/
  | changed (call : Nat) (change : Change σ)
  /-- A collaborator answers what the call asked. -/
  | answered (call : Nat) (q : Prompt σ) (r : q.Answer)
  /-- The call ends. -/
  | ended (call : Nat) (r : Except Fault Result)

namespace Event

/-- The call that an event happens in. -/
def call : Event σ → Nat
  | began c _ => c
  | changed c _ => c
  | answered c _ _ => c
  | ended c _ => c

/-- What a call asked for an event to happen. -/
def prompt? : Event σ → Option (Prompt σ)
  | changed _ change => some (.change change)
  | answered _ q _ => some q
  | _ => none

end Event

/-- Every event of a history follows the events before it as a law says. -/
def Obeys (law : List (Event σ) → Event σ → Prop) : List (Event σ) → Prop
  | [] => True
  | e :: h => law h e ∧ Obeys law h

namespace Obeys

variable {law : List (Event σ) → Event σ → Prop} {e : Event σ} {h later : List (Event σ)}

theorem earlier (obeys : Obeys law (later ++ h)) : Obeys law h := by
  induction later with
  | nil => exact obeys
  | cons e later ih => exact ih obeys.2

theorem at_split (obeys : Obeys law (later ++ e :: h)) : law h e := obeys.earlier.1

theorem mono {law' : List (Event σ) → Event σ → Prop} (obeys : Obeys law h)
    (imp : ∀ h e, law h e → law' h e) : Obeys law' h := by
  induction h with
  | nil => trivial
  | cons e h ih => exact ⟨imp h e obeys.1, ih obeys.2⟩

end Obeys

/-! ## Runs -/

/-- The state of a bot and what led to it. -/
structure World (σ : Type) where
  /-- The state. -/
  state : State σ
  /-- The events so far, the latest one first. -/
  history : List (Event σ)

namespace World

/-- The world after an event. -/
def after (w : World σ) (e : Event σ) : World σ where
  state :=
    match e with
    | .changed _ change => change.apply w.state
    | _ => w.state
  history := e :: w.history

@[simp] theorem after_history (w : World σ) (e : Event σ) :
    (w.after e).history = e :: w.history := rfl

end World

/-- What is left of a call. -/
abbrev Remainder (σ : Type) := Dialogue (Prompt σ) Prompt.Answer (Except Fault Result)

/-- Whether a question goes to a collaborator. -/
def Prompt.isOutside : Prompt σ → Bool
  | look => false
  | change _ => false
  | _ => true

/-- A moment of a run. -/
structure Moment (σ : Type) where
  /-- The state and what led to it. -/
  world : World σ
  /-- The call that goes on, if there is one, and what is left of it. -/
  running : Option (Nat × Remainder σ)
  /-- What is left of the calls that wait for a collaborator. -/
  waiting : Nat → Option (Remainder σ)

/-- The moment before any call begins. -/
def Moment.start (s : State σ) : Moment σ := ⟨⟨s, []⟩, none, fun _ => none⟩

/-- A step of a run. -/
inductive Step (settings : Settings) : Moment σ → Moment σ → Prop where
  /-- A new call begins. -/
  | begin {w : World σ} {waiting : Nat → Option (Remainder σ)} (c : Nat) (op : Operation)
      (new : ∀ e ∈ w.history, e.call ≠ c) :
      Step settings ⟨w, none, waiting⟩
        ⟨w.after (.began c op), some (c, (op.session settings).run), waiting⟩
  /-- The call looks at the state. -/
  | look {w : World σ} {waiting : Nat → Option (Remainder σ)} {c : Nat}
      {next : State σ → Remainder σ} :
      Step settings ⟨w, some (c, .ask .look next), waiting⟩ ⟨w, some (c, next w.state), waiting⟩
  /-- The call changes the state. -/
  | change {w : World σ} {waiting : Nat → Option (Remainder σ)} {c : Nat} {ch : Change σ}
      {next : Unit → Remainder σ} :
      Step settings ⟨w, some (c, .ask (.change ch) next), waiting⟩
        ⟨w.after (.changed c ch), some (c, next ()), waiting⟩
  /-- The call turns to a collaborator. -/
  | wait {w : World σ} {waiting : Nat → Option (Remainder σ)} {c : Nat} {q : Prompt σ}
      {next : q.Answer → Remainder σ} (out : q.isOutside) :
      Step settings ⟨w, some (c, .ask q next), waiting⟩
        ⟨w, none, Function.update waiting c (some (.ask q next))⟩
  /-- A collaborator answers, and the call that asked goes on. -/
  | answer {w : World σ} {waiting : Nat → Option (Remainder σ)} {c : Nat} {q : Prompt σ}
      {next : q.Answer → Remainder σ} (asked : waiting c = some (.ask q next)) (r : q.Answer) :
      Step settings ⟨w, none, waiting⟩
        ⟨w.after (.answered c q r), some (c, next r), Function.update waiting c none⟩
  /-- The call ends. -/
  | finish {w : World σ} {waiting : Nat → Option (Remainder σ)} {c : Nat}
      {r : Except Fault Result} :
      Step settings ⟨w, some (c, .done r), waiting⟩ ⟨w.after (.ended c r), none, waiting⟩

/-- Whether a run that starts in a state comes to a moment. -/
def Reaches (settings : Settings) (s : State σ) (m : Moment σ) : Prop :=
  Relation.ReflTransGen (Step settings) (.start s) m

/-- A step leaves the world as it is, or lets one thing happen. -/
theorem Step.world_eq {settings : Settings} {m m' : Moment σ} (step : Step settings m m') :
    m'.world = m.world ∨ ∃ e, m'.world = m.world.after e := by
  cases step with
  | look => exact .inl rfl
  | wait out => exact .inl rfl
  | begin c op new => exact .inr ⟨.began c op, rfl⟩
  | @change _ _ c ch _ => exact .inr ⟨.changed c ch, rfl⟩
  | @answer _ _ c q _ asked r => exact .inr ⟨.answered c q r, rfl⟩
  | @finish _ _ c r => exact .inr ⟨.ended c r, rfl⟩

/-- What every event keeps holds of every world that a run comes to. -/
theorem Reaches.world_induction {settings : Settings} {s : State σ} {P : World σ → Prop}
    (start : P ⟨s, []⟩) (after : ∀ w e, P w → P (w.after e)) {m : Moment σ}
    (reaches : Reaches settings s m) : P m.world := by
  induction reaches with
  | refl => exact start
  | tail _ step ih =>
      rcases step.world_eq with heq | ⟨e, heq⟩
      · rwa [heq]
      · rw [heq]
        exact after _ e ih

/-- What has happened so far stays in the history. -/
theorem Step.history_isSuffix {settings : Settings} {m m' : Moment σ} (step : Step settings m m') :
    m.world.history <:+ m'.world.history := by
  rcases step.world_eq with heq | ⟨e, heq⟩
  · exact heq ▸ List.suffix_rfl
  · exact heq ▸ List.suffix_cons e _

theorem history_isSuffix_of_steps {settings : Settings} {m m' : Moment σ}
    (steps : Relation.ReflTransGen (Step settings) m m') :
    m.world.history <:+ m'.world.history := by
  induction steps with
  | refl => exact List.suffix_rfl
  | tail _ step ih => exact ih.trans step.history_isSuffix

end Mycelium.Bot
