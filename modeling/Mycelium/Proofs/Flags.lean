import Mycelium.Proofs.Grounds
import Mycelium.Proofs.Interactions
import Mycelium.Proofs.LastMatch

/-!
# What a flag tells

An interaction is flagged as matched if its answer is another one than that for no match.  So the
flag is told from the answer, and not from the rules.

* No rule matches: then the answer is the one for no match, and the flag is not set.
* A rule matches: then its response is the answer, and the flag is set, unless the response is the
  answer for no match.  Nothing keeps a rule from saying that (`misses_match_deniedOnce`).

`Reaches.flags_answers` says this of everything that a run records, together with what the log and
the share of the matched interactions are made of.
-/

namespace Mycelium

/-- The text that was answered, empty if there was none. -/
def Interaction.given (i : Interaction) : Text := i.text.getD []

/-- An answer that is not the one for no match is that of a rule that matches. -/
theorem RuleSystem.respond_ne_noMatch (s : RuleSystem) (text : Text) :
    (s.respond text != noMatch) = (s.matchesText text && s.respond text != noMatch) := by
  cases h : s.matchesText text with
  | true => rfl
  | false => simp [respond_of_not_matchesText h]

namespace Bot

variable {σ : Type} {s : State σ} {h : List (Event σ)}

/-! ## Who has answered -/

/-- The interactions that were recorded, oldest first, each with the rule system that has
answered. -/
def answersIn (s : State σ) : List (Event σ) → List (RuleSystem × Interaction)
  | [] => []
  | .changed c (.record i) :: h => answersIn s h ++ [((s.replayed (seenBy c h)).current, i)]
  | _ :: h => answersIn s h

theorem map_snd_answersIn (s : State σ) (h : List (Event σ)) :
    (answersIn s h).map Prod.snd = recorded h := by
  fun_induction answersIn s h with
  | case1 => rfl
  | case2 c i h ih => simp [recorded, ih]
  | case3 e h other ih => rw [ih, recorded]; exact other

/-- What is recorded is what the rule system answers, and is flagged if this is not the answer for
no match. -/
structure IsFlagged (p : RuleSystem × Interaction) : Prop where
  response : p.2.response = p.1.respond p.2.given
  matched : p.2.matched = (p.1.matchesText p.2.given && p.2.response != RuleSystem.noMatch)

theorem isFlagged_of_grounds (grounds : Obeys (Event.HasGrounds s) h) :
    ∀ p ∈ answersIn s h, IsFlagged p := by
  fun_induction answersIn s h with
  | case1 => exact nofun
  | case2 c i h ih =>
      intro p hp
      rcases List.mem_append.1 hp with hp | hp
      · exact ih grounds.2 p hp
      · obtain rfl := List.mem_singleton.1 hp
        obtain ⟨-, response, matched⟩ := grounds.1
        refine ⟨response, ?_⟩
        rw [matched, response]
        exact RuleSystem.respond_ne_noMatch _ _
  | case3 e h other ih => exact ih grounds.2

/-- If no rule gives the answer for no match, the flag tells whether some rule matches. -/
theorem IsFlagged.eq_matchesText {p : RuleSystem × Interaction} (flagged : IsFlagged p)
    (speaks : ∀ r ∈ p.1.rules, r.response ≠ RuleSystem.noMatch) :
    p.2.matched = p.1.matchesText p.2.given := by
  rw [flagged.matched]
  cases hmatch : p.1.matchesText p.2.given with
  | false => rfl
  | true =>
      obtain ⟨r, hr, -, hresponse⟩ := RuleSystem.exists_respond_eq hmatch
      have hspeaks := speaks r hr
      simpa [flagged.response, hresponse] using hspeaks

/-- How many of the answers are those of a rule that matches, but for those that say that none
does. -/
def spokenCount (l : List (RuleSystem × Interaction)) : Nat :=
  l.countP fun p => p.1.matchesText p.2.given && p.2.response != RuleSystem.noMatch

section Count

variable {l : List (RuleSystem × Interaction)} (flagged : ∀ p ∈ l, IsFlagged p)
include flagged

theorem matchCount_eq_spokenCount : Log.matchCount (l.map Prod.snd) = spokenCount l := by
  rw [Log.matchCount, List.countP_map, spokenCount]
  refine List.countP_congr fun p hp => ?_
  rw [Function.comp_apply, (flagged p hp).matched]

theorem matchCount_eq_countP
    (speaks : ∀ p ∈ l, ∀ r ∈ p.1.rules, r.response ≠ RuleSystem.noMatch) :
    Log.matchCount (l.map Prod.snd) = l.countP fun p => p.1.matchesText p.2.given := by
  rw [Log.matchCount, List.countP_map]
  refine List.countP_congr fun p hp => ?_
  rw [Function.comp_apply, (flagged p hp).eq_matchesText (speaks p hp)]

theorem score_matchRate_eq :
    Scorer.matchRate.score (l.map Prod.snd) =
      if l.isEmpty then 0.0
      else Binary64.roundTo 4 (Float.ofNat (spokenCount l) / Float.ofNat l.length) := by
  rw [Scorer.score, Log.matchRate, matchCount_eq_spokenCount flagged, List.isEmpty_map,
    List.length_map]

end Count

/-! ## Runs -/

/-- What the flags of the interactions tell that were recorded up to a moment of a run. -/
structure Moment.FlagsAnswers (s : State σ) (m : Moment σ) : Prop where
  /-- A call records its answer to a text, or its reply to a mention. -/
  answered : ∀ later c i earlier,
    m.world.history = later ++ .changed c (.record i) :: earlier → Answered c i earlier
  /-- The flag is set if a rule matches of the system that has answered, and the answer is not the
  one for no match. -/
  flagged : ∀ p ∈ answersIn s m.world.history, IsFlagged p
  /-- So it tells whether a rule matches if none gives that answer. -/
  truthful : ∀ p ∈ answersIn s m.world.history,
    (∀ r ∈ p.1.rules, r.response ≠ RuleSystem.noMatch) →
      p.2.matched = p.1.matchesText p.2.given
  /-- What completed cycles have scored, and what is in the log, was recorded. -/
  logged : ∃ before after, answersIn s m.world.history = before ++ after ∧
    scored m.world.history = before.map Prod.snd ∧ m.world.state.log = after.map Prod.snd
  /-- The count of matched interactions goes by the flags. -/
  counted : ∀ l ⊆ answersIn s m.world.history,
    Log.matchCount (l.map Prod.snd) = spokenCount l ∧
      ((∀ p ∈ l, ∀ r ∈ p.1.rules, r.response ≠ RuleSystem.noMatch) →
        Log.matchCount (l.map Prod.snd) = l.countP fun p => p.1.matchesText p.2.given)
  /-- So does the share of them. -/
  rated : ∀ l ⊆ answersIn s m.world.history,
    Scorer.matchRate.score (l.map Prod.snd) =
      if l.isEmpty then 0.0
      else Binary64.roundTo 4 (Float.ofNat (spokenCount l) / Float.ofNat l.length)

variable {settings : Settings}

/-- In every run an interaction is flagged as matched if and only if some rule of the system that
has answered matches, and the answer is not the one for no match. -/
theorem Reaches.flags_answers (fresh : s.log = []) {m : Moment σ} (reaches : Reaches settings s m) :
    m.FlagsAnswers s := by
  obtain ⟨-, grounds⟩ := reaches.grounds
  have flagged : ∀ p ∈ answersIn s m.world.history, IsFlagged p := isFlagged_of_grounds grounds
  have begins : World.Balances [] (⟨s, []⟩ : World σ) :=
    ⟨⟨fun _ => rfl, trivial⟩, fresh.symm, fun _ _ hr => absurd hr List.not_mem_nil⟩
  have balances := ((isKept_interactions settings).reaches begins trivial reaches
    reaches.isProper.history).holds.always
  exact {
    answered := by
      intro later c i earlier heq
      rw [heq] at grounds
      exact grounds.at_split.1
    flagged := flagged
    truthful := fun p hp => (flagged p hp).eq_matchesText
    logged := by
      have hrecorded : (answersIn s m.world.history).map Prod.snd =
          scored m.world.history ++ m.world.state.log := by
        rw [map_snd_answersIn, ← balances.balance, List.nil_append]
      obtain ⟨before, after, hsplit, hbefore, hafter⟩ := List.map_eq_append_iff.1 hrecorded
      exact ⟨before, after, hsplit, hbefore.symm, hafter.symm⟩
    counted := fun l hl =>
      ⟨matchCount_eq_spokenCount fun p hp => flagged p (hl hp),
        matchCount_eq_countP fun p hp => flagged p (hl hp)⟩
    rated := fun l hl => score_matchRate_eq fun p hp => flagged p (hl hp) }

/-- A channel with a program that has a rule that says that there is none. -/
def denyingChannel : Surroundings Tape where
  candidates _ := .ok [.ok ⟨.str
    "FUNGISTART RULE:a|RESPONSE:yes|RULE:b|RESPONSE:Sorry, no match FUNGIEND".toList⟩]
  mentions _ _ := .ok [.ok ⟨['7'], .str ['a', 'b']⟩, .ok ⟨['8'], .str ['x', 'a']⟩]

/-- A bot that adopts that program and answers. -/
def denyingBot : World Tape :=
  World.calls ⟨[], 1, 0, 0, {}⟩ denyingChannel
    [.search, .answer (some ['a']), .answer none, .answerMentions]
    ⟨.initial ⟨[], 1, 0, 0, {}⟩ .null ⟨[], 0⟩, []⟩

/-- Two answers are those of a rule that matches, one is given because none does, and one although
two do. -/
theorem flags_answers_denyingBot :
    (answersIn (.initial ⟨[], 1, 0, 0, {}⟩ .null ⟨[], 0⟩) denyingBot.history).map
        (fun p => (p.1.matchesText p.2.given, p.2.matched)) =
      [(true, true), (false, false), (true, false), (true, true)] ∧
    (State.initial ⟨[], 1, 0, 0, {}⟩ .null (⟨[], 0⟩ : Tape)).log = [] ∧
    ∃ waiting, Moment.FlagsAnswers (.initial ⟨[], 1, 0, 0, {}⟩ .null ⟨[], 0⟩)
      ⟨denyingBot, none, waiting⟩ := by
  obtain ⟨waiting, reaches⟩ : ∃ waiting,
      Reaches ⟨[], 1, 0, 0, {}⟩ (.initial ⟨[], 1, 0, 0, {}⟩ .null ⟨[], 0⟩)
        ⟨denyingBot, none, waiting⟩ :=
    reaches_calls (.start _) denyingChannel _ .refl
  exact ⟨by decide +kernel, rfl, waiting, Reaches.flags_answers rfl reaches⟩

/-- A bot that adopts that program and answers one text. -/
def deniedOnce : World Tape :=
  World.calls ⟨[], 1, 0, 0, {}⟩ denyingChannel [.search, .answer (some ['b'])]
    ⟨.initial ⟨[], 1, 0, 0, {}⟩ .null ⟨[], 0⟩, []⟩

/-- A rule matches the text, but the interaction is not flagged and not counted. -/
theorem misses_match_deniedOnce :
    (∃ waiting, Reaches ⟨[], 1, 0, 0, {}⟩ (.initial ⟨[], 1, 0, 0, {}⟩ .null ⟨[], 0⟩)
      ⟨deniedOnce, none, waiting⟩) ∧
    (answersIn (.initial ⟨[], 1, 0, 0, {}⟩ .null ⟨[], 0⟩) deniedOnce.history).map
        (fun p => (p.1.matchesText p.2.given, p.2.matched)) = [(true, false)] ∧
    deniedOnce.state.log.length = 1 ∧ deniedOnce.state.log.matchCount = 0 := by
  refine ⟨?_, by decide +kernel, by decide +kernel, by decide +kernel⟩
  exact reaches_calls (.start _) denyingChannel _ .refl

end Bot

end Mycelium
