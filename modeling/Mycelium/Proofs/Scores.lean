import Mycelium.Proofs.Deferral

/-!
# A rule system is scored by its own answers

In a run that starts with a search and goes on with one call after the other, the log holds
answers of the current rule system only, and so does every log that is handed to the scorer
(`Reaches.earned`).

The current rule system changes in two ways.  The search adopts one while the log is still
empty.  A cycle goes over to the next one at its end, and as nobody else has touched the log
since it began, what it has handed over is the whole log, which is dropped in the same step.
All other changes leave both alone or add an answer of the current rule system.

A cycle of a bot that has no rule system searches for one, however many texts were answered
before.  So a cycle is assumed to begin only once a rule system was found.
-/

namespace Mycelium

/-- All answers in a log are those that a rule system gives. -/
def Log.IsAnsweredBy (log : Log) (system : RuleSystem) : Prop :=
  ∀ i ∈ log, i.response = system.respond (i.text.getD [])

namespace Log.IsAnsweredBy

variable {log : Log} {system : RuleSystem}

theorem nil : IsAnsweredBy [] system := nofun

theorem record (answered : log.IsAnsweredBy system) (text : Option Text) (matched : Bool) :
    (log.record ⟨text, system.respond (text.getD []), matched⟩).IsAnsweredBy system := by
  intro i hi
  rcases List.mem_append.1 hi with hi | hi
  · exact answered i hi
  · rw [List.mem_singleton.1 hi]

end Log.IsAnsweredBy

namespace Bot

variable {σ : Type}

/-! ## Calls that take turns -/

/-- No call begins while another one goes on. -/
def Event.TakesTurn (h : List (Event σ)) : Event σ → Prop
  | .began _ _ => ∀ c op, ¬ Ongoing c op h
  | _ => True

/-- Whether a search has come to a rule system. -/
def hasFound : List (Event σ) → Bool
  | [] => false
  | .ended _ (.ok (.system _)) :: _ => true
  | _ :: h => hasFound h

/-- The first call searches and no later one does.  A cycle, which would search without a rule
system, begins only once one was found. -/
def Event.SearchesFirst (h : List (Event σ)) : Event σ → Prop
  | .began _ .search => h = []
  | .began _ .cycle => hasFound h = true
  | .began _ _ => h ≠ []
  | _ => True

variable {c : Nat} {e : Event σ} {h : List (Event σ)} {w : World σ}

/-- If calls take turns only one of them goes on. -/
theorem Ongoing.eq_of_takesTurn (turns : Obeys Event.TakesTurn h) {c' : Nat} {op op' : Operation}
    (ongoing : Ongoing c op h) (ongoing' : Ongoing c' op' h) : c = c' := by
  induction h with
  | nil => exact absurd ongoing.1 List.not_mem_nil
  | cons e h ih =>
      obtain ⟨hturn, hearlier⟩ := turns
      rcases ongoing.of_cons with rfl | hc
      · rcases ongoing'.of_cons with heq | hc'
        · cases heq
          rfl
        · exact absurd hc' (hturn c' op')
      · rcases ongoing'.of_cons with rfl | hc'
        · exact absurd hc (hturn c op)
        · exact ih hearlier hc hc'

/-- While a call goes on no other one does anything. -/
theorem Ongoing.call_eq {op : Operation} (ongoing : Ongoing c op h)
    (turns : Obeys Event.TakesTurn (e :: h)) (proper : e.IsProper h) : e.call = c := by
  cases e with
  | began d op' => exact absurd ongoing (turns.1 c op)
  | _ =>
      obtain ⟨op', ongoing', -⟩ := proper
      exact ongoing'.eq_of_takesTurn turns.2 ongoing

/-! ## What holds at every moment -/

/-- The answers that are scored are those of the rule system that gets the score. -/
structure World.IsEarned (w : World σ) : Prop where
  /-- Nothing is answered before the first call. -/
  fresh : w.history = [] → w.state.log = []
  /-- A bot that has found a rule system does not search again. -/
  seeded : hasFound w.history = true → w.state.seeded = true
  /-- The current rule system gave all answers in the log. -/
  logged : w.state.log.IsAnsweredBy w.state.current
  /-- A rule system that was scored gave all answers that it was scored by. -/
  scored : ∀ c system log r, .answered c (.score system log) r ∈ w.history →
    log.IsAnsweredBy system

/-- Whether a question leaves the rule system and the log alone, and asks for no score. -/
def Prompt.leavesAnswers : Prompt σ → Bool
  | change (.seed _) => false
  | change (.record _) => false
  | change (.complete _ _ _ _) => false
  | score _ _ => false
  | _ => true

theorem Prompt.ne_score_of_leavesAnswers {q : Prompt σ} (asked : e.prompt? = some q)
    (leaves : q.leavesAnswers) (c : Nat) (system : RuleSystem) (log : Log)
    (r : Except Fault Float) : e ≠ .answered c (.score system log) r := by
  rintro rfl
  cases asked
  cases leaves

/-- What leaves the answers alone leaves them to the same rule system. -/
theorem World.answers_after {q : Prompt σ} (asked : e.prompt? = some q)
    (leaves : q.leavesAnswers) (w : World σ) :
    (w.after e).state.current = w.state.current ∧ (w.after e).state.log = w.state.log ∧
      (w.after e).state.seeded = w.state.seeded := by
  cases e with
  | changed c ch =>
      cases asked
      cases ch with
      | seed system => cases leaves
      | record i => cases leaves
      | complete published next scored source => cases leaves
      | _ => exact ⟨rfl, rfl, rfl⟩
  | _ => exact ⟨rfl, rfl, rfl⟩

/-- A call does not come to a rule system unless the bot is seeded. -/
def ComesSeeded (r : Except Fault Result) (w : World σ) : Prop :=
  ∀ system, r = .ok (.system system) → w.state.seeded = true

namespace World.IsEarned

theorem began (earned : w.IsEarned) (c : Nat) (op : Operation) :
    (w.after (.began c op)).IsEarned where
  fresh := nofun
  seeded := earned.seeded
  logged := earned.logged
  scored d system log r hr := by
    rcases List.mem_cons.1 hr with heq | hr
    · cases heq
    · exact earned.scored d system log r hr

variable (earned : w.IsEarned)
include earned

theorem after_of_leavesAnswers {q : Prompt σ} (asked : e.prompt? = some q)
    (leaves : q.leavesAnswers) : (w.after e).IsEarned := by
  obtain ⟨current, log, seeded⟩ := World.answers_after asked leaves w
  refine ⟨nofun, fun found => ?_, ?_, fun c system log r hr => ?_⟩
  · rw [seeded]
    refine earned.seeded ?_
    cases e with
    | ended c r => cases asked
    | _ => exact found
  · rw [current, log]
    exact earned.logged
  · rcases List.mem_cons.1 hr with heq | hr
    · exact absurd heq.symm (Prompt.ne_score_of_leavesAnswers asked leaves c system log r)
    · exact earned.scored c system log r hr

/-- A change of the log or of the rule system keeps them in step. -/
theorem changed {ch : Change σ} (seeded : w.state.seeded = true → (ch.apply w.state).seeded = true)
    (logged : (ch.apply w.state).log.IsAnsweredBy (ch.apply w.state).current) :
    (w.after (.changed c ch)).IsEarned where
  fresh := nofun
  seeded found := seeded (earned.seeded found)
  logged := logged
  scored d system log r hr := by
    rcases List.mem_cons.1 hr with heq | hr
    · cases heq
    · exact earned.scored d system log r hr

/-- The log is scored. -/
theorem judged (r : Except Fault Float) :
    (w.after (.answered c (.score w.state.current w.state.log) r)).IsEarned where
  fresh := nofun
  seeded := earned.seeded
  logged := earned.logged
  scored d system log r' hr := by
    rcases List.mem_cons.1 hr with heq | hr
    · cases heq
      exact earned.logged
    · exact earned.scored d system log r' hr

/-- A call ends. -/
theorem ended {r : Except Fault Result} (seeded : ComesSeeded r w) :
    (w.after (.ended c r)).IsEarned where
  fresh := nofun
  seeded found := by
    rcases r with f | system | response | tally | report
    · exact earned.seeded found
    · exact seeded system rfl
    · exact earned.seeded found
    · exact earned.seeded found
    · exact earned.seeded found
  logged := earned.logged
  scored d system log r' hr := by
    rcases List.mem_cons.1 hr with heq | hr
    · cases heq
    · exact earned.scored d system log r' hr

end World.IsEarned

/-- The discipline of calls that take turns. -/
def earnings : Discipline σ where
  assumed h e := e.IsProper h ∧ e.TakesTurn h ∧ e.SearchesFirst h
  always := World.IsEarned
  settled _ := True

theorem obeys_takesTurn (obeys : Obeys earnings.assumed h) : Obeys Event.TakesTurn h := by
  induction h with
  | nil => trivial
  | cons e h ih => exact ⟨obeys.1.2.1, ih obeys.2⟩

theorem leads_of_leavesAnswers {k : World σ → Prop} {q : Prompt σ} (holds : earnings.Holds w)
    (asked : e.prompt? = some q) (leaves : q.leavesAnswers) (hk : k (w.after e)) :
    earnings.Leads w e k :=
  fun _ => ⟨holds.always.after_of_leavesAnswers asked leaves, hk⟩

/-! ## A call that goes on -/

/-- A call goes on, with a rule system and a log that nobody else touches. -/
structure HasTurn (c : Nat) (system : RuleSystem) (log : Log) (w : World σ) : Prop where
  /-- The call goes on. -/
  ongoing : ∃ op, Ongoing c op w.history
  /-- The current rule system. -/
  current : w.state.current = system
  /-- The log. -/
  log : w.state.log = log

namespace HasTurn

variable {system : RuleSystem} {log : Log}

theorem of_ongoing {op : Operation} (ongoing : Ongoing c op w.history) :
    HasTurn c w.state.current w.state.log w :=
  ⟨⟨op, ongoing⟩, rfl, rfl⟩

/-- While a call waits nothing happens. -/
theorem stable : earnings.Stable c (HasTurn (σ := σ) c system log) := by
  intro w e other _ holds turn
  obtain ⟨op, ongoing⟩ := turn.ongoing
  exact absurd (ongoing.call_eq (obeys_takesTurn holds.obeys) holds.obeys.1.1) other

theorem after_of_leavesAnswers {q : Prompt σ} (turn : HasTurn c system log w)
    (asked : e.prompt? = some q) (leaves : q.leavesAnswers) :
    HasTurn c system log (w.after e) := by
  obtain ⟨op, ongoing⟩ := turn.ongoing
  obtain ⟨current, hlog, -⟩ := World.answers_after asked leaves w
  refine ⟨⟨op, ongoing.cons ?_⟩, current.trans turn.current, hlog.trans turn.log⟩
  rintro r rfl
  cases asked

/-- A session of the call that leaves the answers alone. -/
theorem ensures_of_asks {α : Type} {s : Session σ α} (turn : HasTurn c system log w)
    (asks : s.Asks fun q => q.leavesAnswers) :
    earnings.Ensures c s (fun _ => HasTurn c system log) w := by
  refine (Discipline.ensures_of_asks stable ?_ asks trivial turn).mono fun _ _ h => h.2
  intro w e q _ asked leaves holds _ turn
  exact leads_of_leavesAnswers holds asked leaves
    ⟨trivial, turn.after_of_leavesAnswers asked leaves⟩

theorem ensures_change {ch : Change σ} {post : Except Fault Unit → World σ → Prop}
    (turn : HasTurn c system log w) (leaves : (Prompt.change ch).leavesAnswers)
    (next : ∀ w, HasTurn c system log w → post (.ok ()) w) :
    earnings.Ensures c (.change ch) post w :=
  Discipline.ensures_change.2 fun holds => leads_of_leavesAnswers holds rfl leaves
    (next _ (turn.after_of_leavesAnswers rfl leaves))

/-- The call turns to a collaborator other than the scorer. -/
theorem keeps_put (turn : HasTurn c system log w) (q : Prompt σ) (out : q.isOutside)
    (leaves : q.leavesAnswers) {post : q.Answer → World σ → Prop}
    (next : ∀ r w, HasTurn c system log w → post r w) :
    earnings.Keeps c post (Dialogue.put q) w := by
  refine (Discipline.keeps_put q out).2 fun _ => ⟨trivial, _, turn, stable, ?_⟩
  intro w' r holds _ turn
  exact leads_of_leavesAnswers holds rfl leaves (next r _ (turn.after_of_leavesAnswers rfl leaves))

/-- The call turns to the scorer. -/
theorem ensures_score (turn : HasTurn c system log w)
    {post : Except Fault Float → World σ → Prop}
    (next : ∀ r w, HasTurn c system log w → post r w) :
    earnings.Ensures c (.score system log) post w := by
  refine (Discipline.keeps_put (.score system log) rfl).2 fun _ => ⟨trivial, _, turn, stable, ?_⟩
  intro w' r holds _ turn _
  obtain ⟨op, ongoing⟩ := turn.ongoing
  obtain ⟨-, rfl, rfl⟩ := turn
  exact ⟨holds.always.judged r, next r _ ⟨⟨op, ongoing.cons nofun⟩, rfl, rfl⟩⟩

/-- The call records an answer of the current rule system. -/
theorem ensures_record (turn : HasTurn c system log w) (text : Option Text)
    {post : Except Fault Unit → World σ → Prop}
    (next : ∀ log w, HasTurn c system log w → post (.ok ()) w) :
    earnings.Ensures c (record text (system.respond (text.getD []))) post w := by
  refine Discipline.ensures_change.2 fun holds _ => ?_
  obtain ⟨op, ongoing⟩ := turn.ongoing
  obtain ⟨-, rfl, rfl⟩ := turn
  exact ⟨holds.always.changed id (holds.always.logged.record text _),
    next _ _ ⟨⟨op, ongoing.cons nofun⟩, rfl, rfl⟩⟩

end HasTurn

/-! ## Searching -/

namespace HasTurn

variable {system : RuleSystem} {log : Log} {settings : Settings}

theorem ensures_search (turn : HasTurn c system [] w) :
    earnings.Ensures c (search settings) (fun r => ComesSeeded (r.map .system)) w := by
  have adopt (found : Option Text) (w : World σ) (turn : HasTurn c system [] w) :
      earnings.Ensures c (do
        let system ← Session.ofOutcome (seedSystem found)
        Session.change (.seed system)
        pure system) (fun r => ComesSeeded (r.map .system)) w := by
    refine Discipline.ensures_bind.2 ((Discipline.ensures_ofOutcome _).2 ?_)
    cases seedSystem found with
    | error f => exact nofun
    | ok system =>
        refine Discipline.ensures_bind.2 (Discipline.ensures_change.2 fun holds _ => ?_)
        refine ⟨holds.always.changed (fun _ => rfl) ?_, fun _ _ => rfl⟩
        show Log.IsAnsweredBy w.state.log _
        rw [turn.log]
        exact .nil
  refine Discipline.ensures_bind.2 (turn.ensures_change rfl fun w turn => ?_)
  refine Discipline.ensures_bind.2 (Discipline.ensures_outcome.2 ?_)
  have asks : Session.Asks (fun q => q.leavesAnswers = true)
      (seedProgram? settings : Session σ (Option Text)) :=
    .bind (.candidates rfl) asks_firstProgram
  refine (turn.ensures_of_asks asks).mono fun r w turn => ?_
  cases r with
  | ok found => exact adopt found w turn
  | error f =>
      dsimp only
      split
      · exact adopt none w turn
      · exact nofun

/-! ## Answering -/

theorem ensures_answer (turn : HasTurn c system log w) (text : Option Text) :
    earnings.Ensures c (answer text) (fun _ _ => True) w := by
  refine Discipline.ensures_bind.2 (Discipline.ensures_look.2 fun _ => ?_)
  dsimp only
  rw [turn.current]
  exact Discipline.ensures_bind.2 (turn.ensures_record text fun _ _ _ => trivial)

/-- The reply to a mention is the answer of the current rule system. -/
theorem ensures_replyTo (turn : HasTurn c system log w) (m : Mention) :
    earnings.Ensures c (replyTo m) (fun r w => HasTurn c system log w ∧
      ∀ text response, r = .ok (text, response) → response = system.respond text) w := by
  refine Discipline.ensures_bind.2 ((Discipline.ensures_ofOutcome _).2 ?_)
  cases Content.plainText m.content with
  | error f => exact ⟨turn, nofun⟩
  | ok text =>
      refine Discipline.ensures_bind.2 (Discipline.ensures_look.2 fun _ => ?_)
      dsimp only
      rw [turn.current]
      refine Discipline.ensures_bind.2 (turn.keeps_put (.reply _ m) rfl rfl fun r w turn => ?_)
      cases r with
      | ok u => exact ⟨turn, by rintro _ _ ⟨⟩; rfl⟩
      | error f => exact ⟨turn, nofun⟩

theorem ensures_pass (turn : HasTurn c system log w) (held : Bool) (id : Text)
    {rest : Session σ Tally}
    (next : ∀ w, HasTurn c system log w → earnings.Ensures c rest (fun _ _ => True) w) :
    earnings.Ensures c (if !held then do
        let _ ← advance id
        rest
      else rest) (fun _ _ => True) w := by
  split
  · have asks : Session.Asks (fun q => q.leavesAnswers = true) (advance id : Session σ Unit) :=
      asks_advance (by rfl) (fun _ => by rfl) id
    refine Discipline.ensures_bind.2 ((turn.ensures_of_asks asks).mono fun r w turn => ?_)
    cases r with
    | ok u => exact next w turn
    | error f => trivial
  · exact next w turn

theorem ensures_answerEach (turn : HasTurn c system log w) (held : Bool) (tally : Tally)
    (ms : List (Except Fault Mention)) :
    earnings.Ensures c (answerEach held tally ms) (fun _ _ => True) w := by
  induction ms generalizing held tally log w with
  | nil => trivial
  | cons m ms ih =>
      refine Discipline.ensures_bind.2 ((Discipline.ensures_ofOutcome m).2 ?_)
      cases m with
      | error f => trivial
      | ok m =>
          refine Discipline.ensures_bind.2 (Discipline.ensures_look.2 fun _ => ?_)
          dsimp only
          split
          · exact turn.ensures_pass held m.id fun w turn => ih turn held tally
          · refine Discipline.ensures_bind.2 (Discipline.ensures_outcome.2 ?_)
            refine (turn.ensures_replyTo m).mono ?_
            rintro r w ⟨turn, gives⟩
            cases r with
            | error f =>
                dsimp only
                split
                · exact ih turn true _
                · exact turn.ensures_pass held m.id fun w turn => ih turn held _
            | ok given =>
                obtain ⟨text, response⟩ := given
                obtain rfl := gives text response rfl
                refine Discipline.ensures_bind.2 ?_
                refine turn.ensures_record (some text) fun log w turn => ?_
                dsimp only
                split
                · refine Discipline.ensures_bind.2 (turn.ensures_change rfl fun w turn => ?_)
                  exact turn.ensures_pass held m.id fun w turn => ih turn held _
                · exact turn.ensures_pass held m.id fun w turn => ih turn held _

theorem ensures_answerMentions (turn : HasTurn c system log w) :
    earnings.Ensures c answerMentions (fun _ _ => True) w := by
  refine Discipline.ensures_bind.2 (Discipline.ensures_look.2 fun _ => ?_)
  refine Discipline.ensures_bind.2 (Discipline.ensures_outcome.2 ?_)
  refine turn.keeps_put (.mentions _) rfl rfl fun r w turn => ?_
  cases r with
  | ok ms => exact turn.ensures_answerEach false _ ms
  | error f =>
      dsimp only
      split
      · trivial
      · trivial

/-! ## Cycles -/

/-- The log was handed over as a whole, so the next rule system starts with none. -/
theorem leads_complete (turn : HasTurn c system log w) (holds : earnings.Holds w)
    (published : Scored) (next : RuleSystem) (source : σ) :
    earnings.Leads w (.changed c (.complete published next log.length source))
      (fun _ => True) := by
  refine fun _ => ⟨holds.always.changed id ?_, trivial⟩
  show Log.IsAnsweredBy (w.state.log.drop (Int.toNat log.length)) next
  rw [turn.log, Int.toNat_natCast, List.drop_length]
  exact .nil

theorem ensures_cycleAlone (turn : HasTurn c system log w) :
    earnings.Ensures c (cycleAlone settings) (fun _ _ => True) w := by
  refine Discipline.ensures_bind.2 (Discipline.ensures_look.2 fun _ => ?_)
  obtain ⟨⟨op, ongoing⟩, rfl, rfl⟩ := turn
  have turn := of_ongoing ongoing
  refine Discipline.ensures_bind.2 (turn.ensures_change rfl fun w' turn => ?_)
  refine Discipline.ensures_bind.2 (turn.ensures_score fun r w' turn => ?_)
  cases r with
  | error f => trivial
  | ok fitness =>
      refine Discipline.ensures_bind.2 (turn.ensures_change rfl fun w' turn => ?_)
      refine Discipline.ensures_bind.2 (turn.ensures_change rfl fun w' turn => ?_)
      dsimp only
      split
      · next p _ =>
          have asks : Session.Asks (fun q => q.leavesAnswers = true) (do
              Session.publish p.message
              scrape settings p.message : Session σ (List Scored)) :=
            .bind (.publish rfl) fun _ => asks_scrape settings (fun _ _ => rfl) _
          refine Discipline.ensures_bind.2 (Discipline.ensures_outcome.2 ?_)
          refine (turn.ensures_of_asks asks).mono fun others w' turn => ?_
          cases others with
          | error f =>
              dsimp only
              split
              · exact Discipline.ensures_bind.2 (turn.ensures_change rfl fun _ _ => trivial)
              · trivial
          | ok others =>
              refine Discipline.ensures_bind.2 (turn.ensures_change rfl fun w' turn => ?_)
              refine Discipline.ensures_bind.2 (Discipline.ensures_look.2 fun _ => ?_)
              refine Discipline.ensures_bind.2 ?_
              refine turn.keeps_put (.breed _ _ _ _) rfl rfl fun bred w' turn => ?_
              obtain ⟨f | next, source⟩ := bred
              · exact Discipline.ensures_bind.2 (turn.ensures_change rfl fun _ _ => trivial)
              · refine Discipline.ensures_bind.2 (Discipline.ensures_change.2 fun holds => ?_)
                exact (turn.leads_complete holds _ _ _).mono fun _ _ =>
                  Discipline.ensures_bind.2 (Discipline.ensures_look.2 fun _ => trivial)
      · trivial

/-- A cycle of a seeded bot does not search. -/
theorem ensures_cycle (turn : HasTurn c system log w) (seeded : w.state.seeded = true) :
    earnings.Ensures c (cycle settings) (fun _ _ => True) w := by
  refine Discipline.ensures_bind.2 (Discipline.ensures_look.2 fun _ => ?_)
  dsimp only
  split
  · trivial
  · refine Discipline.ensures_bind.2 (Discipline.ensures_change.2 fun holds => ?_)
    refine leads_of_leavesAnswers holds rfl rfl ?_
    replace turn := turn.after_of_leavesAnswers (e := .changed c .start) rfl rfl
    replace seeded : (w.after (.changed c .start)).state.seeded = true := seeded
    refine Discipline.ensures_bind.2 (Discipline.ensures_outcome.2 ?_)
    refine Discipline.ensures_bind.2 (Discipline.ensures_look.2 fun _ => ?_)
    dsimp only
    rw [seeded]
    refine turn.ensures_cycleAlone.mono fun r w' _ => ?_
    refine Discipline.ensures_bind.2 (Discipline.ensures_change.2 fun holds => ?_)
    exact leads_of_leavesAnswers holds rfl rfl trivial

end HasTurn

/-! ## Runs -/

variable {settings : Settings}

theorem comesSeeded_of_ne {α : Type} {f : α → Result} (other : ∀ a system, f a ≠ .system system)
    (r : Except Fault α) (w : World σ) : ComesSeeded (r.map f) w := by
  intro system heq
  cases r with
  | error e => cases heq
  | ok a => exact absurd (Except.ok.inj heq) (other a system)

theorem isKept_earnings (settings : Settings) :
    (earnings : Discipline σ).IsKept settings := by
  intro c op w new holds _ obeys
  refine ⟨holds.always.began c op, ?_⟩
  refine Discipline.Ensures.mono (?_ : earnings.Ensures c _ ComesSeeded _)
    fun r w seeded holds _ => ⟨holds.always.ended seeded, trivial⟩
  have turn : HasTurn c w.state.current w.state.log (w.after (.began c op)) :=
    ⟨⟨op, .began new⟩, rfl, rfl⟩
  have first := obeys.1.2.2
  cases op with
  | search =>
      rw [holds.always.fresh first] at turn
      exact (Discipline.ensures_map _).2 turn.ensures_search
  | answer text =>
      refine (Discipline.ensures_map _).2 ((turn.ensures_answer text).mono fun r w _ => ?_)
      exact comesSeeded_of_ne nofun r w
  | answerMentions =>
      refine (Discipline.ensures_map _).2 (turn.ensures_answerMentions.mono fun r w _ => ?_)
      exact comesSeeded_of_ne nofun r w
  | cycle =>
      have seeded : (w.after (.began c .cycle)).state.seeded = true := holds.always.seeded first
      refine (Discipline.ensures_map _).2 ((turn.ensures_cycle seeded).mono fun r w _ => ?_)
      exact comesSeeded_of_ne nofun r w

theorem obeys_earnings {h : List (Event σ)} (proper : Obeys Event.IsProper h)
    (turns : Obeys Event.TakesTurn h) (searches : Obeys Event.SearchesFirst h) :
    Obeys earnings.assumed h := by
  induction h with
  | nil => trivial
  | cons e h ih =>
      exact ⟨⟨proper.1, turns.1, searches.1⟩, ih proper.2 turns.2 searches.2⟩

/-- If calls take turns, only the first one searches, and a cycle begins only after that search
has come to a rule system, the log holds answers of the current rule system at every moment, and
every rule system that was scored gave all the answers that it was scored by. -/
theorem Reaches.earned {lastMention : Json} {source : σ} {m : Moment σ}
    (reaches : Reaches settings (.initial settings lastMention source) m)
    (turns : Obeys Event.TakesTurn m.world.history)
    (searches : Obeys Event.SearchesFirst m.world.history) :
    m.world.state.log.IsAnsweredBy m.world.state.current ∧
      ∀ c system log r, .answered c (.score system log) r ∈ m.world.history →
        log.IsAnsweredBy system := by
  have start : World.IsEarned (⟨.initial settings lastMention source, []⟩ : World σ) :=
    ⟨fun _ => rfl, nofun, .nil, nofun⟩
  have earned := ((isKept_earnings settings).reaches start trivial reaches
    (obeys_earnings reaches.isProper.history turns searches)).holds.always
  exact ⟨earned.logged, earned.scored⟩

instance Event.decidableSearchesFirst (h : List (Event σ)) :
    (e : Event σ) → Decidable (e.SearchesFirst h)
  | .began _ .search => inferInstanceAs (Decidable (h = []))
  | .began _ .cycle => inferInstanceAs (Decidable (hasFound h = true))
  | .began _ (.answer _) => inferInstanceAs (Decidable (h ≠ []))
  | .began _ .answerMentions => inferInstanceAs (Decidable (h ≠ []))
  | .changed _ _ => .isTrue trivial
  | .answered _ _ _ => .isTrue trivial
  | .ended _ _ => .isTrue trivial

instance Obeys.decidable {law : List (Event σ) → Event σ → Prop} [∀ h e, Decidable (law h e)] :
    (h : List (Event σ)) → Decidable (Obeys law h)
  | [] => .isTrue trivial
  | e :: h => @instDecidableAnd (law h e) (Obeys law h) _ (Obeys.decidable h)

/-- A channel that can be reached once a cycle was given up. -/
def recoveringChannel : Surroundings Tape where
  publish h _ := if (toldDeferred h).isEmpty then .error (.unreachable []) else .ok ()

/-- A bot that answers before and after a cycle that is given up and one that is completed. -/
def rescoredBot : World Tape :=
  World.calls ⟨[], 1, 0, 0, {}⟩ recoveringChannel
    [.search, .answer (some ['a']), .cycle, .answer (some ['b']), .cycle, .answer (some ['c'])]
    ⟨.initial ⟨[], 1, 0, 0, {}⟩ .null ⟨[], 0⟩, []⟩

/-- The log of the cycle that was given up is scored again with what came after it. -/
theorem earned_rescoredBot :
    toldDeferred rescoredBot.history = [8] ∧ rescoredBot.state.cycles = 1 ∧
      rescoredBot.state.log.map Interaction.text = [some ['c']] ∧
      Obeys Event.TakesTurn rescoredBot.history ∧ Obeys Event.SearchesFirst rescoredBot.history ∧
      rescoredBot.state.log.IsAnsweredBy rescoredBot.state.current ∧
      ∀ c system log r, .answered c (.score system log) r ∈ rescoredBot.history →
        log.IsAnsweredBy system := by
  obtain ⟨waiting, reaches⟩ : ∃ waiting,
      Reaches ⟨[], 1, 0, 0, {}⟩ (.initial ⟨[], 1, 0, 0, {}⟩ .null ⟨[], 0⟩)
        ⟨rescoredBot, none, waiting⟩ :=
    reaches_calls (.start _) recoveringChannel _ .refl
  have turns : Obeys Event.TakesTurn rescoredBot.history :=
    World.obeys_calls ⟨fun _ _ _ => trivial, fun _ _ _ => trivial, fun _ _ _ => trivial⟩
      (fun _ _ idle => idle.idle) _ (.start _) trivial
  have searches : Obeys Event.SearchesFirst rescoredBot.history := by decide +kernel
  have earned := Reaches.earned reaches turns searches
  exact ⟨by decide +kernel, by decide +kernel, by decide +kernel, turns, searches, earned⟩

end Bot

end Mycelium
