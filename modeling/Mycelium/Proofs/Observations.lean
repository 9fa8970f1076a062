import Mycelium.Proofs.Dealings
import Mycelium.Proofs.Posts

/-!
# What cycles observe

A cycle publishes a message, looks at the posts under the hashtag, and has the next rule system
bred from what it has observed there.  `Reaches.observes` says what that is: of every post
that was found the scored system that its plain text holds, unless this text is the message
that the same cycle has published.

So a message without tags and character references is never observed by the cycle that has
published it.  Nothing else keeps a bot from observing what it has published itself.
-/

namespace Mycelium

namespace Publication

theorem message_ofScore_ne_nil (s : RuleSystem) (fitness : Float) (hashtag : Text) :
    (ofScore s fitness hashtag).message ≠ [] := by
  have hintroduction : fitnessIntroduction ≠ [] := by decide
  simp [ofScore, ofText, hintroduction]

/-- A publication says what it publishes. -/
theorem eq_ofScore {s : RuleSystem} {fitness : Float} {hashtag : Text} {limit : Int}
    {p : Publication} (h : forChannel? s fitness hashtag limit = some p) :
    p = ofScore p.system fitness hashtag := by
  obtain ⟨q, hq, rfl⟩ := Option.map_eq_some_iff.1 h
  split
  · rfl
  · exact ofText_system hq

end Publication

namespace Bot

variable {σ : Type} {s : State σ} {c : Nat} {e : Event σ} {h : List (Event σ)} {w : World σ}

/-! ## The state along a history -/

/-- The state after the events of a history. -/
def State.replayed (s : State σ) : List (Event σ) → State σ
  | [] => s
  | e :: h => (World.after ⟨s.replayed h, h⟩ e).state

/-- What a cycle has observed that is completed next: the posts that it has found, and what
each of them has given.  What has happened before the engine was asked is told apart. -/
structure Observes (settings : Settings) (s : State σ) (c : Nat) (published : Scored)
    (next : RuleSystem) (source : σ) (h asked : List (Event σ)) (own : Text)
    (found : List (Except Fault Post)) (seen : List (Option Scored)) : Prop where
  /-- The message that the cycle has published. -/
  message : own = (Publication.ofScore published.system published.fitness settings.hashtag).message
  /-- The posts were looked at after it had been published. -/
  looked : ∃ before, asked = .changed c (.enter .evolving) ::
      .answered c (.candidates settings.hashtag settings.candidateLimit) (.ok found) :: before ∧
    .answered c (.publish own) (.ok ()) ∈ before
  /-- Each of them has given a scored system or nothing. -/
  gives : given own found = .ok seen
  /-- A marked-up text has given what its plain text holds, unless this is the message.  A text
  without tags and character references is its own plain text. -/
  texts : ∀ (i : Nat) (q : Text), found[i]? = some (.ok ⟨.str q⟩) →
    ∃ t, Markup.plainText q = .ok t ∧ ('<' ∉ q → '&' ∉ q → t = q) ∧ seen[i]? =
      some (if Text.strip t = Text.strip own then none else Program.observation? .usual t)
  /-- The next rule system is bred from what the posts have given.  While the engine is asked only
  other calls go on. -/
  bred : ∃ between, (∀ e ∈ between, e.call ≠ c) ∧
    h = .answered c (.breed published (s.replayed asked).lineage.items seen.reduceOption
      (s.replayed asked).source) (.ok next, source) :: (between ++ asked)

/-- A cycle is completed only if it has observed posts. -/
def Event.CompletesObserved (settings : Settings) (s : State σ)
    (h : List (Event σ)) : Event σ → Prop
  | .changed c (.complete published next _ source) =>
      ∃ asked own found seen, Observes settings s c published next source h asked own found seen
  | _ => True

/-- The state is what the history has made of it, and every completed cycle has observed posts. -/
structure World.HasObserved (settings : Settings) (s : State σ) (w : World σ) :
    Prop where
  replayed : w.state = s.replayed w.history
  observed : Obeys (Event.CompletesObserved settings s) w.history

/-- The discipline of the observations. -/
def observing (settings : Settings) (s : State σ) : Discipline σ where
  assumed := fun h e => e.IsProper h
  always := World.HasObserved settings s
  settled _ := True

variable {settings : Settings}

theorem World.HasObserved.after (observed : w.HasObserved settings s)
    (completes : e.CompletesObserved settings s w.history) :
    (w.after e).HasObserved settings s where
  replayed := by
    show (World.after ⟨w.state, w.history⟩ e).state = _
    rw [observed.replayed]
    rfl
  observed := ⟨completes, observed.observed⟩

theorem completesObserved_of_none (none : e.completion? = .none) (h : List (Event σ)) :
    e.CompletesObserved settings s h := by
  cases e with
  | changed d ch =>
      cases ch with
      | complete => cases none
      | _ => trivial
  | _ => trivial

theorem leads_of_none {k : World σ → Prop} (holds : (observing settings s).Holds w)
    (none : e.completion? = .none) (hk : k (w.after e)) : (observing settings s).Leads w e k :=
  fun _ => ⟨holds.always.after (completesObserved_of_none none _), hk⟩

/-- A session that completes no cycle. -/
theorem ensures_of_uncompleting {α : Type} {t : Session σ α} {kind : Prompt σ → Prop}
    (asks : t.Asks kind) (uncompleting : ∀ published next n source,
      ¬ kind (.change (.complete published next n source))) :
    (observing settings s).Ensures c t (fun _ _ => True) w := by
  refine (Discipline.ensures_of_asks (P := fun _ => True) (fun _ _ _ _ _ _ => trivial) ?_ asks
    trivial trivial).mono fun _ _ _ => trivial
  intro w e q _ asked hkind holds _ _
  refine leads_of_none holds ?_ ⟨trivial, trivial⟩
  cases e with
  | changed d ch =>
      cases asked
      cases ch with
      | complete => exact absurd hkind (uncompleting _ _ _ _)
      | _ => rfl
  | _ => rfl

/-! ## Cycles -/

theorem ensures_uncompleting_change {ch : Change σ} {post : Except Fault Unit → World σ → Prop}
    (none : (Event.changed c ch).completion? = .none)
    (next : post (.ok ()) (w.after (.changed c ch))) :
    (observing settings s).Ensures c (.change ch) post w :=
  Discipline.ensures_change.2 fun holds => leads_of_none holds none next

/-- The call gets an answer, before which other calls may go on. -/
theorem keeps_put_observing (q : Prompt σ) (out : q.isOutside) {P : World σ → Prop}
    (stable : ∀ w e, e.call ≠ c → P w → P (w.after e)) (now : P w)
    {post : q.Answer → World σ → Prop}
    (answered : ∀ w' r, P w' → post r (w'.after (.answered c q r))) :
    (observing settings s).Keeps c post (Dialogue.put q) w := by
  refine (Discipline.keeps_put q out).2 fun _ => ?_
  refine ⟨trivial, P, now, fun w e other _ _ => stable w e other, fun w' r holds _ hP => ?_⟩
  exact leads_of_none holds rfl (answered w' r hP)

/-- Since some events only other calls have gone on. -/
def Meanwhile (c : Nat) (asked : List (Event σ)) (w : World σ) : Prop :=
  ∃ between, (∀ e ∈ between, e.call ≠ c) ∧ w.history = between ++ asked

theorem Meanwhile.nil (c : Nat) (w : World σ) : Meanwhile c w.history w := ⟨[], nofun, rfl⟩

theorem Meanwhile.after {asked : List (Event σ)} (w : World σ) (e : Event σ) (other : e.call ≠ c)
    (meanwhile : Meanwhile c asked w) : Meanwhile c asked (w.after e) := by
  obtain ⟨between, others, heq⟩ := meanwhile
  exact ⟨e :: between, List.forall_mem_cons.2 ⟨other, others⟩, congrArg (e :: ·) heq⟩

/-- A message is published, posts are looked at, and each of them gives a scored system or
nothing. -/
theorem ensures_exchange_observing (own : Text) :
    (observing settings s).Ensures c (do
      Session.publish own
      scrape settings own) (fun r w => ∀ others, r = .ok others → ∃ found seen before,
        w.history = .answered c (.candidates settings.hashtag settings.candidateLimit)
          (.ok found) :: before ∧ .answered c (.publish own) (.ok ()) ∈ before ∧
        given own found = .ok seen ∧ others = seen.reduceOption) w := by
  refine Discipline.ensures_bind.2 ?_
  refine keeps_put_observing (P := fun _ => True) (.publish own) rfl (fun _ _ _ _ => trivial)
    trivial fun w r _ => ?_
  cases r with
  | error f => exact nofun
  | ok u =>
      refine Discipline.ensures_bind.2 ?_
      refine keeps_put_observing (.candidates _ _) rfl
        (P := fun w => .answered c (.publish own) (.ok ()) ∈ w.history)
        (fun w e _ => List.mem_cons_of_mem e) List.mem_cons_self fun w r published => ?_
      cases r with
      | error f => exact nofun
      | ok found =>
          dsimp only
          rw [observations_eq]
          rintro others heq
          cases hseen : given own found with
          | error f =>
              rw [hseen] at heq
              cases heq
          | ok seen =>
              rw [hseen] at heq
              cases heq
              exact ⟨found, seen, w.history, rfl, published, hseen, rfl⟩

theorem ensures_cycleAlone_observing :
    (observing settings s).Ensures c (cycleAlone settings) (fun _ _ => True) w := by
  refine Discipline.ensures_bind.2 (Discipline.ensures_look.2 fun _ => ?_)
  refine Discipline.ensures_bind.2 (ensures_uncompleting_change rfl ?_)
  refine Discipline.ensures_bind.2 ?_
  refine keeps_put_observing (P := fun _ => True) (.score _ _) rfl (fun _ _ _ _ => trivial) trivial
    fun w' r _ => ?_
  cases r with
  | error f => trivial
  | ok fitness =>
      refine Discipline.ensures_bind.2 (ensures_uncompleting_change rfl ?_)
      refine Discipline.ensures_bind.2 (ensures_uncompleting_change rfl ?_)
      dsimp only
      split
      · next p hp =>
          refine Discipline.ensures_bind.2 (Discipline.ensures_outcome.2 ?_)
          refine (ensures_exchange_observing p.message).mono fun others w h => ?_
          cases others with
          | error f =>
              dsimp only
              split
              · exact Discipline.ensures_bind.2 (ensures_uncompleting_change rfl trivial)
              · trivial
          | ok others =>
              obtain ⟨found, seen, before, hhistory, published, hseen, rfl⟩ := h others rfl
              refine Discipline.ensures_bind.2 (ensures_uncompleting_change rfl ?_)
              refine Discipline.ensures_bind.2 (Discipline.ensures_look.2 fun holds => ?_)
              have hreplayed := holds.always.replayed
              rw [World.after_history] at hreplayed
              refine Discipline.ensures_bind.2 ?_
              -- while the engine is asked other calls add to the history
              refine keeps_put_observing (.breed _ _ _ _) rfl (P := Meanwhile c _) Meanwhile.after
                (Meanwhile.nil _ _) fun w' bred meanwhile => ?_
              obtain ⟨f | next, source⟩ := bred
              · exact Discipline.ensures_bind.2 (ensures_uncompleting_change rfl trivial)
              · obtain ⟨between, others, hbetween⟩ := meanwhile
                rw [World.after_history] at hbetween
                refine Discipline.ensures_bind.2 (Discipline.ensures_change.2 fun holds _ => ?_)
                refine ⟨holds.always.after ⟨.changed c (.enter .evolving) :: w.history, p.message,
                  found, seen, ?_⟩, fun _ => trivial⟩
                have hown : p.message =
                    (Publication.ofScore p.system fitness settings.hashtag).message :=
                  congrArg Publication.message (Publication.eq_ofScore hp)
                exact {
                  message := hown
                  looked := ⟨before, congrArg _ hhistory, published⟩
                  gives := hseen
                  texts := fun _ _ => text_of_given
                    (hown ▸ Publication.message_ofScore_ne_nil _ _ _) hseen
                  bred := ⟨between, others, by rw [← hreplayed, ← hbetween]; rfl⟩ }
      · trivial

theorem ensures_cycle_observing :
    (observing settings s).Ensures c (cycle settings) (fun _ _ => True) w := by
  refine Discipline.ensures_bind.2 (Discipline.ensures_look.2 fun _ => ?_)
  dsimp only
  split
  · trivial
  · refine Discipline.ensures_bind.2 (ensures_uncompleting_change rfl ?_)
    refine Discipline.ensures_bind.2 (Discipline.ensures_outcome.2 ?_)
    suffices hinside : (observing settings s).Ensures c (do
        if !(← Session.look).seeded then
          let _ ← search settings
        cycleAlone settings) (fun _ _ => True) (w.after (.changed c .start)) from
      hinside.mono fun r w _ =>
        Discipline.ensures_bind.2 (ensures_uncompleting_change rfl trivial)
    refine Discipline.ensures_bind.2 (Discipline.ensures_look.2 fun _ => ?_)
    dsimp only
    split
    · refine Discipline.ensures_bind.2 ?_
      refine (ensures_of_uncompleting (asks_search settings fun _ hq => hq) nofun).mono ?_
      rintro (f | r) w -
      · trivial
      · exact ensures_cycleAlone_observing
    · exact ensures_cycleAlone_observing

/-! ## Runs -/

theorem isKept_observing (settings : Settings) (s : State σ) :
    (observing settings s).IsKept settings := by
  have ends {r : Except Fault Result} {w : World σ} {c : Nat} :
      (observing settings s).Ends c r w := fun holds => leads_of_none holds rfl trivial
  intro c op w _ holds _
  refine leads_of_none holds rfl ?_
  by_cases hop : op = .cycle
  · subst hop
    exact (Discipline.ensures_map _).2 (ensures_cycle_observing.mono fun _ _ _ => ends)
  · refine (ensures_of_uncompleting (op.asks_session settings) ?_).mono fun _ _ _ => ends
    intro published next n source may
    cases op with
    | cycle => exact hop rfl
    | _ => cases may

theorem Observes.run_evolved [RandomSource σ] {published : Scored} {next : RuleSystem} {source : σ}
    {asked : List (Event σ)} {own : Text} {found : List (Except Fault Post)}
    {seen : List (Option Scored)}
    (observes : Observes settings s c published next source h asked own found seen)
    (obeys : Obeys (Event.BredByOwn settings.rates) h) :
    (Breeding.evolved settings.rates published (s.replayed asked).lineage.items
      seen.reduceOption).run (s.replayed asked).source = (next, source) := by
  obtain ⟨between, -, rfl⟩ := observes.bred
  obtain heq | ⟨f, hf⟩ := obeys.1
  · cases heq
    rfl
  · cases hf

/-- In every run, a completed cycle has observed what the posts hold that it has found, but not
those whose plain text is the message that it has published.  The engine has bred the next rule
system from that, and the bot's own engine does so in the known way. -/
theorem Reaches.observes [RandomSource σ] {m : Moment σ} (reaches : Reaches settings s m)
    {c n : Nat} {published : Scored} {next : RuleSystem} {source : σ}
    {later earlier : List (Event σ)} (completes : m.world.history =
      later ++ .changed c (.complete published next n source) :: earlier) :
    ∃ asked own found seen,
      Observes settings s c published next source earlier asked own found seen ∧
      (m.world.HasOwnEngine settings.rates →
        (Breeding.evolved settings.rates published (s.replayed asked).lineage.items
          seen.reduceOption).run (s.replayed asked).source = (next, source)) := by
  have start : World.HasObserved settings s (⟨s, []⟩ : World σ) := ⟨rfl, trivial⟩
  have governs := (isKept_observing settings s).reaches start trivial reaches
    reaches.isProper.history
  have hobserved := governs.holds.always.observed
  rw [completes] at hobserved
  obtain ⟨asked, own, found, seen, observes⟩ := hobserved.at_split
  refine ⟨asked, own, found, seen, observes, fun has => observes.run_evolved ?_⟩
  have hobeys := has.obeys
  rw [completes] at hobeys
  exact hobeys.earlier.2

/-- The messages that were published, the latest one first. -/
def publications (h : List (Event σ)) : List Text :=
  h.filterMap fun
    | .answered _ (.publish message) (.ok _) => some message
    | _ => none

/-- How many systems the completed cycles have observed, the latest one first. -/
def observedCounts (h : List (Event σ)) : List Nat :=
  h.filterMap fun
    | .ended _ (.ok (.report (.completed _ _ _ others _))) => some others
    | _ => none

/-- A channel on which nobody else publishes. -/
def echoChannel : Surroundings Tape where
  candidates h := .ok ((publications h).map fun message => .ok ⟨.str message⟩)

/-- A channel on which another bot has published a program. -/
def foreignChannel : Surroundings Tape where
  candidates _ := .ok [.ok ⟨.str "FUNGISTART RULE:a|RESPONSE:1 &#38;#60; 2 FUNGIEND".toList⟩]

/-- The state of a bot that has not done anything. -/
def unsearchedBot : State Tape := .initial ⟨[], 1, 0, 0, {}⟩ .null ⟨[], 0⟩

/-- A bot that has adopted the program of another one, and publishes it. -/
def markedCycle : World Tape :=
  World.calls ⟨[], 1, 0, 0, {}⟩ echoChannel [.cycle]
    (World.calls ⟨[], 1, 0, 0, {}⟩ foreignChannel [.search] ⟨unsearchedBot, []⟩)

theorem reaches_markedCycle : ∃ waiting,
    Reaches ⟨[], 1, 0, 0, {}⟩ unsearchedBot ⟨markedCycle, none, waiting⟩ := by
  obtain ⟨_, searched⟩ := reaches_calls (.start _) foreignChannel [.search] .refl
  exact reaches_calls ((World.IsIdle.start _).calls _ _ _) echoChannel _ searched

/-- A message with a character reference is observed by the cycle that has published it. -/
theorem observes_markedCycle : ∃ later c published next n source earlier,
    markedCycle.history = later ++ .changed c (.complete published next n source) :: earlier ∧
      ∃ asked own found seen,
        Observes ⟨[], 1, 0, 0, {}⟩ unsearchedBot c published next source earlier asked own found
          seen ∧
        (Breeding.evolved {} published (unsearchedBot.replayed asked).lineage.items
          seen.reduceOption).run (unsearchedBot.replayed asked).source = (next, source) := by
  obtain ⟨_, reaches⟩ := reaches_markedCycle
  have hcompleted : 0 < (completed markedCycle.history).length := by decide +kernel
  obtain ⟨⟨c, x⟩, hx⟩ := List.exists_mem_of_length_pos hcompleted
  obtain ⟨published, next, n, source, hmem⟩ := hasCompleted_iff.2 ⟨x, hx⟩
  obtain ⟨later, earlier, heq⟩ := List.append_of_mem hmem
  have searched : World.HasOwnEngine {}
      (World.calls ⟨[], 1, 0, 0, {}⟩ foreignChannel [.search] ⟨unsearchedBot, []⟩) :=
    .calls (fun _ => rfl) _ (.start _) (.start _)
  have bred : markedCycle.HasOwnEngine {} :=
    .calls (fun _ => rfl) _ ((World.IsIdle.start _).calls _ _ _) searched
  generalize markedCycle = w at reaches bred heq
  obtain ⟨asked, own, found, seen, observes, hown⟩ := Reaches.observes reaches heq
  exact ⟨later, c, published, next, n, source, earlier, heq, asked, own, found, seen, observes,
    hown bred⟩

/-- A bot that has completed two cycles and published two messages. -/
def echoedCycles : World Tape :=
  World.calls ⟨[], 1, 0, 0, {}⟩ echoChannel [.cycle, .cycle] ⟨unsearchedBot, []⟩

/-- Although nobody else has published in these cycles, one of them observes the message of the
cycle before, and one observes its own message. -/
theorem observes_own_publications :
    (∃ waiting, Reaches ⟨[], 1, 0, 0, {}⟩ unsearchedBot ⟨echoedCycles, none, waiting⟩) ∧
      observedCounts echoedCycles.history = [1, 0] ∧
      (∃ waiting, Reaches ⟨[], 1, 0, 0, {}⟩ unsearchedBot ⟨markedCycle, none, waiting⟩) ∧
      observedCounts markedCycle.history = [1] := by
  refine ⟨?_, by decide +kernel, reaches_markedCycle, by decide +kernel⟩
  exact reaches_calls (.start _) echoChannel [.cycle, .cycle] .refl

end Bot

end Mycelium
