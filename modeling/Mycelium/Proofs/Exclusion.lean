import Mycelium.Proofs.Alone
import Mycelium.Proofs.Lock
import Mycelium.Random.Generator

/-!
# One cycle at a time

A cycle that is called for while another one goes on does nothing but say so, and one that
is called for while none goes on is never told so, however the calls before it have ended
(`Reaches.excludesCycles`).

While no call goes on by itself, the calls of cycles that have begun and not ended are those
that hold the lock (`World.IsExclusive`), so there is at most one.  A call that finds the
bot busy ends at once; every other one takes the lock and gives it back before it ends,
whatever it comes to in between: the search, the scorer, the channel and the engine may fail.
-/

namespace Mycelium.Bot

variable {σ : Type} {c d : Nat} {e : Event σ} {h : List (Event σ)} {w : World σ}

/-- A call of a cycle has just begun while another one goes on. -/
def IsBarred (c : Nat) (h : List (Event σ)) : Prop :=
  ∃ earlier, h = .began c .cycle :: earlier ∧ ∃ d, Ongoing d .cycle earlier

/-- A call that is barred ends at once and says so, and no other call says so. -/
def Event.Excludes (h : List (Event σ)) (e : Event σ) : Prop :=
  ∀ c, IsBarred c h ↔ e = .ended c (.ok (.report .busy))

/-- The cycle that goes on is that of the call that holds the lock. -/
def World.IsExclusive (w : World σ) : Prop :=
  ∀ c, Ongoing c .cycle w.history ↔ holder w.history = some c

/-- The lock says whether the bot is busy, and cycles have excluded each other so far. -/
structure World.HasExcluded (w : World σ) : Prop where
  locked : w.IsLocked
  busy : w.state.busy = (holder w.history).isSome
  excludes : Obeys Event.Excludes w.history

/-- The discipline of the lock. -/
def exclusion : Discipline σ where
  assumed := fun h e => e.IsProper h
  always := World.HasExcluded
  settled := World.IsExclusive

theorem ongoing_cons_iff {q : Prompt σ} (asked : e.prompt? = some q) {op : Operation} :
    Ongoing c op (e :: h) ↔ Ongoing c op h := by
  constructor
  · intro ongoing
    rcases ongoing.of_cons with rfl | hbefore
    · cases asked
    · exact hbefore
  · refine fun ongoing => ongoing.cons fun r heq => ?_
    rw [heq] at asked
    cases asked

theorem ongoing_ended_iff {r : Except Fault Result} {op : Operation} :
    Ongoing d op (.ended c r :: h) ↔ Ongoing d op h ∧ d ≠ c := by
  constructor
  · intro ongoing
    refine ⟨ongoing.of_cons.resolve_left nofun, ?_⟩
    rintro rfl
    exact ongoing.2 r List.mem_cons_self
  · rintro ⟨ongoing, other⟩
    refine ongoing.cons fun r' heq => ?_
    cases heq
    exact other rfl

theorem ongoing_began_iff {op op' : Operation} (other : d ≠ c ∨ op ≠ op') :
    Ongoing d op (.began c op' :: h) ↔ Ongoing d op h := by
  constructor
  · intro ongoing
    rcases ongoing.of_cons with heq | hbefore
    · cases heq
      exact absurd rfl (other.resolve_left fun hne => hne rfl)
    · exact hbefore
  · exact fun ongoing => ongoing.cons nofun

theorem not_ongoing_of_new (new : ∀ e ∈ h, e.call ≠ c) (op : Operation) : ¬ Ongoing c op h :=
  fun ongoing => new _ ongoing.1 rfl

theorem busy_after (busy : w.state.busy = (holder w.history).isSome) (e : Event σ) :
    (w.after e).state.busy = (holder (w.after e).history).isSome := by
  cases e with
  | changed c ch =>
      cases ch with
      | start => rfl
      | stop => rfl
      | _ => exact busy
  | _ => exact busy

namespace World.IsExclusive

variable (exclusive : w.IsExclusive)
include exclusive

/-- Of two calls that go on both would hold the lock. -/
theorem not_isBarred (proper : Obeys Event.IsProper w.history) (c : Nat) :
    ¬ IsBarred c w.history := by
  rintro ⟨earlier, heq, d, ongoing⟩
  have hnew : ∀ e ∈ earlier, e.call ≠ c := (heq ▸ proper).1
  have hc : holder w.history = some c := (exclusive c).1 (heq ▸ .began hnew)
  have hd : holder w.history = some d := (exclusive d).1 (heq ▸ ongoing.cons nofun)
  obtain rfl : c = d := Option.some.inj (hc.symm.trans hd)
  exact not_ongoing_of_new hnew .cycle ongoing

theorem after {q : Prompt σ} (asked : e.prompt? = some q)
    (same : holder (e :: w.history) = holder w.history) : (w.after e).IsExclusive := by
  intro c
  rw [after_history, ongoing_cons_iff asked, same]
  exact exclusive c

/-- What a call asks for leaves the cycles exclusive if it leaves the lock so. -/
theorem leads (holds : exclusion.Holds w) {q : Prompt σ} (asked : e.prompt? = some q)
    (locked : (w.after e).IsLocked) {k : World σ → Prop} (hk : k (w.after e)) :
    exclusion.Leads w e k := by
  refine fun _ => ⟨⟨locked, busy_after holds.always.busy e, fun c => ?_, holds.always.excludes⟩, hk⟩
  refine ⟨fun barred => absurd barred (exclusive.not_isBarred holds.obeys c), ?_⟩
  rintro rfl
  cases asked

end World.IsExclusive

/-! ## How a call ends -/

/-- A call may end: it says that it is barred if it is, and does not hold the lock. -/
structure MayEnd (c : Nat) (r : Except Fault Result) (w : World σ) : Prop where
  told : ∀ d, IsBarred d w.history ↔ d = c ∧ r = .ok (.report .busy)
  released : holder w.history ≠ some c
  others : ∀ d, d ≠ c → (Ongoing d .cycle w.history ↔ holder w.history = some d)

theorem MayEnd.ends {r : Except Fault Result} (mayEnd : MayEnd c r w) :
    exclusion.Ends c r w := by
  intro holds _
  refine ⟨⟨holds.always.locked.after_of_not rfl, holds.always.busy, fun d => ?_,
    holds.always.excludes⟩, fun d => ?_⟩
  · rw [mayEnd.told d]
    constructor
    · rintro ⟨rfl, rfl⟩
      rfl
    · rintro ⟨⟩
      exact ⟨rfl, rfl⟩
  · show Ongoing d .cycle (.ended c r :: w.history) ↔ holder w.history = some d
    rw [ongoing_ended_iff]
    by_cases hdc : d = c
    · subst hdc
      exact iff_of_false (fun ongoing => ongoing.2 rfl) mayEnd.released
    · rw [mayEnd.others d hdc]
      exact and_iff_left hdc

/-- The only call that says that the bot is busy is a cycle. -/
theorem Operation.gives_session (settings : Settings) {op : Operation}
    (other : op ≠ .cycle) :
    (op.session settings : Session σ Result).Gives fun r => r ≠ .ok (.report .busy) := by
  cases op with
  | cycle => exact absurd rfl other
  | search => exact .map Result.system (Bot.search settings) nofun nofun
  | answer text => exact .map Result.response (Bot.answer text) nofun nofun
  | answerMentions => exact .map Result.tally Bot.answerMentions nofun nofun

theorem gives_cycleAlone (settings : Settings) :
    (cycleAlone settings : Session σ Report).Gives fun r => r ≠ .ok .busy := by
  refine .bind _ nofun fun before => .bind _ nofun fun _ => .bind _ nofun fun fitness =>
    .bind _ nofun fun _ => .bind _ nofun fun _ => ?_
  split
  · refine .bind _ nofun fun others => ?_
    cases others with
    | error f =>
        dsimp only
        split
        · exact .bind _ nofun fun _ => nofun
        · exact nofun
    | ok others =>
        refine .bind _ nofun fun _ => .bind _ nofun fun _ => .bind _ nofun fun bred => ?_
        obtain ⟨f | next, source⟩ := bred
        · exact .bind _ nofun fun _ => nofun
        · exact .bind _ nofun fun _ => .bind _ nofun fun _ => nofun
  · exact nofun

/-! ## Calls -/

section Calls

variable {settings : Settings}

theorem ensures_session_exclusion {op : Operation} (other : op ≠ .cycle)
    (exclusive : w.IsExclusive) (apart : ¬ Ongoing c .cycle w.history) :
    exclusion.Ensures c (op.session settings) (exclusion.Ends c) w := by
  have stable : exclusion.Stable c fun w : World σ => ¬ Ongoing c .cycle w.history := by
    intro w e hne _ _ apart ongoing
    rcases ongoing.of_cons with rfl | hbefore
    · exact hne rfl
    · exact apart hbefore
  have hasked := Discipline.ensures_of_asks stable ?_ (op.asks_session settings) exclusive apart
  · refine (hasked.and_gives (op.gives_session settings other)).mono fun r w h => ?_
    obtain ⟨⟨exclusive, apart⟩, unsaid⟩ := h
    refine fun holds => MayEnd.ends ?_ holds
    exact {
      told := fun d => iff_of_false (exclusive.not_isBarred holds.obeys d) fun h => unsaid h.2
      released := fun hc => apart ((exclusive c).2 hc)
      others := fun d _ => exclusive d }
  · intro w e q _ asked may holds exclusive apart
    have not := isOfLock_of_mayAsk op other asked may
    refine exclusive.leads holds asked (holds.always.locked.after_of_not not) ⟨?_, ?_⟩
    · exact exclusive.after asked (holder_cons_of_not not _)
    · exact (ongoing_cons_iff asked).not.2 apart

/-- Between its start and its stop a cycle holds the lock, whatever it comes to. -/
theorem ensures_seededCycle (exclusive : w.IsExclusive) (holding : holder w.history = some c) :
    exclusion.Ensures c (do
      if !(← Session.look).seeded then
        let _ ← search settings
      cycleAlone settings) (fun r w => (w.IsExclusive ∧ holder w.history = some c) ∧
        r ≠ .ok .busy) w := by
  have stable : exclusion.Stable c fun w : World σ => holder w.history = some c :=
    fun w e hne _ after holding => holder_cons holding hne after.always.locked.respects.1
  refine Discipline.Ensures.and_gives ?_ ?_
  · refine Discipline.ensures_of_asks stable ?_
      (asks_seededCycle settings fun q hq => hq) exclusive holding
    intro w e q mine asked kind holds exclusive holding
    have hsame : holder (e :: w.history) = holder w.history ∧ (w.after e).IsLocked := by
      cases e with
      | changed d ch =>
          cases asked
          cases ch with
          | start => cases kind
          | stop => cases kind
          | complete =>
              obtain rfl : d = c := mine
              exact ⟨rfl, holds.always.locked.complete holding _ _ _ _⟩
          | _ => exact ⟨rfl, holds.always.locked.after_of_not rfl⟩
      | _ => exact ⟨rfl, holds.always.locked.after_of_not rfl⟩
    refine exclusive.leads holds asked hsame.2 ⟨exclusive.after asked hsame.1, ?_⟩
    exact hsame.1.trans holding
  · refine .bind _ nofun fun s => ?_
    dsimp only
    split
    · exact .bind _ nofun fun _ => gives_cycleAlone settings
    · exact gives_cycleAlone settings

theorem ensures_cycle_exclusion (new : ∀ e ∈ w.history, e.call ≠ c) (exclusive : w.IsExclusive) :
    exclusion.Ensures c (cycle settings) (fun r => MayEnd c (r.map .report))
      (w.after (.began c .cycle)) := by
  have hbegan : Ongoing c .cycle (.began c .cycle :: w.history) := .began new
  refine Discipline.ensures_bind.2 (Discipline.ensures_look.2 fun holds => ?_)
  dsimp only
  split
  · next busy =>
      -- the call that holds the lock goes on, so this one is barred
      obtain ⟨d₀, hd₀⟩ := Option.isSome_iff_exists.1 (holds.always.busy.symm.trans busy)
      have hgoes : Ongoing d₀ .cycle w.history := (exclusive d₀).2 hd₀
      refine ⟨fun d => ⟨?_, ?_⟩, fun hc => ?_, fun d hdc => ?_⟩
      · rintro ⟨earlier, heq, -⟩
        cases heq
        exact ⟨rfl, rfl⟩
      · rintro ⟨rfl, -⟩
        exact ⟨w.history, rfl, d₀, hgoes⟩
      · obtain rfl : d₀ = c := Option.some.inj (hd₀.symm.trans hc)
        exact not_ongoing_of_new new .cycle hgoes
      · exact (ongoing_began_iff (.inl hdc)).trans (exclusive d)
  · next idle =>
      have free : holder w.history = none := holds.always.locked.free (Bool.eq_false_iff.2 idle)
      have hnone : ∀ d, ¬ Ongoing d .cycle w.history := fun d ongoing =>
        nomatch free.symm.trans ((exclusive d).1 ongoing)
      refine Discipline.ensures_bind.2 (Discipline.ensures_change.2 fun holds _ => ?_)
      refine ⟨⟨holds.always.locked.start free, rfl, fun d => ?_, holds.always.excludes⟩, ?_⟩
      · refine iff_of_false ?_ nofun
        rintro ⟨earlier, heq, d₀, hd₀⟩
        cases heq
        exact hnone d₀ hd₀
      have started : ((w.after (.began c .cycle)).after (.changed c .start)).IsExclusive := by
        intro d
        refine (ongoing_cons_iff (e := .changed c .start) rfl).trans ⟨fun ongoing => ?_, ?_⟩
        · rcases ongoing.of_cons with heq | hbefore
          · cases heq
            rfl
          · exact absurd hbefore (hnone d)
        · rintro ⟨⟩
          exact hbegan
      refine Discipline.ensures_bind.2 (Discipline.ensures_outcome.2 ?_)
      refine (ensures_seededCycle started rfl).mono fun r w h => ?_
      obtain ⟨⟨exclusive, holding⟩, unsaid⟩ := h
      refine Discipline.ensures_bind.2 (Discipline.ensures_change.2 fun holds => ?_)
      refine exclusive.leads holds rfl (holds.always.locked.stop holding) ?_
      refine ⟨fun d => iff_of_false nofun fun h => unsaid ?_, nofun, fun d hdc => ?_⟩
      · cases r with
        | error f => cases h.2
        | ok report =>
            cases h.2
            rfl
      · refine (ongoing_cons_iff (e := .changed c .stop) rfl).trans (iff_of_false ?_ nofun)
        intro ongoing
        exact hdc (Option.some.inj (((exclusive d).1 ongoing).symm.trans holding))

theorem isKept_exclusion (settings : Settings) : (exclusion : Discipline σ).IsKept settings := by
  intro c op w new holds exclusive obeys
  refine ⟨⟨holds.always.locked.after_of_not rfl, holds.always.busy, fun d => ?_,
    holds.always.excludes⟩, ?_⟩
  · exact iff_of_false (exclusive.not_isBarred holds.obeys d) nofun
  · by_cases hop : op = .cycle
    · subst hop
      refine (Discipline.ensures_map _).2 ((ensures_cycle_exclusion new exclusive).mono ?_)
      exact fun r w mayEnd => mayEnd.ends
    · refine ensures_session_exclusion hop (fun d => ?_) ?_
      · exact (ongoing_began_iff (.inr fun heq => hop heq.symm)).trans (exclusive d)
      · refine (ongoing_began_iff (.inr fun heq => hop heq.symm)).not.2 ?_
        exact not_ongoing_of_new new .cycle

end Calls

/-! ## Runs -/

/-- Nothing happens in a call that has ended. -/
theorem call_ne_of_ended {later : List (Event σ)} {r : Except Fault Result}
    (proper : Obeys Event.IsProper (later ++ .ended c r :: h)) : ∀ e ∈ later, e.call ≠ c := by
  intro e he heq
  obtain ⟨after, before, rfl⟩ := List.append_of_mem he
  rw [List.append_assoc] at proper
  have hproper : e.IsProper (before ++ .ended c r :: h) := proper.at_split
  have hended : .ended c r ∈ before ++ .ended c r :: h :=
    List.mem_append_right _ List.mem_cons_self
  cases e with
  | began d op => exact hproper _ hended heq.symm
  | _ =>
      obtain ⟨op, ongoing, -⟩ := hproper
      exact ongoing.2 r (heq ▸ hended)

/-- A call begins once. -/
theorem eq_nil_of_began {later earlier : List (Event σ)} {op op' : Operation}
    (proper : Obeys Event.IsProper (later ++ .began c op :: earlier))
    (heq : later ++ .began c op :: earlier = .began c op' :: h) : later = [] := by
  cases later with
  | nil => rfl
  | cons e later =>
      obtain ⟨rfl, rfl⟩ := List.cons.inj heq
      exact absurd rfl (proper.1 _ (List.mem_append_right _ List.mem_cons_self))

variable [RandomSource σ]

/-- Cycles exclude each other. -/
structure Moment.ExcludesCycles (settings : Settings) (m : Moment σ) : Prop where
  /-- A cycle that began while another one went on has been told so, which is the next event
  after it began and the last one of its call. -/
  barred : ∀ c later earlier, m.world.history = later ++ .began c .cycle :: earlier →
    (∃ d, Ongoing d .cycle earlier) →
      (later = [] ∧ m.running ≠ none) ∨
        ∃ rest, later = rest ++ [.ended c (.ok (.report .busy))] ∧ ∀ e ∈ rest, e.call ≠ c
  /-- A cycle that began while no other one went on has not been told so. -/
  admitted : ∀ c later earlier, m.world.history = later ++ .began c .cycle :: earlier →
    (∀ d, ¬ Ongoing d .cycle earlier) → .ended c (.ok (.report .busy)) ∉ later
  /-- While a cycle goes on, a call of another one begins and is told so, whatever the
  surroundings are. -/
  refuses : m.running = none → (∃ d, Ongoing d .cycle m.world.history) →
    ∀ c surroundings, m.world.call settings surroundings c .cycle =
      (m.world.after (.began c .cycle)).after (.ended c (.ok (.report .busy)))

theorem World.call_cycle_of_busy (settings : Settings) (surroundings : Surroundings σ) (c : Nat)
    (busy : w.state.busy = true) :
    w.call settings surroundings c .cycle =
      (w.after (.began c .cycle)).after (.ended c (.ok (.report .busy))) := by
  show World.rest surroundings c
    (ExceptT.run (Result.report <$> (if w.state.busy then pure .busy else _ : Session σ Report)))
    (w.after (.began c .cycle)) = _
  rw [if_pos busy]
  rfl

/-- In every run cycles exclude each other, whatever their calls come to, and whichever of the
collaborators fails in them. -/
theorem Reaches.excludesCycles {settings : Settings} {s : State σ} (free : s.busy = false)
    {m : Moment σ} (reaches : Reaches settings s m) :
    m.ExcludesCycles settings := by
  have proper := reaches.isProper.history
  have start : World.HasExcluded (⟨s, []⟩ : World σ) :=
    ⟨⟨fun _ => rfl, trivial⟩, free, trivial⟩
  have settled : World.IsExclusive (⟨s, []⟩ : World σ) := fun c =>
    iff_of_false (fun ongoing => absurd ongoing.1 List.not_mem_nil) nofun
  have governs := (isKept_exclusion settings).reaches start settled reaches proper
  refine ⟨fun c later earlier heq going => ?_, fun c later earlier heq alone hended => ?_, ?_⟩
  · rw [heq] at proper
    rcases List.eq_nil_or_concat later with rfl | ⟨rest, e, rfl⟩
    · refine .inl ⟨rfl, fun hnone => ?_⟩
      exact (governs.settled hnone).not_isBarred reaches.isProper.history c ⟨earlier, heq, going⟩
    · rw [List.concat_append] at heq proper
      have hlaw : e.Excludes (.began c .cycle :: earlier) := by
        have hexcludes := governs.holds.always.excludes
        rw [heq] at hexcludes
        exact hexcludes.at_split
      obtain rfl := (hlaw c).1 ⟨earlier, rfl, going⟩
      exact .inr ⟨rest, List.concat_eq_append, call_ne_of_ended proper⟩
  · obtain ⟨after, before, rfl⟩ := List.append_of_mem hended
    rw [List.append_assoc] at heq
    have hexcludes := governs.holds.always.excludes
    rw [heq] at hexcludes proper
    obtain ⟨earlier', hbegan, d, going⟩ := (hexcludes.at_split c).2 rfl
    obtain rfl := eq_nil_of_began proper.earlier.2 hbegan
    cases hbegan
    exact alone d going
  · rintro hnone ⟨d, going⟩ c surroundings
    refine World.call_cycle_of_busy settings surroundings c ?_
    rw [governs.holds.always.busy, ((governs.settled hnone) d).1 going]
    rfl

/-- The calls that were told that the bot is busy, the latest one first. -/
def toldBusy (h : List (Event σ)) : List Nat :=
  h.filterMap fun
    | .ended c (.ok (.report .busy)) => some c
    | _ => none

/-- The faults that calls ended with, the latest one first. -/
def faults (h : List (Event σ)) : List Fault :=
  h.filterMap fun
    | .ended _ (.error f) => some f
    | _ => none

/-- A bot that has its first rule system. -/
def seededBot : World Tape :=
  World.calls ⟨[], 1, 0, 0, {}⟩ {} [.search] ⟨.initial ⟨[], 1, 0, 0, {}⟩ .null ⟨[], 0⟩, []⟩

theorem reaches_seededBot : ∃ waiting,
    Reaches ⟨[], 1, 0, 0, {}⟩ (.initial ⟨[], 1, 0, 0, {}⟩ .null ⟨[], 0⟩)
      ⟨seededBot, none, waiting⟩ :=
  reaches_calls (.start _) {} _ .refl

/-- A cycle, and another one that is called for while the scorer is asked. -/
def nestedCycles : World Tape := seededBot.callInside ⟨[], 1, 0, 0, {}⟩ {} .cycle .cycle

/-- An engine that fails. -/
def brokenEngine : Surroundings Tape where
  breed _ _ _ _ source := (.error (.failed .runtime "no rule system".toList), source)

/-- A cycle in which the engine fails, and another one after it. -/
def brokenCycle : World Tape :=
  (seededBot.calls ⟨[], 1, 0, 0, {}⟩ brokenEngine [.cycle]).calls ⟨[], 1, 0, 0, {}⟩ {} [.cycle]

/-- A cycle that begins inside another one is told that the bot is busy, and one that begins after
the engine has failed in another one is not. -/
theorem excludesCycles_nestedCycles :
    toldBusy nestedCycles.history = [8] ∧ nestedCycles.state.cycles = 1 ∧
      faults brokenCycle.history = [.failed .runtime "no rule system".toList] ∧
      toldBusy brokenCycle.history = [] ∧ brokenCycle.state.cycles = 1 ∧
      (State.initial ⟨[], 1, 0, 0, {}⟩ .null (⟨[], 0⟩ : Tape)).busy = false ∧
      (∃ waiting, Moment.ExcludesCycles ⟨[], 1, 0, 0, {}⟩ ⟨nestedCycles, none, waiting⟩) ∧
      ∃ waiting, Moment.ExcludesCycles ⟨[], 1, 0, 0, {}⟩ ⟨brokenCycle, none, waiting⟩ := by
  obtain ⟨_, seeded⟩ := reaches_seededBot
  have idle : seededBot.IsIdle := (World.IsIdle.start _).calls _ _ _
  refine ⟨by decide +kernel, by decide +kernel, by decide +kernel, by decide +kernel,
    by decide +kernel, rfl, ?_, ?_⟩
  · obtain ⟨waiting, nested⟩ : ∃ waiting,
        Reaches ⟨[], 1, 0, 0, {}⟩ (.initial ⟨[], 1, 0, 0, {}⟩ .null ⟨[], 0⟩)
          ⟨nestedCycles, none, waiting⟩ :=
      reaches_callInside idle {} .cycle .cycle seeded
    exact ⟨waiting, Reaches.excludesCycles rfl nested⟩
  · obtain ⟨_, failed⟩ := reaches_calls idle brokenEngine [.cycle] seeded
    obtain ⟨waiting, completed⟩ : ∃ waiting,
        Reaches ⟨[], 1, 0, 0, {}⟩ (.initial ⟨[], 1, 0, 0, {}⟩ .null ⟨[], 0⟩)
          ⟨brokenCycle, none, waiting⟩ :=
      reaches_calls (idle.calls _ _ _) {} [.cycle] failed
    exact ⟨waiting, Reaches.excludesCycles rfl completed⟩

end Mycelium.Bot
