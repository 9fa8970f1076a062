import Mycelium.Proofs.Alone
import Mycelium.Proofs.Lock
import Mycelium.Random.Generator

/-!
# No interaction is lost

`recorded_eq` says that what was ever recorded is, in this order, what the completed
cycles have handed to the scorer and what is in the log.  So no interaction is lost, none
is handed over twice by completed cycles, and none leaves the log unscored.

A cycle hands the log over as it is, and at its end drops as many interactions as it
has handed over.  In between the log only grows at its end, as nobody else may complete
a cycle, so what is dropped is what was handed over.
-/

namespace Mycelium.Bot

variable {σ : Type}

/-! ## What was recorded, handed over and scored -/

/-- The interactions that were recorded, oldest first. -/
def recorded : List (Event σ) → Log
  | [] => []
  | .changed _ (.record i) :: h => recorded h ++ [i]
  | _ :: h => recorded h

/-- The interactions that a call has handed to the scorer. -/
def handed (c : Nat) : List (Event σ) → Log
  | [] => []
  | .answered d (.score _ log) _ :: h => if d = c then handed c h ++ log else handed c h
  | _ :: h => handed c h

/-- The interactions that the completed cycles have handed to the scorer. -/
def scored : List (Event σ) → Log
  | [] => []
  | .changed c (.complete _ _ _ _) :: h => scored h ++ handed c h
  | _ :: h => scored h

/-- A call has completed its cycle. -/
def HasCompleted (c : Nat) (h : List (Event σ)) : Prop :=
  ∃ published next scored source, .changed c (.complete published next scored source) ∈ h

/-- A call reports that it has completed its cycle. -/
def ReportsCompleted (r : Except Fault Result) : Prop :=
  ∃ cycle fitness interactions others rules,
    r = .ok (.report (.completed cycle fitness interactions others rules))

variable {c d : Nat} {e : Event σ} {h : List (Event σ)} {w : World σ}

theorem hasCompleted_cons (other : ∀ published next scored source,
    e ≠ .changed c (.complete published next scored source)) :
    HasCompleted c (e :: h) ↔ HasCompleted c h := by
  constructor
  · rintro ⟨published, next, scored, source, hmem⟩
    rcases List.mem_cons.1 hmem with heq | hmem
    · exact absurd heq.symm (other published next scored source)
    · exact ⟨published, next, scored, source, hmem⟩
  · rintro ⟨published, next, scored, source, hmem⟩
    exact ⟨published, next, scored, source, List.mem_cons_of_mem e hmem⟩

theorem not_completes (not : e.isOfLock = false) (d : Nat) :
    ∀ published next scored source, e ≠ .changed d (.complete published next scored source) := by
  rintro published next scored source rfl
  cases not

theorem hasCompleted_cons_of_not (not : e.isOfLock = false) :
    HasCompleted c (e :: h) ↔ HasCompleted c h :=
  hasCompleted_cons (not_completes not c)

theorem hasCompleted_cons_of_ne (other : e.call ≠ c) :
    HasCompleted c (e :: h) ↔ HasCompleted c h := by
  refine hasCompleted_cons fun published next scored source heq => ?_
  rw [heq] at other
  exact other rfl

theorem not_hasCompleted_of_new (new : ∀ e ∈ h, e.call ≠ c) : ¬ HasCompleted c h := by
  rintro ⟨published, next, scored, source, hmem⟩
  exact new _ hmem rfl

theorem handed_cons_of_ne (other : e.call ≠ c) : handed c (e :: h) = handed c h := by
  cases e with
  | answered d q r =>
      cases q with
      | score system log => exact if_neg other
      | _ => rfl
  | _ => rfl

theorem handed_of_new (new : ∀ e ∈ h, e.call ≠ c) : handed c h = [] := by
  induction h with
  | nil => rfl
  | cons e h ih =>
      rw [handed_cons_of_ne (new e List.mem_cons_self)]
      exact ih fun d hd => new d (List.mem_cons_of_mem e hd)

/-- What is no completed cycle leaves the log a start of what it becomes. -/
theorem log_isPrefix_after (other : ∀ published next scored source,
    e ≠ .changed e.call (.complete published next scored source)) :
    w.state.log <+: (w.after e).state.log := by
  cases e with
  | changed d ch =>
      cases ch with
      | record i => exact List.prefix_append _ _
      | complete published next scored source => exact absurd rfl (other _ _ _ _)
      | _ => exact List.prefix_rfl
  | _ => exact List.prefix_rfl

/-! ## What holds at every moment -/

/-- No interaction was lost since the log was a given one. -/
structure World.Balances (start : Log) (w : World σ) : Prop where
  /-- The lock is respected. -/
  locked : w.IsLocked
  /-- What was recorded was scored or is in the log. -/
  balance : start ++ recorded w.history = scored w.history ++ w.state.log
  /-- Calls report truly whether they have completed a cycle. -/
  reports : ∀ c r, .ended c r ∈ w.history → (HasCompleted c w.history ↔ ReportsCompleted r)

namespace World.Balances

variable {start : Log} (balances : w.Balances start)
include balances

/-- What neither completes a cycle nor ends a call loses nothing if the lock is
respected. -/
theorem after_of_ne (locked : (w.after e).IsLocked) (goes : ∀ r, e ≠ .ended e.call r)
    (other : ∀ published next scored source,
      e ≠ .changed e.call (.complete published next scored source)) :
    (w.after e).Balances start where
  locked := locked
  balance := by
    have hbalance := balances.balance
    cases e with
    | changed d ch =>
        cases ch with
        | record i =>
            show start ++ (recorded w.history ++ [i]) = scored w.history ++ (w.state.log ++ [i])
            rw [← List.append_assoc, hbalance, List.append_assoc]
        | complete published next scored source => exact absurd rfl (other _ _ _ _)
        | _ => exact hbalance
    | _ => exact hbalance
  reports c r hr := by
    have hcompleted : HasCompleted c (e :: w.history) ↔ HasCompleted c w.history := by
      refine hasCompleted_cons ?_
      rintro published next scored source rfl
      exact other _ _ _ _ rfl
    rw [World.after_history, hcompleted]
    rcases List.mem_cons.1 hr with rfl | hr
    · exact absurd rfl (goes r)
    · exact balances.reports c r hr

theorem after_of_not (not : e.isOfLock = false) (goes : ∀ r, e ≠ .ended e.call r) :
    (w.after e).Balances start :=
  balances.after_of_ne (balances.locked.after_of_not not) goes (not_completes not _)

/-- A call that holds the lock completes its cycle: what it has handed over leaves the
log. -/
theorem complete (holds : holder w.history = some c) (ongoing : ∀ r, .ended c r ∉ w.history)
    (starts : handed c w.history <+: w.state.log) (published : Scored) (next : RuleSystem)
    (source : σ) :
    (w.after (.changed c (.complete published next (handed c w.history).length source))).Balances
      start where
  locked := balances.locked.complete holds published next _ source
  balance := by
    obtain ⟨rest, hrest⟩ := starts
    -- the log is what was handed over and the rest, and the rest is left
    show start ++ recorded w.history =
      scored w.history ++ handed c w.history ++
        w.state.log.drop (Int.toNat (handed c w.history).length)
    rw [Int.toNat_natCast, balances.balance, ← hrest, List.drop_left, List.append_assoc]
  reports d r hr := by
    rcases List.mem_cons.1 hr with heq | hr
    · cases heq
    · refine (hasCompleted_cons_of_ne fun heq => ?_).trans (balances.reports d r hr)
      obtain rfl : c = d := heq
      exact ongoing r hr

/-- A call ends that reports truly. -/
theorem ended {r : Except Fault Result} (truly : HasCompleted c w.history ↔ ReportsCompleted r) :
    (w.after (.ended c r)).Balances start where
  locked := balances.locked.after_of_not rfl
  balance := balances.balance
  reports d r' hr := by
    rw [World.after_history, hasCompleted_cons_of_not rfl]
    rcases List.mem_cons.1 hr with heq | hr
    · cases heq
      exact truly
    · exact balances.reports d r' hr

end World.Balances

/-- The discipline of the log. -/
def interactions (start : Log) : Discipline σ where
  assumed := fun h e => e.IsProper h
  always := World.Balances start
  settled _ := True

variable {start : Log}

theorem leads_of_not {k : World σ → Prop} (holds : (interactions start).Holds w)
    (not : e.isOfLock = false) (goes : ∀ r, e ≠ .ended e.call r) (hk : k (w.after e)) :
    (interactions start).Leads w e k :=
  fun _ => ⟨holds.always.after_of_not not goes, hk⟩

/-! ## A call that is in a cycle -/

/-- The call is in a cycle that it has not completed. -/
structure InCycle (c : Nat) (given log : Log) (w : World σ) : Prop where
  /-- The call holds the lock. -/
  holds : holder w.history = some c
  /-- It has not completed the cycle. -/
  uncompleted : ¬ HasCompleted c w.history
  /-- What it has handed over. -/
  handed : handed c w.history = given
  /-- What the log starts with. -/
  starts : log <+: w.state.log

/-- The call is in a cycle and may stop it: it reports truly whether it has completed it. -/
structure MayStop (c : Nat) (r : Except Fault Report) (w : World σ) : Prop where
  holds : holder w.history = some c
  truly : HasCompleted c w.history ↔ ReportsCompleted (r.map .report)

namespace InCycle

variable {given log : Log}

theorem of_start (holds : holder w.history = some c) (new : ¬ HasCompleted c w.history)
    (handed : Bot.handed c w.history = []) : InCycle c [] [] w :=
  ⟨holds, new, handed, List.nil_prefix⟩

/-- A fault, or a report other than that of a completed cycle, is true. -/
theorem mayStop (inCycle : InCycle c given log w) {r : Except Fault Report}
    (not : ¬ ReportsCompleted (r.map .report)) : MayStop c r w :=
  ⟨inCycle.holds, fun h => absurd h inCycle.uncompleted, fun h => absurd h not⟩

theorem error (inCycle : InCycle c given log w) (f : Fault) : MayStop c (.error f) w := by
  refine inCycle.mayStop ?_
  rintro ⟨_, _, _, _, _, heq⟩
  cases heq

/-- Other calls leave a cycle to the call that is in it. -/
theorem stable : (interactions start).Stable c (InCycle (σ := σ) c given log) := by
  intro w e other _ holds inCycle
  have respects := holds.always.locked.respects.1
  exact {
    holds := holder_cons inCycle.holds other respects
    uncompleted := (hasCompleted_cons_of_ne other).not.2 inCycle.uncompleted
    handed := (handed_cons_of_ne other).trans inCycle.handed
    starts := by
      refine inCycle.starts.trans (log_isPrefix_after ?_)
      intro published next scored source heq
      rw [heq] at respects
      exact other (Option.some.inj (respects.symm.trans inCycle.holds)) }

/-- What the call does itself, unless it completes the cycle or turns to the scorer. -/
theorem after (inCycle : InCycle c given log w) (not : e.isOfLock = false)
    (unscored : Bot.handed c (e :: w.history) = Bot.handed c w.history) :
    InCycle c given log (w.after e) where
  holds := (holder_cons_of_not not _).trans inCycle.holds
  uncompleted := (hasCompleted_cons_of_not not).not.2 inCycle.uncompleted
  handed := unscored.trans inCycle.handed
  starts := inCycle.starts.trans (log_isPrefix_after (not_completes not _))

end InCycle

variable {given log : Log} {settings : Settings}

/-- A question that is not one to the scorer leaves a cycle as it is. -/
theorem InCycle.keeps_put (inCycle : InCycle c given log w) (q : Prompt σ) (out : q.isOutside)
    (unscored : ∀ system scored, q ≠ .score system scored) {post : q.Answer → World σ → Prop}
    (answered : ∀ w' r, InCycle c given log w' → post r w') :
    (interactions start).Keeps c post (Dialogue.put q) w := by
  refine (Discipline.keeps_put q out).2 fun _ => ?_
  refine ⟨trivial, _, inCycle, InCycle.stable, fun w' r holds _ inCycle => ?_⟩
  refine leads_of_not holds rfl nofun (answered _ r (inCycle.after rfl ?_))
  cases q with
  | score system scored => exact absurd rfl (unscored system scored)
  | _ => rfl

/-- The search and the scrape leave a cycle as it is. -/
theorem ensures_of_isOfSearch {α : Type} {s : Session σ α}
    (asks : s.Asks fun q => q.isOfSearch = true) (inCycle : InCycle c given log w) :
    (interactions start).Ensures c s (fun _ => InCycle c given log) w := by
  refine (Discipline.ensures_of_asks InCycle.stable ?_ asks trivial inCycle).mono fun _ _ h => h.2
  intro w e q _ asked kind holds _ inCycle
  have hquiet : e.isOfLock = false ∧ (∀ r, e ≠ .ended e.call r) ∧
      handed c (e :: w.history) = handed c w.history := by
    cases e with
    | changed d ch =>
        cases asked
        cases ch <;> first | exact ⟨rfl, nofun, rfl⟩ | cases kind
    | answered d q' r =>
        cases asked
        cases q <;> first | exact ⟨rfl, nofun, rfl⟩ | cases kind
    | _ => cases asked
  exact leads_of_not holds hquiet.1 hquiet.2.1 ⟨trivial, inCycle.after hquiet.1 hquiet.2.2⟩

/-- The log is handed to the scorer.  When the scorer answers the log still starts with
it. -/
theorem ensures_score (inCycle : InCycle c [] [] w) (system : RuleSystem)
    {post : Except Fault Float → World σ → Prop}
    (answered : ∀ w' r, InCycle c w.state.log w.state.log w' → post r w') :
    (interactions start).Ensures c (.score system w.state.log) post w := by
  have asked : InCycle c [] w.state.log w := { inCycle with starts := List.prefix_rfl }
  refine (Discipline.keeps_put (.score system _) rfl).2 fun _ => ?_
  refine ⟨trivial, _, asked, InCycle.stable, ?_⟩
  intro w' r holds _ asked
  refine leads_of_not holds rfl nofun (answered _ r ?_)
  exact {
    holds := asked.holds
    uncompleted := (hasCompleted_cons_of_not rfl).not.2 asked.uncompleted
    handed := by
      show (if c = c then handed c w'.history ++ w.state.log else handed c w'.history) = _
      rw [if_pos rfl, asked.handed, List.nil_append]
    starts := asked.starts }

/-- What was handed over leaves the log, and the call reports so. -/
theorem leads_complete (inCycle : InCycle c log log w) (holds : (interactions start).Holds w)
    (published : Scored) (next : RuleSystem) (source : σ) :
    (interactions start).Leads w (.changed c (.complete published next log.length source))
      fun w => ∀ cycle fitness others rules,
        MayStop c (.ok (.completed cycle fitness log.length others rules)) w := by
  intro obeys
  obtain ⟨op, ongoing, -⟩ := obeys.1
  -- the length that is dropped is that of what was handed over
  obtain rfl := inCycle.handed
  refine ⟨holds.always.complete inCycle.holds ongoing.2 inCycle.starts published next source, ?_⟩
  exact fun _ _ _ _ => {
    holds := inCycle.holds
    truly := ⟨fun _ => ⟨_, _, _, _, _, rfl⟩, fun _ => ⟨_, _, _, _, List.mem_cons_self⟩⟩ }

/-- A message is published and those of others are looked at. -/
theorem ensures_exchange (inCycle : InCycle c log log w) (message : Text)
    {post : Except Fault (List Scored) → World σ → Prop}
    (exchanged : ∀ r w', InCycle c log log w' → post r w') :
    (interactions start).Ensures c (do
      Session.publish message
      scrape settings message) post w := by
  refine Discipline.ensures_bind.2 ?_
  refine inCycle.keeps_put (.publish message) rfl nofun fun w' r inCycle => ?_
  cases r with
  | error f => exact exchanged _ _ inCycle
  | ok u =>
      have asks : Session.Asks (fun q => q.isOfSearch = true)
          (scrape settings message : Session σ (List Scored)) :=
        asks_scrape settings (fun _ _ => rfl) message
      exact (ensures_of_isOfSearch asks inCycle).mono fun r w' inCycle => exchanged r w' inCycle

theorem ensures_cycleAlone (inCycle : InCycle c [] [] w) :
    (interactions start).Ensures c (cycleAlone settings) (MayStop c) w := by
  refine Discipline.ensures_bind.2 (Discipline.ensures_look.2 fun _ => ?_)
  refine Discipline.ensures_bind.2 (Discipline.ensures_change.2 fun holds => ?_)
  refine leads_of_not holds rfl nofun (Discipline.ensures_bind.2 ?_)
  refine ensures_score (inCycle.after rfl rfl) _ fun w' r inCycle => ?_
  cases r with
  | error f => exact inCycle.error f
  | ok fitness =>
      refine Discipline.ensures_bind.2 (Discipline.ensures_change.2 fun holds => ?_)
      refine leads_of_not holds rfl nofun (Discipline.ensures_bind.2 ?_)
      refine Discipline.ensures_change.2 fun holds => leads_of_not holds rfl nofun ?_
      replace inCycle := (inCycle.after (e := .changed c (.judge fitness)) rfl rfl).after
        (e := .changed c (.enter .publishing)) rfl rfl
      dsimp only
      split
      · refine Discipline.ensures_bind.2 (Discipline.ensures_outcome.2 ?_)
        refine ensures_exchange inCycle _ fun others w' inCycle => ?_
        cases others with
        | error f =>
            dsimp only
            split
            · refine Discipline.ensures_bind.2 (Discipline.ensures_change.2 fun holds => ?_)
              refine leads_of_not holds rfl nofun ?_
              exact (inCycle.after rfl rfl).mayStop (by rintro ⟨_, _, _, _, _, ⟨⟩⟩)
            · exact inCycle.error f
        | ok others =>
            refine Discipline.ensures_bind.2 (Discipline.ensures_change.2 fun holds => ?_)
            refine leads_of_not holds rfl nofun ?_
            refine Discipline.ensures_bind.2 (Discipline.ensures_look.2 fun _ => ?_)
            refine Discipline.ensures_bind.2 ?_
            refine (inCycle.after rfl rfl).keeps_put (.breed _ _ _ _) rfl nofun
              fun w' bred inCycle => ?_
            obtain ⟨f | next, source⟩ := bred
            · refine Discipline.ensures_bind.2 (Discipline.ensures_change.2 fun holds => ?_)
              exact leads_of_not holds rfl nofun ((inCycle.after rfl rfl).error f)
            · refine Discipline.ensures_bind.2 (Discipline.ensures_change.2 fun holds => ?_)
              exact (leads_complete inCycle holds _ next source).mono fun w mayStop =>
                Discipline.ensures_bind.2 (Discipline.ensures_look.2 fun _ => mayStop _ _ _ _)
      · exact inCycle.error _

/-- A call reports truly whether it has completed a cycle. -/
def IsTrue (c : Nat) (r : Except Fault Result) (w : World σ) : Prop :=
  HasCompleted c w.history ↔ ReportsCompleted r

theorem ensures_cycle (new : ¬ HasCompleted c w.history) (handed : handed c w.history = []) :
    (interactions start).Ensures c (cycle settings) (fun r => IsTrue c (r.map .report)) w := by
  refine Discipline.ensures_bind.2 (Discipline.ensures_look.2 fun holds => ?_)
  dsimp only
  split
  · exact ⟨fun h => absurd h new, by rintro ⟨_, _, _, _, _, ⟨⟩⟩⟩
  · next idle =>
      have free := holds.always.locked.free (Bool.eq_false_iff.2 idle)
      refine Discipline.ensures_bind.2 (Discipline.ensures_change.2 fun holds _ => ?_)
      refine ⟨holds.always.after_of_ne (holds.always.locked.start free) nofun nofun, ?_⟩
      have inCycle : InCycle c [] [] (w.after (.changed c .start)) :=
        .of_start rfl ((hasCompleted_cons nofun).not.2 new) handed
      refine Discipline.ensures_bind.2 (Discipline.ensures_outcome.2 ?_)
      refine Discipline.Ensures.mono (?_ : (interactions start).Ensures c _ (MayStop c) _)
        fun r w mayStop => ?_
      · refine Discipline.ensures_bind.2 (Discipline.ensures_look.2 fun _ => ?_)
        dsimp only
        split
        · refine Discipline.ensures_bind.2 ?_
          refine (ensures_of_isOfSearch (asks_search settings fun _ hq => hq) inCycle).mono ?_
          intro r w inCycle
          cases r with
          | ok system => exact ensures_cycleAlone inCycle
          | error f => exact inCycle.error f
        · exact ensures_cycleAlone inCycle
      · refine Discipline.ensures_bind.2 (Discipline.ensures_change.2 fun holds _ => ?_)
        have locked := holds.always.locked.stop mayStop.holds
        refine ⟨holds.always.after_of_ne locked nofun nofun, ?_⟩
        exact (hasCompleted_cons nofun).trans mayStop.truly

/-- A session that has nothing to do with the lock completes no cycle. -/
theorem ensures_apart {α : Type} {s : Session σ α} {kind : Prompt σ → Prop}
    (asks : s.Asks kind)
    (apart : ∀ (e : Event σ) q, e.prompt? = some q → kind q → e.isOfLock = false)
    (new : ¬ HasCompleted c w.history) (f : α → Result)
    (other : ∀ a, ¬ ReportsCompleted (.ok (f a))) :
    (interactions start).Ensures c (f <$> s) (IsTrue c) w := by
  have stable : (interactions start).Stable c fun w : World σ => ¬ HasCompleted c w.history :=
    fun w e other _ _ new => (hasCompleted_cons_of_ne other).not.2 new
  refine Discipline.ensures_map _ |>.2 ?_
  refine (Discipline.ensures_of_asks stable ?_ asks trivial new).mono fun r w h => ?_
  · intro w e q _ asked may holds _ new
    have not := apart e q asked may
    refine leads_of_not holds not ?_ ⟨trivial, (hasCompleted_cons_of_not not).not.2 new⟩
    intro r heq
    rw [heq] at asked
    cases asked
  · refine ⟨fun completed => absurd completed h.2, fun reports => ?_⟩
    cases r with
    | ok a => exact absurd reports (other a)
    | error f =>
        obtain ⟨_, _, _, _, _, heq⟩ := reports
        cases heq

theorem isKept_interactions (settings : Settings) :
    (interactions start : Discipline σ).IsKept settings := by
  intro c op w new holds _ obeys
  refine ⟨holds.always.after_of_not rfl nofun, ?_⟩
  refine Discipline.Ensures.mono (?_ : (interactions start).Ensures c _ (IsTrue c) _)
    fun r w truly holds _ => ⟨holds.always.ended truly, trivial⟩
  have hnew : ¬ HasCompleted c (.began c op :: w.history) :=
    (hasCompleted_cons nofun).not.2 (not_hasCompleted_of_new new)
  have hhanded : handed c (.began c op :: w.history) = [] :=
    (show handed c w.history = [] from handed_of_new new)
  cases op with
  | cycle => exact (Discipline.ensures_map _).2 (ensures_cycle hnew hhanded)
  | search =>
      refine ensures_apart (asks_search settings fun _ hq => hq) ?_ hnew _ ?_
      · exact fun e q asked may => isOfLock_of_mayAsk .search nofun asked may
      · rintro a ⟨_, _, _, _, _, ⟨⟩⟩
  | answer text =>
      refine ensures_apart (asks_answer (fun _ hq => hq) text) ?_ hnew _ ?_
      · exact fun e q asked may => isOfLock_of_mayAsk (.answer text) nofun asked may
      · rintro a ⟨_, _, _, _, _, ⟨⟩⟩
  | answerMentions =>
      refine ensures_apart (asks_answerMentions fun _ hq => hq) ?_ hnew _ ?_
      · exact fun e q asked may => isOfLock_of_mayAsk .answerMentions nofun asked may
      · rintro a ⟨_, _, _, _, _, ⟨⟩⟩

/-- In every run what was recorded is, in this order, what completed cycles have handed to
the scorer and what is in the log, and a call reports a completed cycle if it has completed
one. -/
theorem recorded_eq {s : State σ} {m : Moment σ} (reaches : Reaches settings s m) :
    s.log ++ recorded m.world.history = scored m.world.history ++ m.world.state.log ∧
      ∀ c r, .ended c r ∈ m.world.history →
        (HasCompleted c m.world.history ↔ ReportsCompleted r) := by
  have begins : World.Balances s.log (⟨s, []⟩ : World σ) :=
    ⟨⟨fun _ => rfl, trivial⟩, List.append_nil _, fun _ _ hr => absurd hr List.not_mem_nil⟩
  have balances := ((isKept_interactions settings).reaches begins trivial reaches
    reaches.isProper.history).holds.always
  exact ⟨balances.balance, balances.reports⟩

/-- A bot that has answered one text. -/
def answeredOnce : World Tape :=
  World.calls ⟨[], 1, 0, 0, {}⟩ {} [.search, .answer (some ['a'])]
    ⟨.initial ⟨[], 1, 0, 0, {}⟩ .null ⟨[], 0⟩, []⟩

/-- Another text is answered while the log is with the scorer. -/
def answeredInside : World Tape :=
  answeredOnce.callInside ⟨[], 1, 0, 0, {}⟩ {} .cycle (.answer (some ['b']))

theorem reaches_answeredInside : ∃ waiting,
    Reaches ⟨[], 1, 0, 0, {}⟩ (.initial ⟨[], 1, 0, 0, {}⟩ .null ⟨[], 0⟩)
      ⟨answeredInside, none, waiting⟩ := by
  have idle : answeredOnce.IsIdle := (World.IsIdle.start _).calls _ _ _
  obtain ⟨waiting, reaches⟩ : ∃ waiting,
      Reaches ⟨[], 1, 0, 0, {}⟩ (.initial ⟨[], 1, 0, 0, {}⟩ .null ⟨[], 0⟩)
        ⟨answeredOnce, none, waiting⟩ :=
    reaches_calls (.start _) {} [.search, .answer (some ['a'])] .refl
  exact reaches_callInside idle {} .cycle (.answer (some ['b'])) reaches

/-- What was answered before is scored, and what was answered meanwhile is in the log. -/
theorem recorded_eq_answeredInside :
    (scored answeredInside.history).map Interaction.text = [some ['a']] ∧
      answeredInside.state.log.map Interaction.text = [some ['b']] ∧
      [] ++ recorded answeredInside.history =
        scored answeredInside.history ++ answeredInside.state.log ∧
      ∀ c r, .ended c r ∈ answeredInside.history →
        (HasCompleted c answeredInside.history ↔ ReportsCompleted r) := by
  obtain ⟨waiting, reaches⟩ := reaches_answeredInside
  refine ⟨by decide +kernel, by decide +kernel, ?_⟩
  generalize answeredInside = w at reaches ⊢
  exact recorded_eq reaches

end Mycelium.Bot
