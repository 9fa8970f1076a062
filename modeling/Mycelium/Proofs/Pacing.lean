import Mycelium.Proofs.Attempts
import Mycelium.Random.Generator

/-!
# The pace of the tasks

A run of the due tasks is a `Call`.  `Call.Goes` says all that a call does: which tasks it attempts,
what it reports of them, and what it keeps of each, whatever comes of the others.  Every call goes
so if the times that are kept are numbers and the intervals are (`Call.exists_goes`).  The state is
saved as it is left; if there is a directory for it, but a value in it cannot be written, a fault
comes of the call after all tasks are done (`Saves`, and `unsaved_longCall` for such a call).

Calls in a row lead from one state to the next (`Lead`).  A call leaves the time at which a task was
done last as it is, or replaces it by a time (`Call.Goes.lastRun_after`).  So times stay times, and
by induction on the calls the time that a call finds is that of the last success, however many
failures came in between (`LastDone.lastRun_eq`).  From it the pace follows (`runs_paced`): a call
that is not forced leaves a task out until its interval has passed.
-/

namespace Mycelium.Scheduler

variable {σ : Type}

/-! ## What is kept -/

/-- What a task has achieved is at most one entry. -/
theorem get?_putAll_achieved (t : Task) (bot : Bot.State σ) (before : Members) (name : Text) :
    (before.putAll (t.achieved bot)).get? name =
      ((t.achieved bot).get? name).or (before.get? name) := by
  have hreverse : (t.achieved bot).reverse = t.achieved bot := by
    cases t with
    | lifecycle => rfl
    | answering =>
        rw [Task.achieved]
        split <;> rfl
  rw [Entries.get?_putAll, hreverse]

theorem get?_putAll_succeeded (t : Task) (report : Members) (bot : Bot.State σ) (time : Float)
    (before : Members) (name : Text) :
    (before.putAll ((Ending.succeeded report bot time).kept t)).get? name =
      if t.lastResultKey = name then some (.str "ok".toList)
      else if t.lastRunKey = name then some (.float time)
      else ((t.achieved bot).get? name).or (before.get? name) := by
  rw [Ending.kept, Entries.putAll_append, ← get?_putAll_achieved, ← Entries.get?_put,
    ← Entries.get?_put]
  rfl

theorem get?_putAll_failed (t : Task) (f : Fault) (before : Members) (name : Text) :
    (before.putAll ((Ending.failed f : Ending σ).kept t)).get? name =
      if t.lastResultKey = name then some (.str ("error: ".toList ++ f.message.take 200))
      else before.get? name := by
  rw [← Entries.get?_put]
  rfl

namespace Course

variable (c : Course σ) {ts : List Task} {t : Task} {name : Text}

/-- Of what some tasks keep only that of a task itself stands under its names. -/
theorem get?_putAll_kept (nodup : ts.Nodup) (ht : t ∈ ts) (before : Members)
    (hname : name ∈ t.keys) : (before.putAll (c.kept ts)).get? name =
      (before.putAll ((c t).elim [] fun d => d.2.kept t)).get? name := by
  induction ts generalizing before with
  | nil => cases ht
  | cons u ts ih =>
      obtain ⟨hu, hts⟩ := List.nodup_cons.1 nodup
      have hcons : before.putAll (c.kept (u :: ts)) =
          (before.putAll ((c u).elim [] fun d => d.2.kept u)).putAll (c.kept ts) := by
        rw [← Entries.putAll_append]
        rfl
      rw [hcons]
      obtain rfl | ht := List.mem_cons.1 ht
      · refine get?_putAll_of_ne fun x hx heq => ?_
        obtain ⟨v, hv, hmem⟩ := names_kept hx
        exact Task.not_mem_keys (ne_of_mem_of_not_mem hv hu).symm name hname (heq ▸ hmem)
      · have hother : (before.putAll ((c u).elim [] fun d => d.2.kept u)).get? name =
            before.get? name := by
          cases c u with
          | none => rfl
          | some d => exact d.2.get?_putAll_kept (ne_of_mem_of_not_mem ht hu) before hname
        rw [ih hts ht, Entries.get?_putAll, hother, ← Entries.get?_putAll]

/-- Under all other names nothing changes. -/
theorem get?_putAll_kept_of_not_mem (ts : List Task) (before : Members)
    (hname : ∀ t : Task, name ∉ t.keys) :
    (before.putAll (c.kept ts)).get? name = before.get? name := by
  refine get?_putAll_of_ne fun x hx heq => ?_
  obtain ⟨t, -, hmem⟩ := names_kept hx
  exact hname t (heq ▸ hmem)

end Course

/-! ## What is saved -/

/-- How a state is saved, and what comes of it. -/
inductive Saves (state : Members) : Transcript σ → Except Fault Unit → Prop where
  /-- The text of the state is written. -/
  | saved (writable : (Json.obj state).IsWritable) :
      Saves state [⟨.directory, true⟩, ⟨.save (Json.obj state).written, ()⟩] (.ok ())
  /-- The state has no text. -/
  | unwritten (o : Json.Obstacle) (unwritable : ¬ (Json.obj state).IsWritable) :
      Saves state [⟨.directory, true⟩] (.error (.unwritten o))
  /-- There is no directory, and no text is made. -/
  | homeless : Saves state [⟨.directory, false⟩] (.ok ())

theorem Comes.of_saveState {state after : Members} {xs : Transcript σ} {result : Except Fault Unit}
    (h : Comes saveState state xs result after) : Saves state xs result ∧ after = state := by
  obtain ⟨made, ys, rfl, hrest⟩ := of_put h
  cases made with
  | false =>
      cases hrest
      exact ⟨.homeless, rfl⟩
  | true =>
      change Comes (.ofOutcome ((Json.obj state).print.mapError .unwritten) >>= fun text =>
        .put (.save text)) state ys result after at hrest
      by_cases writable : (Json.obj state).IsWritable
      · rw [Json.print_of_isWritable writable] at hrest
        cases hrest with
        | ask rest =>
            cases rest
            exact ⟨.saved writable, rfl⟩
      · obtain ⟨o, ho⟩ := Json.print_of_not_isWritable writable
        rw [ho] at hrest
        cases hrest
        exact ⟨.unwritten o writable, rfl⟩

/-! ## Calls -/

/-- A run of the due tasks. -/
structure Call (σ : Type) where
  /-- The settings of the bot. -/
  settings : Bot.Settings
  /-- The configuration. -/
  config : Members
  /-- The tasks that are wanted. -/
  wanted : Selection
  /-- The state before the call. -/
  before : Members
  /-- What is asked and answered. -/
  exchanges : Transcript σ
  /-- What comes of the call. -/
  result : Except Fault Members
  /-- The state after the call. -/
  after : Members
  /-- The call is a run. -/
  comes : Comes (runDue settings config wanted) before exchanges result after

/-- The call in which all questions are answered by a strategy. -/
def Call.answered (settings : Bot.Settings) (config : Members) (wanted : Selection)
    (before : Members) (answer : Dialogue.Strategy (Prompt σ) Prompt.Answer) : Call σ :=
  let d := (runDue settings config wanted).run.run before
  { settings, config, wanted, before
    exchanges := (d.play answer []).1
    result := (d.play answer []).2.1
    after := (d.play answer []).2.2
    comes := d.runs_play answer [] }

/-- What a call does to the tasks, to the state and to the file. -/
structure Call.Goes (d : Call σ) (now : Float) (c : Course σ) : Prop where
  /-- Those tasks are attempted that are ready, whatever comes of the others. -/
  ready : ∀ t, (c t).isSome = true ↔ IsReady d.wanted d.config t (t.lastRun d.before) now
  /-- An attempt is a session of the task. -/
  does : ∀ t ys e, c t = some (ys, e) → Does d.settings t ys e
  /-- The clock is read, the tasks follow, and the state is saved as it is left.  The tasks that
  are attempted are reported, and a fault comes of nothing but the saving. -/
  saves : ∃ zs saved, Saves d.after zs saved ∧
    d.exchanges = ⟨.clock, now⟩ :: (c.exchanges Task.all ++ zs) ∧
    d.result = saved.map fun _ => c.reports Task.all
  /-- A success is kept with its time. -/
  succeeded : ∀ t ys report bot time, c t = some (ys, .succeeded report bot time) →
    d.after.get? t.lastRunKey = some (.float time) ∧
    d.after.get? t.lastResultKey = some (.str "ok".toList) ∧
    d.after.get? t.achievedKey =
      ((t.achieved bot).get? t.achievedKey).or (d.before.get? t.achievedKey)
  /-- A failure is kept, and nothing of the last success is lost. -/
  failed : ∀ t ys f, c t = some (ys, .failed f) →
    d.after.get? t.lastRunKey = d.before.get? t.lastRunKey ∧
    d.after.get? t.lastResultKey = some (.str ("error: ".toList ++ f.message.take 200)) ∧
    d.after.get? t.achievedKey = d.before.get? t.achievedKey
  /-- Of a task that is left out nothing changes. -/
  leftOut : ∀ t, c t = none → ∀ name ∈ t.keys, d.after.get? name = d.before.get? name
  /-- Nothing else changes. -/
  others : ∀ name, (∀ t : Task, name ∉ t.keys) → d.after.get? name = d.before.get? name

/-- The clock is read, the due tasks are attempted, and the state is saved. -/
theorem Comes.of_runDue {settings : Bot.Settings} {config : Members} {wanted : Selection}
    {before after : Members} {xs : Transcript σ} {result : Except Fault Members}
    (h : Comes (runDue settings config wanted) before xs result after)
    (times : ∀ t : Task, IsTime (t.lastRun before))
    (numbers : ∀ t : Task, IsNumber (t.interval config)) :
    ∃ now, ∃ c : Course σ, c.IsRight settings config wanted now before Task.all ∧
      (∃ zs saved, Saves after zs saved ∧ xs = ⟨.clock, now⟩ :: (c.exchanges Task.all ++ zs) ∧
        result = saved.map fun _ => c.reports Task.all) ∧
      after = before.putAll (c.kept Task.all) := by
  obtain ⟨now, ys, rfl, htasks⟩ := of_put h
  obtain ⟨ys, zs, reports, between, rfl, hdue, hsave⟩ | ⟨f, hdue, rfl⟩ := of_bind htasks
  · obtain ⟨c, hright, rfl, hok, rfl⟩ :=
      of_attemptDue hdue Task.nodup_all (fun t _ => times t) fun t _ => numbers t
    cases hok
    obtain ⟨zs, ws, _, between, rfl, hsaved, hdone⟩ | ⟨f, hsaved, rfl⟩ := of_bind hsave
    · obtain ⟨rfl, rfl, rfl⟩ := of_pure hdone
      obtain ⟨hsaves, rfl⟩ := hsaved.of_saveState
      rw [List.append_nil]
      exact ⟨now, c, hright, ⟨zs, _, hsaves, rfl, rfl⟩, rfl⟩
    · obtain ⟨hsaves, rfl⟩ := hsaved.of_saveState
      exact ⟨now, c, hright, ⟨zs, _, hsaves, rfl, rfl⟩, rfl⟩
  · obtain ⟨c, -, -, hok, -⟩ :=
      of_attemptDue hdue Task.nodup_all (fun t _ => times t) fun t _ => numbers t
    cases hok

/-- A call goes as it should if all times can be compared. -/
theorem Call.exists_goes (d : Call σ) (times : ∀ t : Task, IsTime (t.lastRun d.before))
    (numbers : ∀ t : Task, IsNumber (t.interval d.config)) : ∃ now c, d.Goes now c := by
  obtain ⟨now, c, hright, hsaves, hafter⟩ := d.comes.of_runDue times numbers
  have hkept {t : Task} {name : Text} (hname : name ∈ t.keys) : d.after.get? name =
      (d.before.putAll ((c t).elim [] fun e => e.2.kept t)).get? name := by
    rw [hafter]
    exact c.get?_putAll_kept Task.nodup_all t.mem_all d.before hname
  refine ⟨now, c, ?_, ?_, hsaves, ?_, ?_, ?_, ?_⟩
  · exact fun t => hright.ready t t.mem_all
  · exact fun t => hright.does t t.mem_all
  · intro t ys report bot time hc
    obtain ⟨hachieved, hresult, hrun⟩ := t.keys_ne
    have hget {name : Text} (hname : name ∈ t.keys) := hkept hname
    simp only [hc, Option.elim_some, get?_putAll_succeeded] at hget
    refine ⟨?_, ?_, ?_⟩
    · rw [hget t.lastRunKey_mem, if_neg hrun.symm, if_pos rfl]
    · rw [hget t.lastResultKey_mem, if_pos rfl]
    · rw [hget t.achievedKey_mem, if_neg hresult.symm, if_neg hachieved.symm]
  · intro t ys f hc
    obtain ⟨hachieved, hresult, hrun⟩ := t.keys_ne
    have hget {name : Text} (hname : name ∈ t.keys) := hkept hname
    simp only [hc, Option.elim_some, get?_putAll_failed] at hget
    refine ⟨?_, ?_, ?_⟩
    · rw [hget t.lastRunKey_mem, if_neg hrun.symm]
    · rw [hget t.lastResultKey_mem, if_pos rfl]
    · rw [hget t.achievedKey_mem, if_neg hresult.symm]
  · intro t hc name hname
    rw [hkept hname, hc]
    rfl
  · intro name hname
    rw [hafter]
    exact c.get?_putAll_kept_of_not_mem Task.all d.before hname

/-! ## Calls in a row -/

/-- When a task was done, if it was. -/
def Course.doneAt (c : Course σ) (t : Task) : Option Float :=
  match c t with
  | some (_, .succeeded _ _ time) => some time
  | _ => none

/-- A call leaves the time at which a task was done. -/
theorem Call.Goes.lastRun_after {d : Call σ} {now : Float} {c : Course σ} (h : d.Goes now c)
    (t : Task) : t.lastRun d.after = (c.doneAt t).elim (t.lastRun d.before) Json.float := by
  rw [Course.doneAt, Task.lastRun, Task.lastRun]
  cases hc : c t with
  | none =>
      rw [h.leftOut t hc t.lastRunKey t.lastRunKey_mem]
      rfl
  | some x =>
      obtain ⟨ys, e⟩ := x
      cases e with
      | succeeded report bot time =>
          rw [(h.succeeded t ys report bot time hc).1]
          rfl
      | failed f =>
          rw [(h.failed t ys f hc).1]
          rfl

theorem Call.Goes.isTime_lastRun {d : Call σ} {now : Float} {c : Course σ} (h : d.Goes now c)
    {t : Task} (time : IsTime (t.lastRun d.before)) : IsTime (t.lastRun d.after) := by
  rw [h.lastRun_after]
  cases c.doneAt t with
  | none => exact time
  | some x => exact .float x

/-- A task is done in a call, at a time. -/
def Call.Finishes (d : Call σ) (t : Task) (time : Float) : Prop :=
  ∃ now c, d.Goes now c ∧ c.doneAt t = some time

/-- Calls in a row lead from one state to another. -/
inductive Lead : Members → List (Call σ) → Members → Prop where
  | nil (state : Members) : Lead state [] state
  | cons (d : Call σ) {ds : List (Call σ)} {after : Members} (rest : Lead d.after ds after) :
      Lead d.before (d :: ds) after

namespace Lead

variable {state after : Members} {ds es : List (Call σ)} {t : Task} {time : Float}

theorem of_append (h : Lead state (ds ++ es) after) :
    ∃ between, Lead state ds between ∧ Lead between es after := by
  induction ds generalizing state with
  | nil => exact ⟨state, .nil state, h⟩
  | cons d ds ih =>
      cases h with
      | cons _ rest =>
          obtain ⟨between, hds, hes⟩ := ih rest
          exact ⟨between, .cons d hds, hes⟩

/-- The calls in front of a call lead to the state that it finds. -/
theorem to_before {e : Call σ} (h : Lead state (ds ++ e :: es) after) : Lead state ds e.before := by
  obtain ⟨between, hds, hes⟩ := h.of_append
  cases hes with
  | cons _ _ => exact hds

/-- The times at which tasks were done stay times. -/
theorem isTime_lastRun (h : Lead state ds after) (times : ∀ t : Task, IsTime (t.lastRun state))
    (numbers : ∀ d ∈ ds, ∀ t : Task, IsNumber (t.interval d.config)) (t : Task) :
    IsTime (t.lastRun after) := by
  induction h with
  | nil state => exact times t
  | cons d rest ih =>
      rw [List.forall_mem_cons] at numbers
      obtain ⟨now, c, hgoes⟩ := d.exists_goes times numbers.1
      exact ih (fun t => hgoes.isTime_lastRun (times t)) numbers.2

/-- Calls in which a task is not done leave the time at which it was done. -/
theorem lastRun_eq (h : Lead state ds after) (times : ∀ t : Task, IsTime (t.lastRun state))
    (numbers : ∀ d ∈ ds, ∀ t : Task, IsNumber (t.interval d.config))
    (none : ∀ d ∈ ds, ∀ time, ¬ d.Finishes t time) : t.lastRun after = t.lastRun state := by
  induction h with
  | nil state => rfl
  | cons d rest ih =>
      rw [List.forall_mem_cons] at numbers none
      obtain ⟨now, c, hgoes⟩ := d.exists_goes times numbers.1
      rw [ih (fun t => hgoes.isTime_lastRun (times t)) numbers.2 none.2, hgoes.lastRun_after]
      cases hdone : c.doneAt t with
      | none => rfl
      | some time => exact absurd ⟨now, c, hgoes, hdone⟩ (none.1 time)

end Lead

/-- When a task was done last, in some calls or before them. -/
inductive LastDone (state : Members) (t : Task) : List (Call σ) → Json → Prop where
  | before {ds : List (Call σ)} (none : ∀ d ∈ ds, ∀ time, ¬ d.Finishes t time) :
      LastDone state t ds (t.lastRun state)
  | inside {earlier between : List (Call σ)} {d : Call σ} {time : Float}
      (done : d.Finishes t time) (none : ∀ e ∈ between, ∀ time, ¬ e.Finishes t time) :
      LastDone state t (earlier ++ d :: between) (.float time)

/-- After some calls the time is kept at which a task was done last. -/
theorem LastDone.lastRun_eq {state after : Members} {ds : List (Call σ)} {t : Task} {last : Json}
    (h : LastDone state t ds last) (lead : Lead state ds after)
    (times : ∀ t : Task, IsTime (t.lastRun state))
    (numbers : ∀ d ∈ ds, ∀ t : Task, IsNumber (t.interval d.config)) : t.lastRun after = last := by
  cases h with
  | before none => exact lead.lastRun_eq times numbers none
  | inside done none =>
      obtain ⟨now, c, hgoes, hdone⟩ := done
      rw [List.forall_mem_append, List.forall_mem_cons] at numbers
      obtain ⟨_, hearlier, hrest⟩ := lead.of_append
      cases hrest with
      | cons _ hbetween =>
          have hbefore := hearlier.isTime_lastRun times numbers.1
          rw [hbetween.lastRun_eq (fun t => hgoes.isTime_lastRun (hbefore t)) numbers.2.2 none,
            hgoes.lastRun_after, hdone]
          rfl

/-- Calls in a row, from a state whose times are numbers and with intervals that are.  Whatever is
answered, a call comes to an end, and it goes as `Call.Goes` says.  A call that is not forced
attempts a task if and only if it is wanted and switched on, and if its interval has passed since it
was done last, however often it failed since. -/
theorem runs_paced {state after : Members} {ds : List (Call σ)} (lead : Lead state ds after)
    (times : ∀ t : Task, IsTime (t.lastRun state))
    (numbers : ∀ d ∈ ds, ∀ t : Task, IsNumber (t.interval d.config)) :
    (∀ settings config wanted before (answer : Dialogue.Strategy (Prompt σ) Prompt.Answer),
      Dialogue.Answers answer [] (Call.answered settings config wanted before answer).exchanges) ∧
    (∀ d ∈ ds, ∃ now c, d.Goes now c) ∧
    ∀ earlier e later, ds = earlier ++ e :: later → e.wanted.force = false →
      ∀ now c, e.Goes now c → ∀ t last, LastDone state t earlier last →
        ((c t).isSome = true ↔ e.wanted.wants t = true ∧ t.isEnabled e.config = true ∧
          ∃ time, last.toFloat = .ok time ∧
            isShorter (now - time) (t.interval e.config) = .ok false) := by
  refine ⟨?_, ?_, ?_⟩
  · intro settings config wanted before answer
    exact Dialogue.answers_play answer [] _
  · intro d hd
    obtain ⟨earlier, later, rfl⟩ := List.append_of_mem hd
    rw [List.forall_mem_append] at numbers
    have hbefore := lead.to_before.isTime_lastRun times numbers.1
    exact d.exists_goes hbefore (numbers.2 d List.mem_cons_self)
  · intro earlier e later hds hforce now c hgoes t last hlast
    subst hds
    rw [List.forall_mem_append] at numbers
    rw [hgoes.ready t, hlast.lastRun_eq lead.to_before times numbers.1]
    exact isReady_iff_of_unforced hforce

/-- The answers at a time at which nothing happens: there are no mentions and no candidates. -/
def quiet (settings : Bot.Settings) (time : Float) : Dialogue.Strategy (Prompt Tape) Prompt.Answer
  | _, .bot .look => .initial settings .null (.ofList [])
  | _, .bot (.change _) => ()
  | _, .bot (.candidates _ _) => .ok []
  | _, .bot (.mentions _) => .ok []
  | _, .bot (.publish _) => .ok ()
  | _, .bot (.reply _ _) => .ok ()
  | _, .bot (.score _ _) => .ok 0.0
  | _, .bot (.breed published lineage others source) =>
      Bot.ownEngine settings.rates published lineage others source
  | _, .clock => time
  | _, .directory => true
  | _, .save _ => ()
  | _, .beat _ => ()
  | _, .wait _ => false

/-- A call at such a time that wants nothing but the mentions to be answered. -/
def quietCall (time : Float) (before : Members) : Call Tape :=
  let settings : Bot.Settings := ⟨"fungifeed".toList, 30, 280, 0, {}⟩
  .answered settings [] { only := some "answer_mentions".toList } before (quiet settings time)

theorem runs_paced_quietly : ∃ first early : Call Tape, Lead [] [first, early] early.after ∧
    first.Finishes .answering 1000.0 ∧ early.wanted.force = false ∧
    ∃ c, early.Goes 1100.0 c ∧ c .answering = none := by
  -- Of the two calls only what is used is known from here on, for they are large terms.
  obtain ⟨first, hempty, hconfig, hafter⟩ : ∃ d : Call Tape, d.before = [] ∧ d.config = [] ∧
      Task.answering.lastRun d.after = .float 1000.0 := ⟨quietCall 1000.0 [], rfl, rfl, rfl⟩
  obtain ⟨early, hbefore, hearly, hforce, hclock⟩ : ∃ d : Call Tape, d.before = first.after ∧
      d.config = [] ∧ d.wanted.force = false ∧
      d.exchanges.head? = some ⟨.clock, (1100.0 : Float)⟩ :=
    ⟨quietCall 1100.0 first.after, rfl, rfl, rfl, rfl⟩
  have lead : Lead [] [first, early] early.after :=
    hempty ▸ .cons first (hbefore ▸ .cons early (.nil _))
  have times (t : Task) : IsTime (t.lastRun []) := .float 0.0
  have numbers : ∀ d ∈ [first, early], ∀ t : Task, IsNumber (t.interval d.config) := by
    simp only [List.mem_cons, List.not_mem_nil, or_false, forall_eq_or_imp, forall_eq, hconfig,
      hearly]
    exact ⟨fun t => .int 600, fun t => .int 600⟩
  obtain ⟨-, hgoes, hpaced⟩ := runs_paced lead times numbers
  have hdone : first.Finishes .answering 1000.0 := by
    obtain ⟨now, c, hfirst⟩ := hgoes first (by simp)
    have hlast := hfirst.lastRun_after .answering
    rw [hafter, hempty] at hlast
    refine ⟨now, c, hfirst, ?_⟩
    cases hc : c.doneAt .answering with
    | none =>
        rw [hc] at hlast
        exact absurd (Json.float.inj hlast) (by decide)
    | some x =>
        rw [hc] at hlast
        cases hlast
        rfl
  obtain ⟨now, c, hlater⟩ := hgoes early (by simp)
  have hnow : now = 1100.0 := by
    obtain ⟨zs, saved, -, hexchanges, -⟩ := hlater.saves
    rw [hexchanges] at hclock
    cases hclock
    rfl
  subst hnow
  have hlast : LastDone [] .answering ([] ++ [first]) (.float 1000.0) := .inside hdone (by simp)
  have hiff := hpaced [first] early [] rfl hforce _ c hlater .answering _ hlast
  have hshort : isShorter (1100.0 - 1000.0) (Task.answering.interval []) = .ok true := rfl
  refine ⟨first, early, lead, hdone, hforce, c, hlater, ?_⟩
  simpa [hearly, hshort, Json.toFloat] using hiff

/-- The least integer that has too many digits to be written. -/
def longInteger : Int := (10 ^ Number.digitLimit : Nat)

theorem not_fits_longInteger (room : Nat) : ¬ Json.Fits room (.int longInteger) := by
  intro h
  cases h with
  | int _ short =>
      rw [longInteger, Int.natAbs_natCast, Layout.digits,
        Nat.length_toDigits_le_iff (by decide) (by decide)] at short
      exact Nat.lt_irrefl _ short

/-- A call at a time at which nothing happens, with such an integer in the state. -/
def longCall : Call Tape := quietCall 1000.0 [("x".toList, .int longInteger)]

/-- All times can be compared, and yet a fault comes of the call, and nothing is saved. -/
theorem unsaved_longCall :
    (∀ t : Task, IsTime (t.lastRun longCall.before)) ∧
    (∀ t : Task, IsNumber (t.interval longCall.config)) ∧
    (∃ o, longCall.result = .error (.unwritten o)) ∧
    ∀ x ∈ longCall.exchanges, ∀ text, x.question ≠ .save text := by
  obtain ⟨d, hd, hbefore, hconfig, settings, hanswers⟩ : ∃ d : Call Tape, d = longCall ∧
      d.before = [("x".toList, .int longInteger)] ∧ d.config = [] ∧
      ∃ settings, Dialogue.Answers (quiet settings 1000.0) [] d.exchanges :=
    ⟨_, rfl, rfl, rfl, _, Dialogue.answers_play _ _ _⟩
  rw [← hd]
  have times (t : Task) : IsTime (t.lastRun d.before) := by
    rw [hbefore]
    cases t <;> exact .float 0.0
  have numbers (t : Task) : IsNumber (t.interval d.config) := by
    rw [hconfig]
    exact .int 600
  obtain ⟨now, c, hgoes⟩ := d.exists_goes times numbers
  obtain ⟨zs, saved, hsaves, hexchanges, hresult⟩ := hgoes.saves
  have hkept : d.after.get? "x".toList = some (.int longInteger) := by
    rw [hgoes.others _ fun t => by cases t <;> decide, hbefore]
    rfl
  obtain ⟨o, rfl, rfl⟩ : ∃ o, zs = [⟨.directory, true⟩] ∧ saved = .error (.unwritten o) := by
    cases hsaves with
    | saved writable => exact absurd (writable.of_get? hkept) (not_fits_longInteger _)
    | unwritten o _ => exact ⟨o, rfl, rfl⟩
    | homeless =>
        have hmem : ⟨.directory, false⟩ ∈ d.exchanges := by simp [hexchanges]
        obtain ⟨_, hfalse⟩ := hanswers.exists_answer_eq hmem
        cases hfalse
  refine ⟨times, numbers, ⟨o, hresult⟩, ?_⟩
  intro x hx text
  rw [hexchanges, List.mem_cons, List.mem_append, List.mem_singleton] at hx
  obtain rfl | hx | rfl := hx
  · exact nofun
  · obtain ⟨t, -, ⟨ys, e⟩, hc, hx⟩ := Course.mem_collect hx
    exact (hgoes.does t ys e hc).question_ne_save hx text
  · exact nofun

end Mycelium.Scheduler
