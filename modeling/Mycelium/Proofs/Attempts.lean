import Mycelium.Proofs.Exchanges
import Mycelium.Proofs.Range
import Mycelium.Scheduler.Run

/-!
# How the due tasks are done

A run of the due tasks asks the clock, and then each task in turn is left out or attempted.
`Does` says once what an attempt can be: the session of the task ends with a report, the bot
and the clock are asked, and what was achieved is kept; or it ends with a fault, and nothing
but the fault is kept.  An attempt itself never ends with a fault (`Comes.of_attempt`).

What becomes of all tasks is a `Course`: each is left out, or attempted with an ending.
`Comes.of_attemptDue` shows by induction on the tasks that the right ones are attempted
(`Course.IsRight`), as long as the times that are kept can be compared with the intervals.  A task
keeps nothing under the names of another one, so none of them changes when another one is due.
-/

namespace Mycelium

theorem Entries.putAll_append {β : Type} (es xs ys : Entries β) :
    es.putAll (xs ++ ys) = (es.putAll xs).putAll ys := List.foldl_append

namespace Scheduler

variable {σ α β : Type}

/-- What is asked and answered in a run. -/
abbrev Transcript (σ : Type) := List (Exchange (Prompt σ) Prompt.Answer)

/-- What a bot asks, as a question of a run. -/
def ofBot (x : Exchange (Bot.Prompt σ) Bot.Prompt.Answer) :
    Exchange (Prompt σ) Prompt.Answer :=
  ⟨.bot x.question, x.answer⟩

/-- What a run comes to from a state, and the state that it leaves. -/
def Comes (r : Run σ α) (state : Members) (xs : Transcript σ) (result : Except Fault α)
    (after : Members) : Prop :=
  (r.run.run state).Runs xs (result, after)

namespace Comes

variable {r : Run σ α} {f : α → Run σ β} {state after : Members} {xs : Transcript σ}
  {result : Except Fault β}

theorem of_pure {b : β} (h : Comes (pure b : Run σ β) state xs result after) :
    xs = [] ∧ result = .ok b ∧ after = state := by
  cases h
  exact ⟨rfl, rfl, rfl⟩

/-- Two runs, one after the other: the first one ends with a value for the second one, or with
a fault, and then the second one is left out. -/
theorem of_bind (h : Comes (r >>= f) state xs result after) :
    (∃ ys zs a between, xs = ys ++ zs ∧ Comes r state ys (.ok a) between ∧
      Comes (f a) between zs result after) ∨
    ∃ e, Comes r state xs (.error e) after ∧ result = .error e := by
  obtain ⟨ys, zs, ⟨o, between⟩, rfl, hr, hrest⟩ := Dialogue.Runs.of_bind h
  cases o with
  | ok a => exact .inl ⟨ys, zs, a, between, rfl, hr, hrest⟩
  | error e =>
      cases hrest
      rw [List.append_nil]
      exact .inr ⟨e, hr, rfl⟩

/-- A run that goes on with its outcome. -/
theorem of_outcome {f : Except Fault α → Run σ β}
    (h : Comes (r.outcome >>= f) state xs result after) :
    ∃ ys zs o between, xs = ys ++ zs ∧ Comes r state ys o between ∧
      Comes (f o) between zs result after := by
  obtain ⟨ys, zs, ⟨o, between⟩, rfl, hr, hrest⟩ := Dialogue.Runs.of_bind h
  obtain ⟨ys, ws, ⟨o', between'⟩, rfl, hr, hdone⟩ := Dialogue.Runs.of_bind hr
  cases hdone
  rw [List.append_nil]
  exact ⟨ys, zs, o', between, rfl, hr, hrest⟩

/-- A question. -/
theorem of_put {q : Prompt σ} {f : q.Answer → Run σ β}
    (h : Comes (.put q >>= f) state xs result after) :
    ∃ a ys, xs = ⟨q, a⟩ :: ys ∧ Comes (f a) state ys result after := by
  cases h with
  | @ask _ _ a ys _ rest => exact ⟨a, ys, rfl, rest⟩

theorem of_conduct {d : Dialogue (Bot.Prompt σ) Bot.Prompt.Answer α} {a : α}
    (h : (d.conduct fun q => Dialogue.put (A := Prompt.Answer) (Prompt.bot q)).Runs xs a) :
    ∃ ys, xs = ys.map ofBot ∧ d.Runs ys a := by
  induction d generalizing xs with
  | done b =>
      cases h
      exact ⟨[], rfl, .done _⟩
  | ask q next ih =>
      cases h with
      | @ask _ _ x _ _ rest =>
          obtain ⟨ys, rfl, hys⟩ := ih x rest
          exact ⟨⟨q, x⟩ :: ys, rfl, .ask hys⟩

/-- A session of the bot leaves the state as it is. -/
theorem of_bot {s : Bot.Session σ α} (h : Comes (.bot s >>= f) state xs result after) :
    (∃ ys zs a, xs = ys.map ofBot ++ zs ∧ s.run.Runs ys (.ok a) ∧
      Comes (f a) state zs result after) ∨
    ∃ ys e, xs = ys.map ofBot ∧ s.run.Runs ys (.error e) ∧ result = .error e ∧ after = state := by
  obtain ⟨ys, zs, ⟨o, between⟩, rfl, hs, hrest⟩ := Dialogue.Runs.of_bind h
  obtain ⟨ys, ws, o', rfl, hconduct, hdone⟩ := Dialogue.Runs.of_bind hs
  cases hdone
  obtain ⟨ys, rfl, hys⟩ := of_conduct hconduct
  rw [List.append_nil]
  cases o with
  | ok a => exact .inl ⟨ys, zs, a, rfl, hys, hrest⟩
  | error e =>
      cases hrest
      rw [List.append_nil]
      exact .inr ⟨ys, e, rfl, hys, rfl, rfl⟩

/-- The bot is asked for its state. -/
theorem of_look {f : Bot.State σ → Run σ β} (h : Comes (.bot .look >>= f) state xs result after) :
    ∃ bot ys, xs = ⟨.bot .look, bot⟩ :: ys ∧ Comes (f bot) state ys result after := by
  cases h with
  | @ask _ _ bot ys _ rest => exact ⟨bot, ys, rfl, rest⟩

end Comes

/-! ## What a task keeps -/

namespace Task

/-- What a task has achieved when it ends with a report, as it is kept. -/
def achieved : Task → Bot.State σ → Members
  | lifecycle, bot => [("cycles".toList, .int bot.cycles)]
  | answering, bot =>
      if bot.lastMention.holds then [("last_mention_id".toList, bot.lastMention)] else []

/-- The name under which is kept what a task has achieved. -/
def achievedKey : Task → Text
  | lifecycle => "cycles".toList
  | answering => "last_mention_id".toList

/-- The names under which a task keeps anything. -/
def keys (t : Task) : List Text := [t.achievedKey, t.lastRunKey, t.lastResultKey]

theorem mem_all (t : Task) : t ∈ all := by
  cases t <;> simp [all]

theorem nodup_all : all.Nodup := by decide

/-- Tasks keep nothing under the same name. -/
theorem not_mem_keys {t u : Task} (h : u ≠ t) : ∀ name ∈ u.keys, name ∉ t.keys := by
  cases t <;> cases u <;> first | exact absurd rfl h | decide

theorem achievedKey_mem (t : Task) : t.achievedKey ∈ t.keys := by
  simp [keys]

theorem lastRunKey_mem (t : Task) : t.lastRunKey ∈ t.keys := by
  simp [keys]

theorem lastResultKey_mem (t : Task) : t.lastResultKey ∈ t.keys := by
  simp [keys]

theorem keys_ne (t : Task) : t.achievedKey ≠ t.lastRunKey ∧ t.achievedKey ≠ t.lastResultKey ∧
    t.lastRunKey ≠ t.lastResultKey := by
  cases t <;> decide

theorem names_achieved (t : Task) (bot : Bot.State σ) :
    ∀ x ∈ t.achieved bot, x.1 = t.achievedKey := by
  intro x hx
  cases t with
  | lifecycle =>
      cases List.mem_singleton.1 hx
      rfl
  | answering =>
      rw [achieved] at hx
      split at hx
      · cases List.mem_singleton.1 hx
        rfl
      · cases hx

end Task

/-- How an attempt ends. -/
inductive Ending (σ : Type) where
  /-- There is a report.  The bot is left in a state, and the clock shows a time. -/
  | succeeded (report : Members) (bot : Bot.State σ) (time : Float)
  /-- There is a fault. -/
  | failed (fault : Fault)

namespace Ending

/-- What is reported of an attempt. -/
def report : Ending σ → Members
  | succeeded report _ _ => report
  | failed f => [("error".toList, .str f.summary)]

/-- What is kept of an attempt. -/
def kept (t : Task) : Ending σ → Members
  | succeeded _ bot time =>
      t.achieved bot ++
        [(t.lastRunKey, .float time), (t.lastResultKey, .str "ok".toList)]
  | failed f => [(t.lastResultKey, .str ("error: ".toList ++ f.summary))]

theorem names_kept (t : Task) (e : Ending σ) : ∀ x ∈ e.kept t, x.1 ∈ t.keys := by
  cases e with
  | succeeded report bot time =>
      intro x hx
      rw [kept, List.mem_append] at hx
      obtain hx | hx := hx
      · simp [Task.keys, t.names_achieved bot x hx]
      · simp only [List.mem_cons, List.not_mem_nil, or_false] at hx
        obtain rfl | rfl := hx <;> simp [Task.keys]
  | failed f => simp [kept, Task.keys]

end Ending

theorem get?_eq_none {β : Type} {es : Entries β} {name : Text} (h : ∀ x ∈ es, x.1 ≠ name) :
    es.get? name = none := by
  induction es with
  | nil => rfl
  | cons x es ih =>
      rw [List.forall_mem_cons] at h
      rw [Entries.get?, if_neg h.1, ih h.2]

theorem get?_putAll_of_ne {β : Type} {es extra : Entries β} {name : Text}
    (h : ∀ x ∈ extra, x.1 ≠ name) : (es.putAll extra).get? name = es.get? name := by
  rw [Entries.get?_putAll, get?_eq_none fun x hx => h x (List.mem_reverse.1 hx), Option.none_or]

/-- An attempt changes nothing that is kept of other tasks. -/
theorem Ending.get?_putAll_kept (e : Ending σ) {t u : Task} (h : u ≠ t) (state : Members)
    {name : Text} (hname : name ∈ u.keys) : (state.putAll (e.kept t)).get? name = state.get? name :=
  get?_putAll_of_ne fun x hx heq => Task.not_mem_keys h name hname (heq ▸ e.names_kept t x hx)

/-- What becomes of the tasks: each is left out, or attempted. -/
abbrev Course (σ : Type) := Task → Option (Transcript σ × Ending σ)

namespace Course

variable {γ : Type}

/-- What comes of some tasks, one after the other; nothing of those that are left out. -/
def collect (c : Course σ) (f : Task → Transcript σ × Ending σ → List γ) (ts : List Task) :
    List γ :=
  ts.flatMap fun t => (c t).elim [] (f t)

/-- What is asked and answered while some tasks are attempted. -/
def exchanges (c : Course σ) (ts : List Task) : Transcript σ := c.collect (fun _ d => d.1) ts

/-- What is reported of some tasks. -/
def reports (c : Course σ) (ts : List Task) : Members :=
  c.collect (fun t d => [(t.name, .obj d.2.report)]) ts

/-- What some tasks keep. -/
def kept (c : Course σ) (ts : List Task) : Members := c.collect (fun t d => d.2.kept t) ts

variable {c : Course σ} {ts : List Task}

/-- One more task in front of others. -/
theorem collect_update {t : Task} (ht : t ∉ ts) (d : Option (Transcript σ × Ending σ))
    (f : Task → Transcript σ × Ending σ → List γ) :
    collect (Function.update c t d) f (t :: ts) = d.elim [] (f t) ++ c.collect f ts := by
  rw [collect, List.flatMap_cons, Function.update_self]
  refine congrArg _ (List.flatMap_congr fun u hu => ?_)
  rw [Function.update_of_ne (ne_of_mem_of_not_mem hu ht)]

theorem mem_collect {f : Task → Transcript σ × Ending σ → List γ} {x : γ}
    (h : x ∈ c.collect f ts) : ∃ t ∈ ts, ∃ d, c t = some d ∧ x ∈ f t d := by
  obtain ⟨t, ht, hx⟩ := List.mem_flatMap.1 h
  cases hc : c t with
  | none => simp [hc] at hx
  | some d =>
      rw [hc] at hx
      exact ⟨t, ht, d, hc, hx⟩

theorem names_kept {x : Text × Json} (hx : x ∈ c.kept ts) : ∃ t ∈ ts, x.1 ∈ t.keys := by
  obtain ⟨t, ht, d, -, hx⟩ := mem_collect hx
  exact ⟨t, ht, d.2.names_kept t x hx⟩

end Course

/-! ## Times -/

/-- A value is a number. -/
inductive IsNumber : Json → Prop where
  | bool (b : Bool) : IsNumber (.bool b)
  | int (n : Int) : IsNumber (.int n)
  | float (x : Float) : IsNumber (.float x)

/-- A value is a number that a double is near to. -/
inductive IsTime : Json → Prop where
  | bool (b : Bool) : IsTime (.bool b)
  | int {n : Int} (small : n.natAbs < Binary64.beyondDoubles) : IsTime (.int n)
  | float (x : Float) : IsTime (.float x)

theorem IsTime.elapsed {last : Json} (h : IsTime last) (now : Float) :
    ∃ time, last.toFloat = .ok time ∧ elapsed now last = .ok (now - time) := by
  cases h with
  | bool b => exact ⟨_, rfl, rfl⟩
  | float x => exact ⟨x, rfl, rfl⟩
  | @int n small =>
      have hfloat : (Json.int n).toFloat = .ok (Float.ofInt n) := by
        rw [Json.toFloat, Json.floatOfInt_eq, if_pos small]
      refine ⟨_, hfloat, ?_⟩
      simp only [Scheduler.elapsed, number?, bind, Except.bind, hfloat]
      rfl

theorem IsNumber.isShorter {interval : Json} (h : IsNumber interval) (time : Float) :
    ∃ b, isShorter time interval = .ok b := by
  cases h with
  | bool b => exact ⟨_, rfl⟩
  | int n => exact ⟨_, rfl⟩
  | float x => exact ⟨_, rfl⟩

/-- A task is to be done that was done last at a time. -/
structure IsReady (wanted : Selection) (config : Members) (t : Task) (last : Json) (now : Float) :
    Prop where
  /-- No other task is the only one that is wanted. -/
  wants : wanted.wants t = true
  /-- The task is switched on, unless it is forced. -/
  enabled : t.isEnabled config = true ∨ wanted.force = true
  /-- Its interval has passed, unless it is forced. -/
  due : wanted.force = true ∨
    ∃ time, last.toFloat = .ok time ∧ isShorter (now - time) (t.interval config) = .ok false

/-- A task that is not forced is to be done if it is wanted, switched on and not too early. -/
theorem isReady_iff_of_unforced {wanted : Selection} {config : Members} {t : Task} {last : Json}
    {now : Float} (unforced : wanted.force = false) :
    IsReady wanted config t last now ↔ wanted.wants t = true ∧ t.isEnabled config = true ∧
      ∃ time, last.toFloat = .ok time ∧ isShorter (now - time) (t.interval config) = .ok false := by
  have hno : wanted.force ≠ true := by simp [unforced]
  constructor
  · intro h
    exact ⟨h.wants, h.enabled.resolve_right hno, h.due.resolve_left hno⟩
  · rintro ⟨hwants, henabled, hdue⟩
    exact ⟨hwants, .inl henabled, .inr hdue⟩

/-- Whether a task is to be done is found out without a fault. -/
theorem isDue_iff (wanted : Selection) {config : Members} {t : Task} {state : Members}
    (time : IsTime (t.lastRun state)) (number : IsNumber (t.interval config)) (now : Float) :
    ∃ b, wanted.isDue t config state now = .ok b ∧
      (b = true ↔ IsReady wanted config t (t.lastRun state) now) := by
  by_cases hwants : wanted.wants t = true
  · by_cases hforce : wanted.force = true
    · exact ⟨true, Selection.isDue_of_force hwants hforce config state now,
        iff_of_true rfl ⟨hwants, .inr hforce, .inl hforce⟩⟩
    · rw [Bool.not_eq_true] at hforce
      obtain ⟨x, hx, helapsed⟩ := time.elapsed now
      obtain ⟨early, hearly⟩ := number.isShorter (now - x)
      have hisEarly : isEarly t config state now = .ok early := by
        rw [isEarly, helapsed]
        exact hearly
      refine ⟨t.isEnabled config && !early, ?_, ?_⟩
      · cases henabled : t.isEnabled config <;>
          simp [Selection.isDue, hwants, hforce, henabled, hisEarly, Except.map]
      · rw [isReady_iff_of_unforced hforce]
        simp [hwants, hx, hearly]
  · rw [Bool.not_eq_true] at hwants
    refine ⟨false, Selection.isDue_of_unwanted hwants config state now, ?_⟩
    exact iff_of_false Bool.false_ne_true fun h => by cases hwants.symm.trans h.wants

/-! ## One task -/

/-- The session of a task ends with a report or with a fault. -/
def Task.Ends (settings : Bot.Settings) :
    Task → List (Exchange (Bot.Prompt σ) Bot.Prompt.Answer) → Except Fault Members → Prop
  | lifecycle, xs, result =>
      ∃ o, (Bot.cycle settings).run.Runs xs o ∧ result = o.map Bot.Report.toMembers
  | answering, xs, result =>
      ∃ o, Bot.answerMentions.run.Runs xs o ∧ result = o.map Bot.Tally.toMembers

/-- What an attempt may ask and be answered for it to end so. -/
inductive Does (settings : Bot.Settings) (t : Task) : Transcript σ → Ending σ → Prop where
  | succeeded {xs : List (Exchange (Bot.Prompt σ) Bot.Prompt.Answer)} {report : Members}
      (bot : Bot.State σ) (time : Float) (ends : t.Ends settings xs (.ok report)) :
      Does settings t (xs.map ofBot ++ [⟨.bot .look, bot⟩, ⟨.clock, time⟩])
        (.succeeded report bot time)
  | failed {xs : List (Exchange (Bot.Prompt σ) Bot.Prompt.Answer)} {f : Fault}
      (ends : t.Ends settings xs (.error f)) : Does settings t (xs.map ofBot) (.failed f)

variable {settings : Bot.Settings} {t : Task} {state after : Members} {xs : Transcript σ}

/-- An attempt saves nothing. -/
theorem Does.question_ne_save {e : Ending σ} (h : Does settings t xs e)
    {x : Exchange (Prompt σ) Prompt.Answer} (hx : x ∈ xs) (text : Text) :
    x.question ≠ .save text := by
  have hbot {ys : List (Exchange (Bot.Prompt σ) Bot.Prompt.Answer)} (hx : x ∈ ys.map ofBot) :
      x.question ≠ .save text := by
    obtain ⟨y, -, rfl⟩ := List.mem_map.1 hx
    exact nofun
  cases h with
  | succeeded bot time ends =>
      obtain hx | hx := List.mem_append.1 hx
      · exact hbot hx
      · simp only [List.mem_cons, List.not_mem_nil, or_false] at hx
        obtain rfl | rfl := hx
        · exact nofun
        · exact nofun
  | failed ends => exact hbot hx

theorem Comes.of_perform {result : Except Fault Members}
    (h : Comes (perform settings t) state xs result after) :
    (∃ ys report bot, xs = ys.map ofBot ++ [⟨.bot .look, bot⟩] ∧
      t.Ends settings ys (.ok report) ∧ result = .ok report ∧
      after = state.putAll (t.achieved bot)) ∨
    ∃ ys f, xs = ys.map ofBot ∧ t.Ends settings ys (.error f) ∧ result = .error f ∧
      after = state := by
  cases t with
  | lifecycle =>
      obtain ⟨ys, zs, report, rfl, hys, hlook⟩ | ⟨ys, f, rfl, hys, rfl, rfl⟩ := of_bot h
      · obtain ⟨bot, zs, rfl, hkeep⟩ := of_look hlook
        cases hkeep
        exact .inl ⟨ys, report.toMembers, bot, rfl, ⟨_, hys, rfl⟩, rfl, rfl⟩
      · exact .inr ⟨ys, f, rfl, ⟨_, hys, rfl⟩, rfl, rfl⟩
  | answering =>
      obtain ⟨ys, zs, tally, rfl, hys, hlook⟩ | ⟨ys, f, rfl, hys, rfl, rfl⟩ := of_bot h
      · obtain ⟨bot, zs, rfl, hkeep⟩ := of_look hlook
        refine .inl ⟨ys, tally.toMembers, bot, ?_⟩
        rw [Task.achieved]
        dsimp only at hkeep
        split at hkeep
        · next hmark =>
            cases hkeep
            rw [if_pos hmark]
            exact ⟨rfl, ⟨_, hys, rfl⟩, rfl, rfl⟩
        · next hmark =>
            cases hkeep
            rw [if_neg hmark]
            exact ⟨rfl, ⟨_, hys, rfl⟩, rfl, rfl⟩
      · exact .inr ⟨ys, f, rfl, ⟨_, hys, rfl⟩, rfl, rfl⟩

/-- An attempt never ends with a fault. -/
theorem Comes.of_attempt {result : Except Fault Members}
    (h : Comes (attempt settings t) state xs result after) :
    ∃ e : Ending σ, Does settings t xs e ∧ result = .ok e.report ∧
      after = state.putAll (e.kept t) := by
  obtain ⟨ys, zs, o, between, rfl, hperform, hrest⟩ := of_outcome h
  obtain ⟨ys, report, bot, rfl, hends, rfl, rfl⟩ | ⟨ys, f, rfl, hends, rfl, rfl⟩ :=
    of_perform hperform
  · obtain ⟨time, zs, rfl, hkeep⟩ := of_put hrest
    cases hkeep
    refine ⟨.succeeded report bot time, ?_, rfl, ?_⟩
    · rw [List.append_assoc]
      exact .succeeded bot time hends
    · exact (Entries.putAll_append state (t.achieved bot)
        [(t.lastRunKey, .float time), (t.lastResultKey, .str "ok".toList)]).symm
  · cases hrest
    rw [List.append_nil]
    exact ⟨.failed f, .failed hends, rfl, rfl⟩

/-! ## All tasks -/

variable {config : Members} {wanted : Selection} {now : Float} {ts : List Task}

/-- Some tasks are attempted as they should be: those that are ready are, and an attempt is
what an attempt can be. -/
structure Course.IsRight (c : Course σ) (settings : Bot.Settings) (config : Members)
    (wanted : Selection) (now : Float) (state : Members) (ts : List Task) : Prop where
  ready : ∀ t ∈ ts, (c t).isSome = true ↔ IsReady wanted config t (t.lastRun state) now
  does : ∀ t ∈ ts, ∀ ys e, c t = some (ys, e) → Does settings t ys e

/-- One more task in front of others: left out, or attempted. -/
theorem Course.IsRight.cons {c : Course σ} {rest : Members} {d : Option (Transcript σ × Ending σ)}
    (h : c.IsRight settings config wanted now rest ts) (ht : t ∉ ts)
    (hrest : ∀ u ∈ ts, u.lastRun rest = u.lastRun state)
    (ready : d.isSome = true ↔ IsReady wanted config t (t.lastRun state) now)
    (does : ∀ ys e, d = some (ys, e) → Does settings t ys e) :
    Course.IsRight (Function.update c t d) settings config wanted now state (t :: ts) where
  ready u hu := by
    obtain rfl | hu := List.mem_cons.1 hu
    · rwa [Function.update_self]
    · rw [Function.update_of_ne (ne_of_mem_of_not_mem hu ht), ← hrest u hu]
      exact h.ready u hu
  does u hu ys e hc := by
    obtain rfl | hu := List.mem_cons.1 hu
    · rw [Function.update_self] at hc
      exact does ys e hc
    · rw [Function.update_of_ne (ne_of_mem_of_not_mem hu ht)] at hc
      exact h.does u hu ys e hc

/-- A task that is not due is left out. -/
theorem Comes.of_skipped {result : Except Fault Members}
    (h : Comes (attemptDue settings config wanted now (t :: ts)) state xs result after)
    (hdue : wanted.isDue t config state now = .ok false) :
    Comes (attemptDue settings config wanted now ts) state xs result after := by
  change Comes (.ofOutcome (wanted.isDue t config state now) >>= _) state xs result after at h
  rw [hdue] at h
  exact h

/-- A task that is due is attempted, and the others follow. -/
theorem Comes.of_due {result : Except Fault Members}
    (h : Comes (attemptDue settings config wanted now (t :: ts)) state xs result after)
    (hdue : wanted.isDue t config state now = .ok true) :
    ∃ ys zs e others, xs = ys ++ zs ∧ Does settings t ys e ∧
      Comes (attemptDue settings config wanted now ts) (state.putAll (e.kept t)) zs others after ∧
      result = others.map fun reports => (t.name, .obj e.report) :: reports := by
  change Comes (.ofOutcome (wanted.isDue t config state now) >>= _) state xs result after at h
  rw [hdue] at h
  change Comes (attempt settings t >>= _) state xs result after at h
  obtain ⟨ys, zs, report, between, rfl, hattempt, hrest⟩ | ⟨f, hattempt, rfl⟩ := of_bind h
  · obtain ⟨e, hdoes, hok, rfl⟩ := of_attempt hattempt
    cases hok
    obtain ⟨zs, ws, reports, between', rfl, hothers, hdone⟩ | ⟨f, hothers, rfl⟩ := of_bind hrest
    · obtain ⟨rfl, rfl, rfl⟩ := of_pure hdone
      rw [List.append_nil]
      exact ⟨ys, zs, e, .ok reports, rfl, hdoes, hothers, rfl⟩
    · exact ⟨ys, zs, e, .error f, rfl, hdoes, hothers, rfl⟩
  · obtain ⟨e, -, hok, -⟩ := of_attempt hattempt
    cases hok

/-- The due ones of some tasks are attempted, one after the other, and no fault comes of it. -/
theorem Comes.of_attemptDue {result : Except Fault Members}
    (h : Comes (attemptDue settings config wanted now ts) state xs result after)
    (nodup : ts.Nodup) (times : ∀ t ∈ ts, IsTime (t.lastRun state))
    (numbers : ∀ t ∈ ts, IsNumber (t.interval config)) :
    ∃ c : Course σ, c.IsRight settings config wanted now state ts ∧ xs = c.exchanges ts ∧
      result = .ok (c.reports ts) ∧ after = state.putAll (c.kept ts) := by
  induction ts generalizing state xs result with
  | nil =>
      cases h
      exact ⟨fun _ => none, ⟨by simp, by simp⟩, rfl, rfl, rfl⟩
  | cons t ts ih =>
      rw [List.forall_mem_cons] at times numbers
      obtain ⟨ht, hts⟩ := List.nodup_cons.1 nodup
      obtain ⟨due, hdue, hready⟩ := isDue_iff wanted times.1 numbers.1 now
      cases due with
      | false =>
          obtain ⟨c, hright, rfl, rfl, rfl⟩ := ih (h.of_skipped hdue) hts times.2 numbers.2
          refine ⟨Function.update c t none, hright.cons ht (fun _ _ => rfl) hready (by simp), ?_⟩
          simp [Course.exchanges, Course.reports, Course.kept, Course.collect_update ht]
      | true =>
          obtain ⟨ys, zs, e, others, rfl, hdoes, hothers, rfl⟩ := h.of_due hdue
          have hlast (u : Task) (hu : u ∈ ts) :
              u.lastRun (state.putAll (e.kept t)) = u.lastRun state := by
            rw [Task.lastRun, Task.lastRun,
              e.get?_putAll_kept (ne_of_mem_of_not_mem hu ht) state u.lastRunKey_mem]
          obtain ⟨c, hright, rfl, rfl, rfl⟩ :=
            ih hothers hts (fun u hu => hlast u hu ▸ times.2 u hu) numbers.2
          refine ⟨Function.update c t (some (ys, e)), hright.cons ht hlast hready ?_, ?_⟩
          · rintro _ _ ⟨⟩
            exact hdoes
          · simp [Course.exchanges, Course.reports, Course.kept, Course.collect_update ht,
              Entries.putAll_append, Except.map]

end Scheduler

end Mycelium
