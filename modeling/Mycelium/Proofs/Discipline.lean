import Mycelium.Proofs.Calls

/-!
# Disciplines

What holds in all runs is proved one call at a time.  A discipline says what is assumed
of the events, what holds at every moment, and what holds while no call goes on.  A
call keeps a discipline if every change that it makes leaves the first, and if the
second holds whenever it turns to a collaborator and when it ends.

While it waits other calls go on.  After that it may rely on what held before only if
no other call can spoil it (`Stable`), and on what holds while no call goes on.

`IsKept.reaches` says that what all operations keep holds in every run.  `ensures_of_asks`
is for operations that ask harmless questions only, so that their text is of no interest.
-/

namespace Mycelium.Bot

variable {σ : Type}

/-- What calls assume and keep. -/
structure Discipline (σ : Type) where
  /-- What is assumed of the event that follows a history. -/
  assumed : List (Event σ) → Event σ → Prop
  /-- What holds at every moment. -/
  always : World σ → Prop
  /-- What holds while no call goes on. -/
  settled : World σ → Prop

namespace Discipline

variable (D : Discipline σ) (c : Nat)

/-- What holds at every moment of a run that is as assumed. -/
structure Holds (w : World σ) : Prop where
  obeys : Obeys D.assumed w.history
  always : D.always w

/-- After an event that is as assumed, what always holds does so still, and something
else holds too. -/
def Leads (w : World σ) (e : Event σ) (k : World σ → Prop) : Prop :=
  Obeys D.assumed (e :: w.history) → D.always (w.after e) ∧ k (w.after e)

/-- No other call can spoil it. -/
def Stable (P : World σ → Prop) : Prop :=
  ∀ w e, e.call ≠ c → D.Holds w → D.Holds (w.after e) → P w → P (w.after e)

/-- The call may wait for an answer. -/
def Awaits (q : Prompt σ) (k : q.Answer → World σ → Prop) (w : World σ) : Prop :=
  ∃ P, P w ∧ D.Stable c P ∧
    ∀ w' r, D.Holds w' → D.settled w' → P w' → D.Leads w' (.answered c q r) (k r)

/-- What has to hold for a question, given what the call needs after the answer. -/
def Demands : (q : Prompt σ) → (q.Answer → World σ → Prop) → World σ → Prop
  | .look, k, w => k w.state w
  | .change ch, k, w => D.Leads w (.changed c ch) (k ())
  | q, k, w => D.settled w ∧ D.Awaits c q k w

/-- A dialogue of the call keeps the discipline and is done as is wanted. -/
def Keeps {α : Type} (post : α → World σ → Prop) :
    Dialogue (Prompt σ) Prompt.Answer α → World σ → Prop
  | .done a, w => post a w
  | .ask q next, w => D.Holds w → D.Demands c q (fun r => Keeps post (next r)) w

/-- A session of the call keeps the discipline and comes out as is wanted. -/
def Ensures {α : Type} (s : Session σ α) (post : Except Fault α → World σ → Prop)
    (w : World σ) : Prop := D.Keeps c post s.run w

/-- The call may end. -/
def Ends (r : Except Fault Result) (w : World σ) : Prop :=
  D.Holds w → D.Leads w (.ended c r) D.settled

/-- Every operation keeps the discipline. -/
def IsKept (settings : Settings) : Prop :=
  ∀ c op w, (∀ e ∈ w.history, e.call ≠ c) → D.Holds w → D.settled w →
    D.Leads w (.began c op) (D.Ensures c (op.session settings) (D.Ends c))

variable {D c} {w : World σ}

theorem Leads.mono {e : Event σ} {k k' : World σ → Prop} (h : D.Leads w e k)
    (imp : ∀ w, k w → k' w) : D.Leads w e k' :=
  fun obeys => ⟨(h obeys).1, imp _ (h obeys).2⟩

theorem Awaits.mono {q : Prompt σ} {k k' : q.Answer → World σ → Prop} (h : D.Awaits c q k w)
    (imp : ∀ r w, k r w → k' r w) : D.Awaits c q k' w := by
  obtain ⟨P, now, stable, next⟩ := h
  exact ⟨P, now, stable, fun w' r holds settled p => (next w' r holds settled p).mono (imp r)⟩

theorem Awaits.after {q : Prompt σ} {k : q.Answer → World σ → Prop} {e : Event σ}
    (h : D.Awaits c q k w) (other : e.call ≠ c) (before : D.Holds w) (holds : D.Holds (w.after e)) :
    D.Awaits c q k (w.after e) := by
  obtain ⟨P, now, stable, next⟩ := h
  exact ⟨P, stable w e other before holds now, stable, next⟩

theorem demands_of_isOutside {q : Prompt σ} (out : q.isOutside) (k : q.Answer → World σ → Prop) :
    D.Demands c q k w ↔ D.settled w ∧ D.Awaits c q k w := by
  cases q with
  | look => cases out
  | change ch => cases out
  | _ => exact Iff.rfl

theorem Demands.mono {q : Prompt σ} {k k' : q.Answer → World σ → Prop} (h : D.Demands c q k w)
    (imp : ∀ r w, k r w → k' r w) : D.Demands c q k' w := by
  cases q with
  | look => exact imp _ _ h
  | change ch => exact Leads.mono h (imp ())
  | _ => exact ⟨h.1, Awaits.mono h.2 imp⟩

/-! ## Rules for sessions -/

section Rules

variable {α β : Type}

theorem Keeps.mono {d : Dialogue (Prompt σ) Prompt.Answer α} {post post' : α → World σ → Prop}
    (h : D.Keeps c post d w) (imp : ∀ a w, post a w → post' a w) : D.Keeps c post' d w := by
  induction d generalizing w with
  | done a => exact imp a w h
  | ask q next ih => exact fun holds => (h holds).mono fun r w hr => ih r hr

theorem keeps_bind (d : Dialogue (Prompt σ) Prompt.Answer α)
    (f : α → Dialogue (Prompt σ) Prompt.Answer β) (post : β → World σ → Prop) :
    D.Keeps c post (d.bind f) = D.Keeps c (fun a => D.Keeps c post (f a)) d := by
  induction d with
  | done a => rfl
  | ask q next ih =>
      funext w
      simp only [Dialogue.ask_bind, Keeps, ih]

/-- What a dialogue comes to is of its kind. -/
theorem Keeps.and_gives {kind : α → Prop} {d : Dialogue (Prompt σ) Prompt.Answer α}
    {post : α → World σ → Prop} (h : D.Keeps c post d w) (gives : d.Gives kind) :
    D.Keeps c (fun a w => post a w ∧ kind a) d w := by
  induction d generalizing w with
  | done a => exact ⟨h, gives⟩
  | ask q next ih => exact fun holds => (h holds).mono fun r w hr => ih r hr (gives r)

variable {s : Session σ α} {post : Except Fault α → World σ → Prop}

theorem Ensures.mono {post' : Except Fault α → World σ → Prop} (h : D.Ensures c s post w)
    (imp : ∀ r w, post r w → post' r w) : D.Ensures c s post' w :=
  Keeps.mono h imp

theorem Ensures.and_gives {kind : Except Fault α → Prop} (h : D.Ensures c s post w)
    (gives : s.Gives kind) : D.Ensures c s (fun r w => post r w ∧ kind r) w :=
  Keeps.and_gives h gives

theorem ensures_ofOutcome (r : Except Fault α) :
    D.Ensures c (.ofOutcome r) post w ↔ post r w := Iff.rfl

theorem ensures_bind {f : α → Session σ β} {post : Except Fault β → World σ → Prop} :
    D.Ensures c (s >>= f) post w ↔
      D.Ensures c s (fun r w =>
        match r with
        | .ok a => D.Ensures c (f a) post w
        | .error e => post (.error e) w) w := by
  have hbind := congrFun (keeps_bind (D := D) (c := c) s.run (ExceptT.bindCont f) post) w
  refine (iff_of_eq hbind).trans ?_
  constructor
  · refine fun h => Keeps.mono h fun r w hr => ?_
    cases r <;> exact hr
  · refine fun h => Keeps.mono h fun r w hr => ?_
    cases r <;> exact hr

theorem ensures_map (f : α → β) {post : Except Fault β → World σ → Prop} :
    D.Ensures c (f <$> s) post w ↔ D.Ensures c s (fun r => post (r.map f)) w := by
  rw [← bind_pure_comp, ensures_bind]
  constructor
  · refine fun h => h.mono fun r w hr => ?_
    cases r <;> exact hr
  · refine fun h => h.mono fun r w hr => ?_
    cases r <;> exact hr

theorem ensures_outcome {post : Except Fault (Except Fault α) → World σ → Prop} :
    D.Ensures c s.outcome post w ↔ D.Ensures c s (fun r => post (.ok r)) w := by
  let given (r : Except Fault α) :
      Dialogue (Prompt σ) Prompt.Answer (Except Fault (Except Fault α)) := .done (.ok r)
  exact iff_of_eq (congrFun (keeps_bind s.run given post) w)

theorem ensures_look {post : Except Fault (State σ) → World σ → Prop} :
    D.Ensures c .look post w ↔ (D.Holds w → post (.ok w.state) w) := Iff.rfl

theorem ensures_change {ch : Change σ} {post : Except Fault Unit → World σ → Prop} :
    D.Ensures c (.change ch) post w ↔
      (D.Holds w → D.Leads w (.changed c ch) (post (.ok ()))) := Iff.rfl

/-- A session may turn to a collaborator while all is settled. -/
theorem keeps_put (q : Prompt σ) (out : q.isOutside) {post : q.Answer → World σ → Prop} :
    D.Keeps c post (Dialogue.put q) w ↔ (D.Holds w → D.settled w ∧ D.Awaits c q post w) := by
  constructor
  · exact fun h holds => (demands_of_isOutside out post).1 (h holds)
  · exact fun h holds => (demands_of_isOutside out post).2 (h holds)

end Rules

/-! ## Operations that ask harmless questions -/

/-- A session whose questions are all of a kind that leaves what is settled so. -/
theorem ensures_of_asks {α : Type} {kind : Prompt σ → Prop} {P : World σ → Prop}
    (stable : D.Stable c P)
    (harmless : ∀ w e q, e.call = c → e.prompt? = some q → kind q → D.Holds w → D.settled w →
      P w → D.Leads w e fun w => D.settled w ∧ P w)
    {s : Session σ α} (asks : s.Asks kind) (settled : D.settled w) (now : P w) :
    D.Ensures c s (fun _ w => D.settled w ∧ P w) w := by
  -- every question leaves what is settled so, so the text of the session is of no interest
  suffices hkeeps : ∀ (d : Dialogue (Prompt σ) Prompt.Answer (Except Fault α)) (w : World σ),
      d.Asks kind → D.settled w → P w → D.Keeps c (fun _ w => D.settled w ∧ P w) d w from
    hkeeps s.run w asks settled now
  intro d
  induction d with
  | done a => exact fun w _ settled now => ⟨settled, now⟩
  | ask q next ih =>
      intro w asks settled now holds
      cases q with
      | look => exact ih w.state w (asks.2 _) settled now
      | change ch =>
          refine (harmless w (.changed c ch) _ rfl rfl asks.1 holds settled now).mono ?_
          exact fun w h => ih () w (asks.2 ()) h.1 h.2
      | _ =>
          refine ⟨settled, P, now, stable, fun w' r holds' settled' p => ?_⟩
          refine (harmless w' (.answered c _ r) _ rfl rfl asks.1 holds' settled' p).mono ?_
          exact fun w h => ih r w (asks.2 r) h.1 h.2

/-! ## Runs -/

/-- At a moment of a run all goes by the discipline. -/
structure Governs (D : Discipline σ) (m : Moment σ) : Prop where
  /-- What holds at every moment. -/
  holds : D.Holds m.world
  /-- What holds while no call goes on. -/
  settled : m.running = none → D.settled m.world
  /-- The call that goes on keeps the discipline. -/
  running : ∀ c d, m.running = some (c, d) → D.Keeps c (D.Ends c) d m.world
  /-- The calls that wait may do so. -/
  waiting : ∀ c d, m.waiting c = some d → ∃ q next, d = .ask q next ∧
    D.Awaits c q (fun r => D.Keeps c (D.Ends c) (next r)) m.world

theorem Governs.still_waiting {m : Moment σ} (governs : D.Governs m) {e : Event σ}
    {d : Remainder σ} (waits : m.waiting c = some d) (other : e.call ≠ c)
    (holds : D.Holds (m.world.after e)) :
    ∃ q next, d = .ask q next ∧
      D.Awaits c q (fun r => D.Keeps c (D.Ends c) (next r)) (m.world.after e) := by
  obtain ⟨q, next, hd, awaits⟩ := governs.waiting c d waits
  exact ⟨q, next, hd, awaits.after other governs.holds holds⟩

theorem Governs.step {settings : Settings} (kept : D.IsKept settings)
    {m m' : Moment σ} (step : Step settings m m') (proper : m.IsProper) (governs : D.Governs m)
    (obeys : Obeys D.assumed m'.world.history) : D.Governs m' := by
  cases step with
  | @begin w waiting c op new =>
      have hleads := kept c op w new governs.holds (governs.settled rfl) obeys
      refine ⟨⟨obeys, hleads.1⟩, (nomatch ·), ?_, ?_⟩
      · rintro _ _ ⟨⟩
        exact hleads.2
      · intro c' d hd
        refine governs.still_waiting hd ?_ ⟨obeys, hleads.1⟩
        exact proper.ne_of_new new hd
  | @look w waiting c next =>
      refine ⟨governs.holds, (nomatch ·), ?_, governs.waiting⟩
      rintro _ _ ⟨⟩
      exact governs.running c _ rfl governs.holds
  | @change w waiting c ch next =>
      have hleads := governs.running c _ rfl governs.holds obeys
      refine ⟨⟨obeys, hleads.1⟩, (nomatch ·), ?_, ?_⟩
      · rintro _ _ ⟨⟩
        exact hleads.2
      · intro c' d hd
        refine governs.still_waiting hd ?_ ⟨obeys, hleads.1⟩
        exact proper.ne_of_running rfl hd
  | @wait w waiting c q next out =>
      -- what the call needs after the answer goes over to the calls that wait
      obtain ⟨settled, awaits⟩ :=
        (demands_of_isOutside out _).1 (governs.running c _ rfl governs.holds)
      refine ⟨governs.holds, fun _ => settled, fun _ _ => (nomatch ·), ?_⟩
      intro c' d hd
      by_cases hcc : c' = c
      · subst hcc
        exact ⟨q, next, by simpa using hd.symm, awaits⟩
      · exact governs.waiting c' d (by simpa [hcc] using hd)
  | @answer w waiting c q next asked r =>
      -- no event of another call has spoiled `P` since the question
      obtain ⟨_, _, ⟨⟩, P, now, -, hnext⟩ := governs.waiting c _ asked
      have hleads := hnext w r governs.holds (governs.settled rfl) now obeys
      refine ⟨⟨obeys, hleads.1⟩, (nomatch ·), ?_, ?_⟩
      · rintro _ _ ⟨⟩
        exact hleads.2
      · intro c' d hd
        by_cases hcc : c' = c
        · simp [hcc] at hd
        · refine governs.still_waiting ?_ (fun heq => hcc heq.symm) ⟨obeys, hleads.1⟩
          simpa [hcc] using hd
  | @finish w waiting c r =>
      have hleads := governs.running c _ rfl governs.holds obeys
      refine ⟨⟨obeys, hleads.1⟩, fun _ => hleads.2, fun _ _ => (nomatch ·), ?_⟩
      intro c' d hd
      refine governs.still_waiting hd ?_ ⟨obeys, hleads.1⟩
      exact proper.ne_of_running rfl hd

/-- What every operation keeps holds at every moment of every run. -/
theorem IsKept.reaches {settings : Settings} (kept : D.IsKept settings)
    {s : State σ} (always : D.always ⟨s, []⟩) (settled : D.settled ⟨s, []⟩) {m : Moment σ}
    (reaches : Reaches settings s m) (obeys : Obeys D.assumed m.world.history) :
    D.Governs m := by
  induction reaches with
  | refl =>
      exact ⟨⟨trivial, always⟩, fun _ => settled, fun _ _ => (nomatch ·),
        fun _ _ => (nomatch ·)⟩
  | tail before step ih =>
      obtain ⟨later, hlater⟩ := step.history_isSuffix
      have hobeys := (hlater ▸ obeys).earlier
      exact (ih hobeys).step kept step (Reaches.isProper before) obeys

end Discipline

end Mycelium.Bot
