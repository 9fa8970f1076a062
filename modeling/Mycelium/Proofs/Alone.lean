import Mycelium.Proofs.Ledger

/-!
# Calls that go on alone

If no call begins while another one goes on, and the collaborators answer by what has
happened so far, then what happens is computed (`World.calls`).  It is a run
(`reaches_calls`), and it obeys every law that the collaborators obey
(`World.obeys_calls`).

What a call comes to that goes on alone is found by running it forwards, one question after the
other (`Session.Yields`).

A call may also begin inside another one, while the other one asks its first question
(`World.callInside`).  This is a run too (`reaches_callInside`).
-/

namespace Mycelium.Bot

variable {σ : Type}

namespace World

/-! ## Between two calls -/

/-- No call goes on, and the next number is a new one. -/
structure IsIdle (w : World σ) : Prop where
  numbered : ∀ e ∈ w.history, e.call < w.history.length
  idle : ∀ c op, ¬ Ongoing c op w.history

theorem IsIdle.start (s : State σ) : (⟨s, []⟩ : World σ).IsIdle where
  numbered _ he := absurd he List.not_mem_nil
  idle _ _ ongoing := absurd ongoing.1 List.not_mem_nil

/-- Only one call goes on. -/
structure IsBusyWith (c : Nat) (w : World σ) : Prop where
  numbered : ∀ e ∈ w.history, e.call < w.history.length
  lt : c < w.history.length
  only : ∀ c' op, Ongoing c' op w.history → c' = c

theorem IsBusyWith.after {c : Nat} {w : World σ} (busy : w.IsBusyWith c) (e : Event σ)
    (mine : e.call = c) (going : ∀ op, e ≠ .began c op) : (w.after e).IsBusyWith c where
  numbered d hd := by
    rcases List.mem_cons.1 hd with rfl | hd
    · exact mine ▸ Nat.lt_succ_of_lt busy.lt
    · exact Nat.lt_succ_of_lt (busy.numbered d hd)
  lt := Nat.lt_succ_of_lt busy.lt
  only c' op ongoing := by
    rcases ongoing.of_cons with rfl | hongoing
    · exact mine
    · exact busy.only c' op hongoing

/-- The world after a call got what it asked for. -/
def told (w : World σ) (c : Nat) : (q : Prompt σ) → q.Answer → World σ
  | .look, _ => w
  | .change ch, _ => w.after (.changed c ch)
  | q, r => w.after (.answered c q r)

theorem IsBusyWith.told {c : Nat} {w : World σ} (busy : w.IsBusyWith c) (q : Prompt σ)
    (r : q.Answer) : (w.told c q r).IsBusyWith c := by
  cases q with
  | look => exact busy
  | change ch => exact busy.after (.changed c ch) rfl nofun
  | _ => exact busy.after (.answered c _ r) rfl nofun

theorem IsBusyWith.ended {c : Nat} {w : World σ} (busy : w.IsBusyWith c) (r : Except Fault Result) :
    (w.after (.ended c r)).IsIdle where
  numbered := (busy.after (.ended c r) rfl nofun).numbered
  idle c' op ongoing := by
    obtain rfl : c' = c := (busy.after (.ended c r) rfl nofun).only c' op ongoing
    exact ongoing.2 r List.mem_cons_self

theorem IsIdle.began {w : World σ} (idle : w.IsIdle) (op : Operation) :
    (w.after (.began w.history.length op)).IsBusyWith w.history.length where
  numbered d hd := by
    rcases List.mem_cons.1 hd with rfl | hd
    · exact Nat.lt_succ_self _
    · exact Nat.lt_succ_of_lt (idle.numbered d hd)
  lt := Nat.lt_succ_self _
  only c' op' ongoing := by
    rcases ongoing.of_cons with heq | hongoing
    · cases heq
      rfl
    · exact absurd hongoing (idle.idle c' op')

end World

/-! ## Calls -/

variable [RandomSource σ]

/-- How collaborators answer, given what has happened so far. -/
structure Surroundings (σ : Type) [RandomSource σ] where
  /-- What was posted lately under a hashtag. -/
  candidates : List (Event σ) → Except Fault (List (Except Fault Post)) := fun _ => .ok []
  /-- The mentions that are newer than a mark. -/
  mentions : List (Event σ) → Json → Except Fault (List (Except Fault Mention)) := fun _ _ => .ok []
  /-- Whether a message is published. -/
  publish : List (Event σ) → Text → Except Fault Unit := fun _ _ => .ok ()
  /-- Whether a mention is answered. -/
  reply : List (Event σ) → Mention → Except Fault Unit := fun _ _ => .ok ()
  /-- The fitness that a log gets. -/
  score : List (Event σ) → Log → Except Fault Float := fun _ _ => .ok 0.0
  /-- What comes of breeding.  The engine is the bot's own with the usual rates, unless it is another
  one. -/
  breed : List (Event σ) → Scored → List Scored → List Scored → σ → Except Fault RuleSystem × σ :=
    fun _ => ownEngine {}

/-- What a call gets that asks a question. -/
def Surroundings.answer (surroundings : Surroundings σ) (w : World σ) : (q : Prompt σ) → q.Answer
  | .look => w.state
  | .change _ => ()
  | .candidates _ _ => surroundings.candidates w.history
  | .mentions since => surroundings.mentions w.history since
  | .publish message => surroundings.publish w.history message
  | .reply _ m => surroundings.reply w.history m
  | .score _ log => surroundings.score w.history log
  | .breed published lineage others source =>
      surroundings.breed w.history published lineage others source

namespace World

/-- The world after the rest of a call that goes on alone. -/
def rest (surroundings : Surroundings σ) (c : Nat) : Remainder σ → World σ → World σ
  | .done r, w => w.after (.ended c r)
  | .ask q next, w =>
      let r := surroundings.answer w q
      rest surroundings c (next r) (w.told c q r)

/-- The world after a call that goes on alone. -/
def call (settings : Settings) (surroundings : Surroundings σ) (c : Nat)
    (op : Operation) (w : World σ) : World σ :=
  rest surroundings c (op.session settings).run (w.after (.began c op))

/-- The world after calls that go on one after the other, each of them numbered by how
much has happened before it. -/
def calls (settings : Settings) (surroundings : Surroundings σ)
    (ops : List Operation) (w : World σ) : World σ :=
  ops.foldl (fun w op => w.call settings surroundings w.history.length op) w

/-- The world after the rest of a call that goes on alone, but for what happens while it asks
its first question. -/
def interrupted (surroundings : Surroundings σ) (c : Nat) (inside : World σ → World σ) :
    Remainder σ → World σ → World σ
  | .done r, w => w.after (.ended c r)
  | .ask .look next, w => interrupted surroundings c inside (next w.state) w
  | .ask (.change ch) next, w =>
      interrupted surroundings c inside (next ()) (w.after (.changed c ch))
  | .ask q next, w =>
      let r := surroundings.answer (inside w) q
      rest surroundings c (next r) ((inside w).told c q r)

/-- The world after a call that goes on alone, but for another one that begins and ends
while it asks its first question. -/
def callInside (settings : Settings) (surroundings : Surroundings σ)
    (op inner : Operation) (w : World σ) : World σ :=
  interrupted surroundings w.history.length
    (fun w => w.call settings surroundings w.history.length inner)
    (op.session settings).run (w.after (.began w.history.length op))

end World

/-- Collaborators that answer as a law wants it, which wants nothing else of a call that
goes on. -/
structure Surroundings.Obey (surroundings : Surroundings σ)
    (law : List (Event σ) → Event σ → Prop) : Prop where
  answered : ∀ w c q, law w.history (.answered c q (surroundings.answer w q))
  changed : ∀ h c ch, law h (.changed c ch)
  ended : ∀ h c r, law h (.ended c r)

namespace World

theorem IsBusyWith.rest {c : Nat} {w : World σ} (busy : w.IsBusyWith c)
    (surroundings : Surroundings σ) (d : Remainder σ) :
    (World.rest surroundings c d w).IsIdle := by
  induction d generalizing w with
  | done r => exact busy.ended r
  | ask q next ih => exact ih _ (busy.told q _)

theorem IsIdle.call {w : World σ} (idle : w.IsIdle) (settings : Settings)
    (surroundings : Surroundings σ) (op : Operation) :
    (w.call settings surroundings w.history.length op).IsIdle :=
  (idle.began op).rest surroundings _

theorem IsIdle.calls {w : World σ} (idle : w.IsIdle) (settings : Settings)
    (surroundings : Surroundings σ) (ops : List Operation) :
    (w.calls settings surroundings ops).IsIdle := by
  induction ops generalizing w with
  | nil => exact idle
  | cons op ops ih => exact ih (idle.call settings surroundings op)

/-! ## Laws -/

variable {surroundings : Surroundings σ} {law : List (Event σ) → Event σ → Prop}

theorem obeys_rest (obey : surroundings.Obey law) {c : Nat} {w : World σ} (d : Remainder σ)
    (obeys : Obeys law w.history) : Obeys law (rest surroundings c d w).history := by
  induction d generalizing w with
  | done r => exact ⟨obey.ended _ c r, obeys⟩
  | ask q next ih =>
      cases q with
      | look => exact ih _ obeys
      | change ch => exact ih _ ⟨obey.changed _ c ch, obeys⟩
      | _ => exact ih _ ⟨obey.answered w c _, obeys⟩

variable {settings : Settings}

/-- Calls that go on one after the other obey every law that the collaborators obey. -/
theorem obeys_calls (obey : surroundings.Obey law)
    (began : ∀ w : World σ, ∀ op, w.IsIdle → law w.history (.began w.history.length op))
    (ops : List Operation) {w : World σ} (idle : w.IsIdle) (obeys : Obeys law w.history) :
    Obeys law (w.calls settings surroundings ops).history := by
  induction ops generalizing w with
  | nil => exact obeys
  | cons op ops ih =>
      exact ih (idle.call settings surroundings op)
        (obeys_rest obey _ ⟨began w op idle, obeys⟩)

theorem obeys_startsAlone_calls (ops : List Operation) {w : World σ} (idle : w.IsIdle)
    (obeys : Obeys Event.StartsAlone w.history) :
    Obeys Event.StartsAlone (w.calls settings surroundings ops).history := by
  refine obeys_calls ⟨fun _ _ _ => trivial, fun _ _ _ => trivial, fun _ _ _ => trivial⟩ ?_ ops idle
    obeys
  intro w op idle
  cases op with
  | answerMentions => exact fun c => idle.idle c _
  | _ => trivial

end World

/-! ## Sessions -/

section Rules

variable {α β : Type} {surroundings : Surroundings σ} {c : Nat} {w : World σ}

variable (surroundings c) in
/-- A dialogue of a call that goes on alone is done as is wanted. -/
def Plays (post : α → World σ → Prop) : Dialogue (Prompt σ) Prompt.Answer α → World σ → Prop
  | .done a, w => post a w
  | .ask q next, w =>
      let r := surroundings.answer w q
      Plays post (next r) (w.told c q r)

variable (surroundings c) in
theorem plays_bind (d : Dialogue (Prompt σ) Prompt.Answer α)
    (f : α → Dialogue (Prompt σ) Prompt.Answer β) (post : β → World σ → Prop) :
    Plays surroundings c post (d.bind f) =
      Plays surroundings c (fun a => Plays surroundings c post (f a)) d := by
  induction d with
  | done a => rfl
  | ask q next ih =>
      funext w
      simp only [Dialogue.ask_bind, Plays, ih]

theorem Plays.mono {d : Dialogue (Prompt σ) Prompt.Answer α} {post post' : α → World σ → Prop}
    (h : Plays surroundings c post d w) (imp : ∀ a w, post a w → post' a w) :
    Plays surroundings c post' d w := by
  induction d generalizing w with
  | done a => exact imp a w h
  | ask q next ih => exact ih _ h

/-- A call ends after its dialogue is done. -/
theorem Plays.rest {post : Except Fault Result → World σ → Prop} {d : Remainder σ}
    (h : Plays surroundings c post d w) :
    ∃ r w', post r w' ∧ World.rest surroundings c d w = w'.after (.ended c r) := by
  induction d generalizing w with
  | done r => exact ⟨r, w, h, rfl⟩
  | ask q next ih => exact ih _ h

namespace Session

variable {s : Session σ α} {post : Except Fault α → World σ → Prop}

variable (surroundings c) in
/-- A session of a call that goes on alone comes out as is wanted. -/
def Yields (s : Session σ α) (post : Except Fault α → World σ → Prop) (w : World σ) : Prop :=
  Plays surroundings c post s.run w

theorem Yields.mono {post' : Except Fault α → World σ → Prop}
    (h : Yields surroundings c s post w) (imp : ∀ r w, post r w → post' r w) :
    Yields surroundings c s post' w :=
  Plays.mono h imp

theorem yields_bind {f : α → Session σ β} {post : Except Fault β → World σ → Prop} :
    Yields surroundings c (s >>= f) post w ↔
      Yields surroundings c s (fun r w =>
        match r with
        | .ok a => Yields surroundings c (f a) post w
        | .error e => post (.error e) w) w := by
  have hbind := plays_bind surroundings c s.run (ExceptT.bindCont f) post
  refine (iff_of_eq (congrFun hbind w)).trans ⟨fun h => Plays.mono h ?_, fun h => Plays.mono h ?_⟩
  · intro r w hr
    cases r <;> exact hr
  · intro r w hr
    cases r <;> exact hr

theorem yields_map (f : α → β) {post : Except Fault β → World σ → Prop} :
    Yields surroundings c (f <$> s) post w ↔
      Yields surroundings c s (fun r => post (r.map f)) w := by
  rw [← bind_pure_comp, yields_bind]
  constructor
  · refine fun h => h.mono fun r w hr => ?_
    cases r <;> exact hr
  · refine fun h => h.mono fun r w hr => ?_
    cases r <;> exact hr

/-- A call comes out as its session does. -/
theorem Yields.call {op : Operation} {f : α → Result} (settings : Settings)
    (does : op.session settings = f <$> s)
    (h : Yields surroundings c s post (w.after (.began c op))) :
    ∃ r w', post r w' ∧ w.call settings surroundings c op = w'.after (.ended c (r.map f)) := by
  have ends : Yields surroundings c (op.session settings)
      (fun r w' => ∃ r', r = r'.map f ∧ post r' w') (w.after (.began c op)) := by
    rw [does]
    exact (yields_map f).2 (h.mono fun r w' hr => ⟨r, rfl, hr⟩)
  obtain ⟨_, w', ⟨r, rfl, hr⟩, hcall⟩ := ends.rest
  exact ⟨r, w', hr, hcall⟩

theorem yields_outcome {post : Except Fault (Except Fault α) → World σ → Prop} :
    Yields surroundings c s.outcome post w ↔
      Yields surroundings c s (fun r => post (.ok r)) w := by
  let given (r : Except Fault α) :
      Dialogue (Prompt σ) Prompt.Answer (Except Fault (Except Fault α)) := .done (.ok r)
  exact iff_of_eq (congrFun (plays_bind surroundings c s.run given post) w)

theorem yields_look {post : Except Fault (State σ) → World σ → Prop} :
    Yields surroundings c look post w ↔ post (.ok w.state) w := Iff.rfl

theorem yields_change {ch : Change σ} {post : Except Fault Unit → World σ → Prop} :
    Yields surroundings c (change ch) post w ↔ post (.ok ()) (w.after (.changed c ch)) := Iff.rfl

theorem yields_candidates {tag : Text} {limit : Int}
    {post : Except Fault (List (Except Fault Post)) → World σ → Prop} :
    Yields surroundings c (candidates tag limit) post w ↔
      post (surroundings.candidates w.history)
        (w.after (.answered c (.candidates tag limit) (surroundings.candidates w.history))) :=
  Iff.rfl

theorem yields_mentions {since : Json}
    {post : Except Fault (List (Except Fault Mention)) → World σ → Prop} :
    Yields surroundings c (mentions since) post w ↔
      post (surroundings.mentions w.history since)
        (w.after (.answered c (.mentions since) (surroundings.mentions w.history since))) :=
  Iff.rfl

theorem yields_publish {message : Text} {post : Except Fault Unit → World σ → Prop} :
    Yields surroundings c (publish message) post w ↔
      post (surroundings.publish w.history message)
        (w.after (.answered c (.publish message) (surroundings.publish w.history message))) :=
  Iff.rfl

theorem yields_reply {text : Text} {m : Mention} {post : Except Fault Unit → World σ → Prop} :
    Yields surroundings c (reply text m) post w ↔
      post (surroundings.reply w.history m)
        (w.after (.answered c (.reply text m) (surroundings.reply w.history m))) :=
  Iff.rfl

theorem yields_score {system : RuleSystem} {log : Log}
    {post : Except Fault Float → World σ → Prop} :
    Yields surroundings c (score system log) post w ↔
      post (surroundings.score w.history log)
        (w.after (.answered c (.score system log) (surroundings.score w.history log))) :=
  Iff.rfl

end Session

end Rules

/-! ## Runs -/

variable {settings : Settings} {s : State σ} {w : World σ}
  {waiting : Nat → Option (Remainder σ)}

/-- The rest of a call is part of a run, and leaves other calls waiting. -/
theorem Reaches.rest (surroundings : Surroundings σ) {c : Nat} {d : Remainder σ}
    (reaches : Reaches settings s ⟨w, some (c, d), waiting⟩) :
    ∃ waiting', (∀ c', c' ≠ c → waiting' c' = waiting c') ∧
      Reaches settings s ⟨World.rest surroundings c d w, none, waiting'⟩ := by
  induction d generalizing w waiting with
  | done r => exact ⟨waiting, fun _ _ => rfl, reaches.tail .finish⟩
  | ask q next ih =>
      cases q with
      | look => exact ih _ (reaches.tail .look)
      | change ch => exact ih _ (reaches.tail .change)
      | _ =>
          obtain ⟨waiting', same, hreaches⟩ :=
            ih _ ((reaches.tail (.wait rfl)).tail (.answer (Function.update_self _ _ _) _))
          refine ⟨waiting', fun c' hne => (same c' hne).trans ?_, hreaches⟩
          rw [Function.update_of_ne hne, Function.update_of_ne hne]

theorem Reaches.call (surroundings : Surroundings σ)
    (numbered : ∀ e ∈ w.history, e.call < w.history.length) (op : Operation)
    (reaches : Reaches settings s ⟨w, none, waiting⟩) :
    ∃ waiting', (∀ c, c ≠ w.history.length → waiting' c = waiting c) ∧
      Reaches settings s
        ⟨w.call settings surroundings w.history.length op, none, waiting'⟩ :=
  Reaches.rest surroundings (reaches.tail (.begin _ op fun e he => Nat.ne_of_lt (numbered e he)))

/-- Calls that go on one after the other are a run. -/
theorem reaches_calls (idle : w.IsIdle) (surroundings : Surroundings σ) (ops : List Operation)
    (reaches : Reaches settings s ⟨w, none, waiting⟩) :
    ∃ waiting, Reaches settings s ⟨w.calls settings surroundings ops, none, waiting⟩ := by
  induction ops generalizing w waiting with
  | nil => exact ⟨waiting, reaches⟩
  | cons op ops ih =>
      obtain ⟨waiting', -, hreaches⟩ := Reaches.call surroundings idle.numbered op reaches
      exact ih (idle.call settings surroundings op) hreaches

theorem Reaches.interrupted (surroundings : Surroundings σ) (inner : Operation) {c : Nat}
    {d : Remainder σ} (busy : w.IsBusyWith c)
    (reaches : Reaches settings s ⟨w, some (c, d), waiting⟩) :
    ∃ waiting, Reaches settings s ⟨World.interrupted surroundings c
      (fun w => w.call settings surroundings w.history.length inner) d w, none, waiting⟩ := by
  induction d generalizing w waiting with
  | done r => exact ⟨waiting, reaches.tail .finish⟩
  | ask q next ih =>
      cases q with
      | look => exact ih _ busy (reaches.tail .look)
      | change ch =>
          exact ih _ (busy.after (.changed c ch) rfl nofun) (reaches.tail .change)
      | _ =>
          -- the inner call leaves the outer one waiting, whose number is another one
          obtain ⟨waiting', same, hreaches⟩ :=
            Reaches.call surroundings busy.numbered inner (reaches.tail (.wait rfl))
          have asked := (same c (Nat.ne_of_lt busy.lt)).trans (Function.update_self _ _ _)
          obtain ⟨waiting, -, hrest⟩ := Reaches.rest surroundings
            (hreaches.tail (.answer asked (surroundings.answer _ _)))
          exact ⟨waiting, hrest⟩

/-- A call that begins and ends inside another one is part of a run. -/
theorem reaches_callInside (idle : w.IsIdle) (surroundings : Surroundings σ)
    (op inner : Operation) (reaches : Reaches settings s ⟨w, none, waiting⟩) :
    ∃ waiting,
      Reaches settings s ⟨w.callInside settings surroundings op inner, none, waiting⟩ :=
  Reaches.interrupted surroundings inner (idle.began op)
    (reaches.tail (.begin _ op fun e he => Nat.ne_of_lt (idle.numbered e he)))

end Mycelium.Bot
