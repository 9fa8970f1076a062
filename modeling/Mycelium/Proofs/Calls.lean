import Mycelium.Proofs.Runs

/-!
# What calls do

Every operation asks questions of its own kind only, whatever the answers are
(`Operation.asks_session`).  So an event of a run tells which operations the call may
be of in which it happened.

What a dialogue may come to is told the same way (`Dialogue.Gives`).
-/

namespace Mycelium

/-- Every question of a dialogue is of some kind. -/
def Dialogue.Asks {Q : Type} {A : Q → Type} {α : Type} (kind : Q → Prop) : Dialogue Q A α → Prop
  | done _ => True
  | ask q next => kind q ∧ ∀ r, (next r).Asks kind

theorem Dialogue.Asks.bind {Q : Type} {A : Q → Type} {α β : Type} {kind : Q → Prop}
    {d : Dialogue Q A α} {f : α → Dialogue Q A β} (asks : d.Asks kind)
    (rest : ∀ a, (f a).Asks kind) : (d.bind f).Asks kind := by
  induction d with
  | done a => exact rest a
  | ask q next ih => exact ⟨asks.1, fun r => ih r (asks.2 r)⟩

/-- A dialogue comes to results of some kind only, whatever the answers are. -/
def Dialogue.Gives {Q : Type} {A : Q → Type} {α : Type} (kind : α → Prop) : Dialogue Q A α → Prop
  | done a => kind a
  | ask _ next => ∀ r, (next r).Gives kind

theorem Dialogue.Gives.bind {Q : Type} {A : Q → Type} {α β : Type} {kind : β → Prop}
    (d : Dialogue Q A α) {f : α → Dialogue Q A β} (rest : ∀ a, (f a).Gives kind) :
    (d.bind f).Gives kind := by
  induction d with
  | done a => exact rest a
  | ask q next ih => exact fun r => ih r

namespace Bot

variable {σ : Type}

namespace Session

variable {α β : Type} {kind : Prompt σ → Prop} {s : Session σ α}

/-- Every question of a session is of some kind. -/
def Asks (kind : Prompt σ → Prop) (s : Session σ α) : Prop := Dialogue.Asks kind s.run

namespace Asks

theorem pure (a : α) : Asks kind (Pure.pure a : Session σ α) := trivial

theorem throw (f : Fault) : Asks kind (MonadExcept.throw f : Session σ α) := trivial

theorem ofOutcome (r : Except Fault α) : Asks kind (Session.ofOutcome r : Session σ α) := trivial

theorem bind {f : α → Session σ β} (asks : s.Asks kind) (rest : ∀ a, (f a).Asks kind) :
    (s >>= f).Asks kind := by
  refine Dialogue.Asks.bind asks fun r => ?_
  cases r with
  | ok a => exact rest a
  | error e => trivial

theorem map (f : α → β) (asks : s.Asks kind) : (f <$> s).Asks kind := by
  rw [← bind_pure_comp]
  exact asks.bind fun _ => trivial

theorem outcome (asks : s.Asks kind) : s.outcome.Asks kind :=
  Dialogue.Asks.bind asks fun _ => trivial

theorem look (h : kind .look) : Asks kind (Session.look : Session σ (State σ)) :=
  ⟨h, fun _ => trivial⟩

theorem change {ch : Change σ} (h : kind (.change ch)) : (Session.change ch).Asks kind :=
  ⟨h, fun _ => trivial⟩

theorem candidates {tag : Text} {limit : Int} (h : kind (.candidates tag limit)) :
    (Session.candidates tag limit).Asks kind :=
  ⟨h, fun _ => trivial⟩

theorem mentions {since : Json} (h : kind (.mentions since)) :
    (Session.mentions since).Asks kind :=
  ⟨h, fun _ => trivial⟩

theorem publish {message : Text} (h : kind (.publish message)) :
    (Session.publish message).Asks kind :=
  ⟨h, fun _ => trivial⟩

theorem reply {text : Text} {m : Mention} (h : kind (.reply text m)) :
    (Session.reply text m).Asks kind :=
  ⟨h, fun _ => trivial⟩

theorem score {system : RuleSystem} {log : Log} (h : kind (.score system log)) :
    (Session.score system log).Asks kind :=
  ⟨h, fun _ => trivial⟩

theorem breed {published : Scored} {lineage others : List Scored} {source : σ}
    (h : kind (.breed published lineage others source)) :
    (Session.breed published lineage others source).Asks kind :=
  ⟨h, fun _ => trivial⟩

end Asks

/-- A session comes to outcomes of some kind only. -/
def Gives (kind : Except Fault α → Prop) (s : Session σ α) : Prop := Dialogue.Gives kind s.run

/-- A session that goes on after another one comes to what it goes on with, or to a fault. -/
theorem Gives.bind {kind : Except Fault β → Prop} (s : Session σ α) {f : α → Session σ β}
    (fault : ∀ e, kind (.error e)) (rest : ∀ a, (f a).Gives kind) : (s >>= f).Gives kind := by
  refine Dialogue.Gives.bind s.run fun r => ?_
  cases r with
  | ok a => exact rest a
  | error e => exact fault e

theorem Gives.map {kind : Except Fault β → Prop} (f : α → β) (s : Session σ α)
    (fault : ∀ e, kind (.error e)) (result : ∀ a, kind (.ok (f a))) : (f <$> s).Gives kind := by
  rw [← bind_pure_comp]
  exact .bind s fault result

end Session

/-! ## What each operation asks -/

/-- What the search for a first rule system asks. -/
def Prompt.isOfSearch : Prompt σ → Bool
  | candidates _ _ => true
  | change (.enter _) => true
  | change (.seed _) => true
  | _ => false

/-- What answering a text asks. -/
def Prompt.isOfAnswer : Prompt σ → Bool
  | look => true
  | change (.record _) => true
  | _ => false

/-- What answering the mentions asks, besides what answering a text asks. -/
def Prompt.isOfMentions : Prompt σ → Bool
  | mentions _ => true
  | reply _ _ => true
  | change (.remember _) => true
  | change (.advance _) => true
  | _ => false

/-- What a cycle asks, besides what the search asks. -/
def Prompt.isOfCycle : Prompt σ → Bool
  | look => true
  | publish _ => true
  | score _ _ => true
  | breed _ _ _ _ => true
  | change (.judge _) => true
  | change (.complete _ _ _ _) => true
  | change (.draw _) => true
  | change .start => true
  | change .stop => true
  | _ => false

/-- What a cycle asks between its start and its stop, besides what the search asks. -/
def Prompt.isInsideCycle : Prompt σ → Bool
  | change .start => false
  | change .stop => false
  | q => q.isOfCycle

/-- What an operation may ask. -/
def Operation.mayAsk : Operation → Prompt σ → Bool
  | search, q => q.isOfSearch
  | answer _, q => q.isOfAnswer
  | answerMentions, q => q.isOfAnswer || q.isOfMentions
  | cycle, q => q.isOfSearch || q.isOfCycle

theorem asks_decoded {kind : Prompt σ → Prop} (content : Json) :
    (decoded content : Session σ Text).Asks kind := .ofOutcome _

theorem asks_firstProgram {kind : Prompt σ → Prop} (ps : List (Except Fault Post)) :
    (firstProgram? ps : Session σ (Option Text)).Asks kind := by
  induction ps with
  | nil => exact .pure _
  | cons p ps ih =>
      refine .bind (.ofOutcome p) fun post => .bind (asks_decoded _) fun text => ?_
      split
      · exact .pure _
      · exact ih

theorem asks_search (settings : Settings) {kind : Prompt σ → Prop}
    (h : ∀ q, q.isOfSearch → kind q) : (search settings).Asks kind := by
  have hadopt : ∀ found : Option Text, Session.Asks kind (do
      let system ← Session.ofOutcome (seedSystem found)
      Session.change (.seed system)
      pure system) :=
    fun found => .bind (.ofOutcome _) fun _ => .bind (.change (h _ rfl)) fun _ => .pure _
  refine .bind (.change (h _ rfl)) fun _ => .bind ?_ fun found => ?_
  · exact .outcome (.bind (.candidates (h _ rfl)) asks_firstProgram)
  · cases found with
    | ok found => exact .bind (.pure _) hadopt
    | error f =>
        dsimp only
        split
        · exact .bind (.pure _) hadopt
        · exact .bind (.throw f) hadopt

theorem asks_record {kind : Prompt σ → Prop} (h : ∀ q, q.isOfAnswer → kind q)
    (text : Option Text) (response : Text) : (record text response).Asks kind :=
  .change (h _ rfl)

theorem asks_answer {kind : Prompt σ → Prop} (h : ∀ q, q.isOfAnswer → kind q)
    (text : Option Text) : (answer text).Asks kind :=
  .bind (.look (h _ rfl)) fun _ => .bind (asks_record h _ _) fun _ => .pure _

theorem asks_advance {kind : Prompt σ → Prop} (look : kind .look)
    (move : ∀ id, kind (.change (.advance id))) (id : Text) : (advance id).Asks kind := by
  rw [advance]
  split
  · refine .bind (.look look) fun s => ?_
    split
    · exact .change (move id)
    · exact .pure _
    · exact .throw _
  · exact .pure _

section Mentions

variable {kind : Prompt σ → Prop} (h : ∀ q, (q.isOfAnswer || q.isOfMentions) → kind q)
include h

theorem asks_replyTo (m : Mention) : (replyTo m).Asks kind :=
  .bind (asks_decoded _) fun _ =>
    .bind (.look (h _ rfl)) fun _ => .bind (.reply (h _ rfl)) fun _ => .pure _

theorem asks_answerEach (held : Bool) (tally : Tally) (ms : List (Except Fault Mention)) :
    (answerEach held tally ms).Asks kind := by
  induction ms generalizing held tally with
  | nil => exact .pure _
  | cons m ms ih =>
      have hnext (id : Text) (tally : Tally) : Session.Asks kind
          (if !held then do
            let _ ← advance id
            answerEach held tally ms
          else answerEach held tally ms) := by
        split
        · exact .bind (asks_advance (h _ rfl) (fun _ => h _ rfl) id) fun _ => ih held tally
        · exact ih held tally
      refine .bind (.ofOutcome m) fun m => .bind (.look (h _ rfl)) fun s => ?_
      split
      · exact hnext m.id tally
      · refine .bind (.outcome (asks_replyTo h m)) fun r => ?_
        cases r with
        | ok answered =>
            refine .bind (.change (h _ rfl)) fun _ => ?_
            dsimp only
            split
            · exact .bind (.change (h _ rfl)) fun _ => hnext m.id _
            · exact hnext m.id _
        | error f =>
            dsimp only
            split
            · exact ih true _
            · exact hnext m.id _

theorem asks_answerMentions : (answerMentions : Session σ Tally).Asks kind := by
  refine .bind (.look (h _ rfl)) fun s => .bind (.outcome (.mentions (h _ rfl))) fun r => ?_
  cases r with
  | ok ms => exact asks_answerEach h _ _ ms
  | error f =>
      dsimp only
      split
      · exact .pure _
      · exact .throw f

end Mentions

section Cycles

variable {kind : Prompt σ → Prop}

theorem asks_observations (own : Text) (ps : List (Except Fault Post)) :
    (observations own ps : Session σ (List Scored)).Asks kind := by
  induction ps with
  | nil => exact .pure _
  | cons p ps ih =>
      refine .bind (.ofOutcome p) fun post => .bind (asks_decoded _) fun text => ?_
      split
      · exact ih
      · split
        · exact .bind ih fun _ => .pure _
        · exact ih

theorem asks_scrape (settings : Settings) (h : ∀ tag limit, kind (.candidates tag limit))
    (own : Text) : (scrape settings own).Asks kind :=
  .bind (.candidates (h _ _)) fun ps => asks_observations own ps

section Inside

variable (settings : Settings)
  (h : ∀ q, (q.isOfSearch || q.isInsideCycle) → kind q)
include h

theorem asks_cycleAlone : (cycleAlone settings).Asks kind := by
  refine .bind (.look (h _ rfl)) fun before => .bind (.change (h _ rfl)) fun _ =>
    .bind (.score (h _ rfl)) fun fitness => .bind (.change (h _ rfl)) fun _ =>
      .bind (.change (h _ rfl)) fun _ => ?_
  split
  · have hscrape (own : Text) : (scrape settings own).Asks kind :=
      asks_scrape settings (fun _ _ => h _ rfl) own
    refine .bind (.outcome (.bind (.publish (h _ rfl)) fun _ => hscrape _)) fun others => ?_
    cases others with
    | error f =>
        dsimp only
        split
        · exact .bind (.change (h _ rfl)) fun _ => .pure _
        · exact .throw f
    | ok others =>
        refine .bind (.change (h _ rfl)) fun _ => .bind (.look (h _ rfl)) fun now =>
          .bind (.breed (h _ rfl)) fun bred => ?_
        obtain ⟨f | next, source⟩ := bred
        · exact .bind (.change (h _ rfl)) fun _ => .throw f
        · exact .bind (.change (h _ rfl)) fun _ => .bind (.look (h _ rfl)) fun _ => .pure _
  · exact .throw _

/-- A cycle between its start and its stop. -/
theorem asks_seededCycle : Session.Asks kind (do
    if !(← Session.look).seeded then
      let _ ← search settings
    cycleAlone settings) := by
  refine .bind (.look (h _ rfl)) fun s => ?_
  dsimp only
  split
  · have hsearch : (search settings).Asks kind :=
      asks_search settings fun q hq => h q (by rw [hq, Bool.true_or])
    exact .bind hsearch fun _ => asks_cycleAlone settings h
  · exact asks_cycleAlone settings h

end Inside

theorem Prompt.isOfCycle_of_isInsideCycle {q : Prompt σ} (h : q.isInsideCycle = true) :
    q.isOfCycle = true := by
  fun_cases Prompt.isInsideCycle q with
  | case1 => cases h
  | case2 => cases h
  | case3 => rwa [Prompt.isInsideCycle] at h <;> assumption

theorem asks_cycle (settings : Settings)
    (h : ∀ q, (q.isOfSearch || q.isOfCycle) → kind q) : (cycle settings).Asks kind := by
  have hinside : ∀ q : Prompt σ, (q.isOfSearch || q.isInsideCycle) = true → kind q := by
    intro q hq
    refine h q ?_
    rw [Bool.or_eq_true] at hq ⊢
    exact hq.imp_right Prompt.isOfCycle_of_isInsideCycle
  refine .bind (.look (h _ rfl)) fun s => ?_
  split
  · exact .pure _
  · exact .bind (.change (h _ rfl)) fun _ =>
      .bind (.outcome (asks_seededCycle settings hinside)) fun r =>
        .bind (.change (h _ rfl)) fun _ => .ofOutcome r

end Cycles

theorem Operation.asks_session (settings : Settings) (op : Operation) :
    (op.session settings : Session σ Result).Asks fun q => op.mayAsk q := by
  cases op with
  | search => exact .map _ (asks_search settings fun q hq => hq)
  | answer text => exact .map _ (asks_answer (fun q hq => hq) text)
  | answerMentions => exact .map _ (asks_answerMentions fun q hq => hq)
  | cycle => exact .map _ (asks_cycle settings fun q hq => hq)

/-! ## What histories look like -/

/-- A call of an operation has begun and not ended. -/
def Ongoing (c : Nat) (op : Operation) (h : List (Event σ)) : Prop :=
  .began c op ∈ h ∧ ∀ r, .ended c r ∉ h

/-- Whether an event may follow a history: a call begins once, and then does what its
operation may do until it ends. -/
def Event.IsProper (h : List (Event σ)) : Event σ → Prop
  | .began c _ => ∀ e ∈ h, e.call ≠ c
  | e => ∃ op, Ongoing e.call op h ∧ ∀ q, e.prompt? = some q → op.mayAsk q

theorem Ongoing.cons {c : Nat} {op : Operation} {h : List (Event σ)} {e : Event σ}
    (ongoing : Ongoing c op h) (goes : ∀ r, e ≠ .ended c r) : Ongoing c op (e :: h) := by
  refine ⟨List.mem_cons_of_mem e ongoing.1, fun r hr => ?_⟩
  rcases List.mem_cons.1 hr with heq | hr
  · exact goes r heq.symm
  · exact ongoing.2 r hr

theorem Ongoing.began {c : Nat} {op : Operation} {h : List (Event σ)}
    (new : ∀ e ∈ h, e.call ≠ c) : Ongoing c op (.began c op :: h) := by
  refine ⟨List.mem_cons_self, fun r hr => ?_⟩
  rcases List.mem_cons.1 hr with heq | hr
  · cases heq
  · exact new _ hr rfl

/-- A call begins once, so it is a call of one operation. -/
theorem Obeys.began_unique {h : List (Event σ)} {c : Nat} {op op' : Operation}
    (proper : Obeys Event.IsProper h)
    (hop : .began c op ∈ h) (hop' : .began c op' ∈ h) : op = op' := by
  induction h with
  | nil => exact absurd hop List.not_mem_nil
  | cons e h ih =>
      rcases List.mem_cons.1 hop with rfl | hbefore
      · rcases List.mem_cons.1 hop' with heq | hbefore'
        · cases heq
          rfl
        · exact absurd rfl (proper.1 _ hbefore')
      · rcases List.mem_cons.1 hop' with rfl | hbefore'
        · exact absurd rfl (proper.1 _ hbefore)
        · exact ih proper.2 hbefore hbefore'

/-- A moment whose history is proper, and whose calls have begun and not ended and ask
what they may ask. -/
structure Moment.IsProper (m : Moment σ) : Prop where
  history : Obeys Event.IsProper m.world.history
  running : ∀ c d, m.running = some (c, d) → m.waiting c = none ∧
    ∃ op, Ongoing c op m.world.history ∧ d.Asks fun q => op.mayAsk q
  waiting : ∀ c d, m.waiting c = some d →
    ∃ op, Ongoing c op m.world.history ∧ d.Asks fun q => op.mayAsk q

theorem Moment.IsProper.start (s : State σ) : (Moment.start s).IsProper where
  history := trivial
  running _ _ h := nomatch h
  waiting _ _ h := nomatch h

/-- The call that goes on does not wait. -/
theorem Moment.IsProper.ne_of_running {m : Moment σ} (proper : m.IsProper) {c c' : Nat}
    {d d' : Remainder σ} (runs : m.running = some (c, d)) (waits : m.waiting c' = some d') :
    c ≠ c' := by
  rintro rfl
  exact nomatch (proper.running c d runs).1.symm.trans waits

/-- A call that begins does not wait. -/
theorem Moment.IsProper.ne_of_new {m : Moment σ} (proper : m.IsProper) {c c' : Nat}
    {d : Remainder σ} (new : ∀ e ∈ m.world.history, e.call ≠ c) (waits : m.waiting c' = some d) :
    c ≠ c' := by
  rintro rfl
  obtain ⟨op, ongoing, -⟩ := proper.waiting c d waits
  exact new _ ongoing.1 rfl

/-- The calls that wait go on waiting after an event of another call. -/
theorem Moment.IsProper.still_waiting {m : Moment σ} (proper : m.IsProper) {e : Event σ}
    {c : Nat} {d : Remainder σ} (waits : m.waiting c = some d) (other : e.call ≠ c) :
    ∃ op, Ongoing c op (e :: m.world.history) ∧ d.Asks fun q => op.mayAsk q := by
  obtain ⟨op, ongoing, asks⟩ := proper.waiting c d waits
  exact ⟨op, ongoing.cons fun r heq => other (by rw [heq]; rfl), asks⟩

theorem Step.proper {settings : Settings} {m m' : Moment σ}
    (step : Step settings m m') (proper : m.IsProper) : m'.IsProper := by
  cases step with
  | @begin w waiting c op new =>
      have hnone : waiting c = none :=
        Option.eq_none_iff_forall_ne_some.2 fun d hd => proper.ne_of_new new hd rfl
      refine ⟨⟨new, proper.history⟩, ?_, ?_⟩
      · rintro _ _ ⟨⟩
        exact ⟨hnone, op, .began new, op.asks_session settings⟩
      · exact fun c' d hd => proper.still_waiting hd (proper.ne_of_new new hd)
  | @look w waiting c next =>
      obtain ⟨hnone, op, ongoing, asks⟩ := proper.running c _ rfl
      refine ⟨proper.history, ?_, proper.waiting⟩
      rintro _ _ ⟨⟩
      exact ⟨hnone, op, ongoing, asks.2 _⟩
  | @change w waiting c ch next =>
      obtain ⟨hnone, op, ongoing, asks⟩ := proper.running c _ rfl
      refine ⟨⟨⟨op, ongoing, ?_⟩, proper.history⟩, ?_, ?_⟩
      · rintro _ ⟨⟩
        exact asks.1
      · rintro _ _ ⟨⟩
        exact ⟨hnone, op, ongoing.cons (fun r heq => nomatch heq), asks.2 _⟩
      · exact fun c' d hd => proper.still_waiting hd (proper.ne_of_running rfl hd)
  | @wait w waiting c q next out =>
      obtain ⟨hnone, op, ongoing, asks⟩ := proper.running c _ rfl
      refine ⟨proper.history, fun _ _ => (nomatch ·), ?_⟩
      intro c' d hd
      by_cases hcc : c' = c
      · subst hcc
        rw [show d = .ask q next by simpa using hd.symm]
        exact ⟨op, ongoing, asks⟩
      · refine proper.waiting c' d ?_
        simpa [hcc] using hd
  | @answer w waiting c q next asked r =>
      obtain ⟨op, ongoing, asks⟩ := proper.waiting c _ asked
      refine ⟨⟨⟨op, ongoing, ?_⟩, proper.history⟩, ?_, ?_⟩
      · rintro _ ⟨⟩
        exact asks.1
      · rintro _ _ ⟨⟩
        exact ⟨by simp, op, ongoing.cons (fun r heq => nomatch heq), asks.2 _⟩
      · intro c' d hd
        by_cases hcc : c' = c
        · simp [hcc] at hd
        · refine proper.still_waiting ?_ fun heq => hcc heq.symm
          simpa [hcc] using hd
  | @finish w waiting c r =>
      obtain ⟨-, op, ongoing, -⟩ := proper.running c _ rfl
      refine ⟨⟨⟨op, ongoing, fun q hq => nomatch hq⟩, proper.history⟩, fun _ _ => (nomatch ·), ?_⟩
      exact fun c' d hd => proper.still_waiting hd (proper.ne_of_running rfl hd)

theorem Reaches.isProper {settings : Settings} {s : State σ} {m : Moment σ}
    (reaches : Reaches settings s m) : m.IsProper := by
  induction reaches with
  | refl => exact .start s
  | tail _ step ih => exact step.proper ih

end Bot

end Mycelium
