import Mycelium.Proofs.Observations
import Mycelium.Proofs.Retries

/-!
# Grounds for changes

The mark, the ids that are remembered and the log are changed by calls that answer.  What such a
call does may be out of date: while it waits for the channel other calls go on, with the same
mentions and with other rule systems.  Every change still has its grounds (`Event.HasGrounds`), and
this needs no assumption about the channel or about other calls.

* *Record.*  The interaction is the answer of the rule system that was current when the call came to
  its answer.  If the answer was a reply, this was when the call turned to the channel, and what has
  happened since then is of other calls (`seenBy`).
* *Advance.*  The id is that of a mention that was fetched, and it is newer than the mark as it is
  now.  The call looks at the mark and moves it at one stroke.
* *Remember.*  The id is that of a mention that was fetched.

`Reaches.grounds` says so of every run.
-/

namespace Mycelium.Bot

variable {σ : Type} {s : State σ} {c : Nat} {e : Event σ} {h : List (Event σ)} {w : World σ}
  {m : Mention} {ms : List (Except Fault Mention)}

/-! ## What a change follows from -/

/-- A mention with an id was fetched. -/
def IsFetchedId (id : Text) (h : List (Event σ)) : Prop :=
  id ≠ [] ∧ ∃ m : Mention, .ok m ∈ fetched h ∧ m.id = id

/-- The history that a call has seen when it comes to an answer that it records now.  Before it
records a reply it waits for the channel. -/
def seenBy (c : Nat) : List (Event σ) → List (Event σ)
  | .answered _ (.reply _ _) _ :: h => h.dropWhile fun e => e.call ≠ c
  | h => h

/-- What a call records: its answer to the text that it was given, or its reply to a mention. -/
inductive Answered (c : Nat) (i : Interaction) : List (Event σ) → Prop where
  /-- The call answers a text. -/
  | text {h : List (Event σ)} : Answered c i (.began c (.answer i.text) :: h)
  /-- The channel has taken the reply. -/
  | mention {h : List (Event σ)} {m : Mention} {text : Text}
      (read : Content.plainText m.content = .ok text) (given : i.text = some text) :
      Answered c i (.answered c (.reply i.response m) (.ok ()) :: h)

/-- The grounds on which the log, the mark and the ids that are remembered are changed. -/
def Event.HasGrounds (s : State σ) (h : List (Event σ)) : Event σ → Prop
  | .changed c (.record i) => Answered c i h ∧
      i.response = (s.replayed (seenBy c h)).current.respond (i.text.getD []) ∧
      i.matched = (i.response != RuleSystem.noMatch)
  | .changed _ (.advance id) =>
      IsFetchedId id h ∧ isNewer id (s.replayed h).lastMention = .ok true
  | .changed _ (.remember id) => IsFetchedId id h
  | _ => True

/-- The state is what the history has made of it, and all changes have their grounds. -/
structure World.IsGrounded (s : State σ) (w : World σ) : Prop where
  replayed : w.state = s.replayed w.history
  grounds : Obeys (Event.HasGrounds s) w.history

/-- The discipline of the grounds. -/
def grounded (s : State σ) : Discipline σ where
  assumed := fun h e => e.IsProper h
  always := World.IsGrounded s
  settled _ := True

theorem World.IsGrounded.after (grounded : w.IsGrounded s) (grounds : e.HasGrounds s w.history) :
    (w.after e).IsGrounded s where
  replayed := by
    show (World.after ⟨w.state, w.history⟩ e).state = _
    rw [grounded.replayed]
    rfl
  grounds := ⟨grounds, grounded.grounds⟩

theorem leads_of_grounds {k : World σ → Prop} (holds : (grounded s).Holds w)
    (grounds : e.HasGrounds s w.history) (hk : k (w.after e)) : (grounded s).Leads w e k :=
  fun _ => ⟨holds.always.after grounds, hk⟩

/-- Whether a question needs no grounds. -/
def Prompt.needsNoGrounds : Prompt σ → Bool
  | change (.record _) => false
  | change (.advance _) => false
  | change (.remember _) => false
  | _ => true

theorem Prompt.hasGrounds {q : Prompt σ} (needs : q.needsNoGrounds) (asked : e.prompt? = some q) :
    e.HasGrounds s h := by
  cases e with
  | changed d ch =>
      cases asked
      cases ch <;> trivial
  | _ => trivial

theorem Prompt.needsNoGrounds_of_search {q : Prompt σ} (may : q.isOfSearch) : q.needsNoGrounds := by
  cases q with
  | change ch => cases ch <;> trivial
  | _ => trivial

theorem Prompt.needsNoGrounds_of_cycle {q : Prompt σ} (may : q.isOfCycle) : q.needsNoGrounds := by
  cases q with
  | change ch => cases ch <;> trivial
  | _ => trivial

/-- A session whose changes need no grounds. -/
theorem ensures_of_needsNoGrounds {α : Type} {t : Session σ α} {kind : Prompt σ → Prop}
    (asks : t.Asks kind) (needs : ∀ q, kind q → q.needsNoGrounds) :
    (grounded s).Ensures c t (fun _ _ => True) w := by
  have stable : (grounded s).Stable c fun _ => True := fun _ _ _ _ _ _ => trivial
  refine (Discipline.ensures_of_asks stable ?_ asks trivial trivial).mono fun _ _ _ => trivial
  intro w e q _ asked hkind holds _ _
  exact leads_of_grounds holds (Prompt.hasGrounds (needs q hkind) asked) ⟨trivial, trivial⟩

/-! ## A call that goes over mentions -/

/-- The call has done the latest thing, and has fetched the mentions that it has still to deal
with. -/
structure Handles (c : Nat) (ms : List (Except Fault Mention)) (w : World σ) : Prop where
  /-- The latest event is one of the call. -/
  latest : w.history.head?.map Event.call = some c
  /-- The mentions were fetched. -/
  fetched : ∀ m, .ok m ∈ ms → .ok m ∈ fetched w.history

/-- The call has turned to the channel at the end of a history.  Since then only other calls have
done something. -/
structure Waits (c : Nat) (ms : List (Except Fault Mention)) (h : List (Event σ)) (w : World σ) :
    Prop where
  /-- What has happened since then is of other calls. -/
  others : (w.history.dropWhile fun e => e.call ≠ c) = h
  /-- The mentions were fetched. -/
  fetched : ∀ m, .ok m ∈ ms → .ok m ∈ fetched w.history

theorem Waits.stable : (grounded s).Stable c (Waits c ms h) := by
  intro w e other _ _ waits
  exact {
    others := by simpa [other] using waits.others
    fetched := fun m hm => List.mem_append_right _ (waits.fetched m hm) }

/-- The call gets its answer. -/
theorem Waits.handles (waits : Waits c ms h w) (mine : e.call = c) : Handles c ms (w.after e) where
  latest := by simp [mine]
  fetched m hm := List.mem_append_right _ (waits.fetched m hm)

namespace Handles

theorem of_fetch (w : World σ) (c : Nat) (since : Json) (ms : List (Except Fault Mention)) :
    Handles c ms (w.after (.answered c (.mentions since) (.ok ms))) where
  latest := rfl
  fetched _ hm := List.mem_append_left _ hm

theorem tail {x : Except Fault Mention} (handles : Handles c (x :: ms) w) : Handles c ms w where
  latest := handles.latest
  fetched m hm := handles.fetched m (List.mem_cons_of_mem x hm)

theorem after (handles : Handles c ms w) (mine : e.call = c) : Handles c ms (w.after e) where
  latest := by simp [mine]
  fetched m hm := List.mem_append_right _ (handles.fetched m hm)

theorem isFetchedId (handles : Handles c (.ok m :: ms) w) (given : m.id ≠ []) :
    IsFetchedId m.id w.history :=
  ⟨given, m, handles.fetched m List.mem_cons_self, rfl⟩

/-- The call makes a change that has its grounds. -/
theorem ensures_change (handles : Handles c ms w) {ch : Change σ}
    (grounds : (Event.changed c ch).HasGrounds s w.history)
    {post : Except Fault Unit → World σ → Prop}
    (next : ∀ w, Handles c ms w → post (.ok ()) w) :
    (grounded s).Ensures c (.change ch) post w :=
  Discipline.ensures_change.2 fun holds =>
    leads_of_grounds holds grounds (next _ (handles.after rfl))

theorem ensures_advance (handles : Handles c (.ok m :: ms) w) :
    (grounded s).Ensures c (advance m.id) (fun _ => Handles c (.ok m :: ms)) w := by
  rw [advance]
  split
  · next given =>
      refine Discipline.ensures_bind.2 (Discipline.ensures_look.2 fun holds => ?_)
      dsimp only
      split
      · next newer =>
          -- nothing happens between the look at the mark and the change
          rw [holds.always.replayed] at newer
          have given : m.id ≠ [] := by simpa using given
          have grounds : (Event.changed c (.advance m.id)).HasGrounds s w.history :=
            ⟨handles.isFetchedId given, newer⟩
          exact handles.ensures_change grounds fun _ handles => handles
      · exact handles
      · exact handles
  · exact handles

theorem waits (handles : Handles c ms w) : Waits c ms w.history w where
  others := by
    cases hw : w.history with
    | nil => rfl
    | cons e h =>
        have latest := handles.latest
        rw [hw] at latest
        have mine : e.call = c := by simpa using latest
        simp [mine]
  fetched := handles.fetched

/-- The call replies to a mention, and goes on with what comes of it. -/
theorem keeps_reply (handles : Handles c ms w) {response : Text}
    {post : Except Fault Unit → World σ → Prop}
    (answered : ∀ (w' : World σ) (r : Except Fault Unit), Waits c ms w.history w' →
      post r (w'.after (.answered c (.reply response m) r))) :
    (grounded s).Ensures c (.reply response m) post w := by
  refine (Discipline.keeps_put (.reply response m) rfl).2 fun _ => ?_
  refine ⟨trivial, Waits c ms w.history, handles.waits, Waits.stable, fun w' r holds _ waits => ?_⟩
  exact leads_of_grounds holds trivial (answered w' r waits)

/-- The reply that comes through is the answer of the rule system that was current when the call
turned to the channel. -/
theorem ensures_replyTo (handles : Handles c (.ok m :: ms) w) :
    (grounded s).Ensures c (replyTo m) (fun r w => Handles c (.ok m :: ms) w ∧
      ∀ text response, r = .ok (text, response) →
        (Event.changed c (.record ⟨some text, response, response != RuleSystem.noMatch⟩)).HasGrounds
          s w.history) w := by
  refine Discipline.ensures_bind.2 ((Discipline.ensures_ofOutcome _).2 ?_)
  cases read : Content.plainText m.content with
  | error f => exact ⟨handles, nofun⟩
  | ok text =>
      refine Discipline.ensures_bind.2 (Discipline.ensures_look.2 fun holds => ?_)
      refine Discipline.ensures_bind.2 (handles.keeps_reply fun w' r waits => ?_)
      cases r with
      | error f => exact ⟨waits.handles rfl, nofun⟩
      | ok u =>
          refine ⟨waits.handles rfl, ?_⟩
          rintro _ _ ⟨⟩
          refine ⟨.mention read rfl, ?_, rfl⟩
          rw [World.after_history, seenBy, waits.others, ← holds.always.replayed]
          rfl

/-- The call passes on to the next mention: the mark moves up unless it is held. -/
theorem ensures_pass (handles : Handles c (.ok m :: ms) w) (held : Bool) {rest : Session σ Tally}
    (next : ∀ w, Handles c ms w → (grounded s).Ensures c rest (fun _ _ => True) w) :
    (grounded s).Ensures c (if !held then do
        let _ ← advance m.id
        rest
      else rest) (fun _ _ => True) w := by
  cases held with
  | true => exact next w handles.tail
  | false =>
      refine Discipline.ensures_bind.2 (handles.ensures_advance.mono fun r w handles => ?_)
      cases r with
      | ok u => exact next w handles.tail
      | error f => trivial

theorem ensures_answerEach (handles : Handles c ms w) (held : Bool) (tally : Tally) :
    (grounded s).Ensures c (answerEach held tally ms) (fun _ _ => True) w := by
  induction ms generalizing held tally w with
  | nil => trivial
  | cons x ms ih =>
      refine Discipline.ensures_bind.2 ((Discipline.ensures_ofOutcome x).2 ?_)
      cases x with
      | error f => trivial
      | ok m =>
          refine Discipline.ensures_bind.2 (Discipline.ensures_look.2 fun _ => ?_)
          dsimp only
          split
          · exact handles.ensures_pass held fun w handles => ih handles held tally
          · refine Discipline.ensures_bind.2 (Discipline.ensures_outcome.2 ?_)
            refine handles.ensures_replyTo.mono ?_
            rintro r w ⟨handles, recorded⟩
            cases r with
            | error f =>
                dsimp only
                split
                · exact ih handles.tail true _
                · exact handles.ensures_pass held fun w handles => ih handles held _
            | ok given =>
                obtain ⟨text, response⟩ := given
                refine Discipline.ensures_bind.2 ?_
                refine handles.ensures_change (recorded text response rfl) fun w handles => ?_
                dsimp only
                split
                · next remembers =>
                    have given : m.id ≠ [] := by simpa using (Bool.and_eq_true_iff.1 remembers).2
                    have grounds : (Event.changed c (.remember m.id)).HasGrounds s w.history :=
                      handles.isFetchedId given
                    refine Discipline.ensures_bind.2 ?_
                    refine handles.ensures_change grounds fun w handles => ?_
                    exact handles.ensures_pass held fun w handles => ih handles held _
                · exact handles.ensures_pass held fun w handles => ih handles held _

end Handles

/-! ## Runs -/

theorem ensures_answerMentions_grounded :
    (grounded s).Ensures c answerMentions (fun _ _ => True) w := by
  refine Discipline.ensures_bind.2 (Discipline.ensures_look.2 fun _ => ?_)
  refine Discipline.ensures_bind.2 (Discipline.ensures_outcome.2 ?_)
  refine (Discipline.keeps_put (.mentions _) rfl).2 fun _ => ?_
  have stable : (grounded s).Stable c fun _ => True := fun _ _ _ _ _ _ => trivial
  refine ⟨trivial, fun _ => True, trivial, stable, fun w r holds _ _ => ?_⟩
  refine leads_of_grounds holds trivial ?_
  cases r with
  | ok ms =>
      exact (Handles.of_fetch w c _ ms).ensures_answerEach false _
  | error f =>
      dsimp only
      split
      · trivial
      · trivial

theorem ensures_answer_grounded {text : Option Text} :
    (grounded s).Ensures c (answer text) (fun _ _ => True) (w.after (.began c (.answer text))) := by
  refine Discipline.ensures_bind.2 (Discipline.ensures_look.2 fun holds => ?_)
  refine Discipline.ensures_bind.2 (Discipline.ensures_change.2 fun _ => ?_)
  refine leads_of_grounds holds ⟨.text, ?_, rfl⟩ trivial
  rw [holds.always.replayed]
  rfl

variable {settings : Settings}

theorem isKept_grounded (settings : Settings) (s : State σ) : (grounded s).IsKept settings := by
  intro c op w _ holds _
  refine leads_of_grounds holds trivial ?_
  refine Discipline.Ensures.mono (?_ : (grounded s).Ensures c _ (fun _ _ => True) _)
    fun r w _ holds => leads_of_grounds holds trivial trivial
  cases op with
  | search =>
      exact ensures_of_needsNoGrounds (Operation.search.asks_session settings) fun q may =>
        Prompt.needsNoGrounds_of_search may
  | answer text => exact (Discipline.ensures_map _).2 ensures_answer_grounded
  | answerMentions => exact (Discipline.ensures_map _).2 ensures_answerMentions_grounded
  | cycle =>
      exact ensures_of_needsNoGrounds (Operation.cycle.asks_session settings) fun q may =>
        (Bool.or_eq_true_iff.1 may).elim Prompt.needsNoGrounds_of_search
          Prompt.needsNoGrounds_of_cycle

/-- In every run the log, the mark and the ids that are remembered are changed on the grounds that
they should be. -/
theorem Reaches.grounds {m : Moment σ} (reaches : Reaches settings s m) :
    m.world.state = s.replayed m.world.history ∧
      Obeys (Event.HasGrounds s) m.world.history := by
  have start : World.IsGrounded s (⟨s, []⟩ : World σ) := ⟨rfl, trivial⟩
  have grounded := ((isKept_grounded settings s).reaches start trivial reaches
    reaches.isProper.history).holds.always
  exact ⟨grounded.replayed, grounded.grounds⟩

end Mycelium.Bot
