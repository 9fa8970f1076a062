import Mycelium.Proofs.Discipline

/-!
# The ledger of the mentions

What a run has to do with mentions is its ledger: the mark, the ids that were answered
ahead of it, and the events that concern mentions.  Only calls of `answerMentions`
change it.  If these do not overlap, then nobody else does while one of them waits,
however many other calls go on.  So what they keep is proved of one call that is
alone.

`Bookkeeping` is a property of the ledger, `Bookkeeping.IsSound` what has to be proved
of it, one case for each way in which a mention is dealt with, and
`Bookkeeping.IsSound.reaches` says that it holds in every run.
-/

namespace Mycelium

/-- A content that cannot be read holds a number that is too long, or is no text. -/
theorem Content.fault_of_plainText {content : Json} {f : Fault}
    (h : plainText content = .error f) : (∃ e, f = .number e) ∨ ∃ kind, f = .noText kind := by
  cases content with
  | str s =>
      rw [plainText_str] at h
      cases hs : Markup.plainText s with
      | ok t =>
          rw [hs] at h
          cases h
      | error e =>
          rw [hs] at h
          cases h
          exact .inl ⟨e, rfl⟩
  | _ =>
      simp only [plainText] at h
      split at h
      · cases h
        exact .inr ⟨_, rfl⟩
      · cases h

/-- A content that cannot be read never will be. -/
theorem Content.isTransient_of_plainText {content : Json} {f : Fault}
    (h : plainText content = .error f) : f.isTransient = false := by
  rcases fault_of_plainText h with ⟨e, rfl⟩ | ⟨kind, rfl⟩
  · rfl
  · rfl

namespace Bot

variable {σ : Type}

/-! ## Events that concern mentions -/

/-- Whether an event concerns mentions. -/
def Event.isOfMentions (e : Event σ) : Bool :=
  match e.prompt? with
  | some q => q.isOfMentions
  | none => false

/-- Mentions are not answered by two calls at once. -/
def Event.StartsAlone (h : List (Event σ)) : Event σ → Prop
  | .began _ .answerMentions => ∀ c, ¬ Ongoing c .answerMentions h
  | _ => True

theorem Ongoing.of_cons {c : Nat} {op : Operation} {e : Event σ} {h : List (Event σ)}
    (ongoing : Ongoing c op (e :: h)) : e = .began c op ∨ Ongoing c op h := by
  rcases List.mem_cons.1 ongoing.1 with heq | hmem
  · exact .inl heq.symm
  · exact .inr ⟨hmem, fun r hr => ongoing.2 r (List.mem_cons_of_mem e hr)⟩

theorem Ongoing.eq_of_startsAlone {h : List (Event σ)} (alone : Obeys Event.StartsAlone h)
    {c c' : Nat} (ongoing : Ongoing c .answerMentions h)
    (ongoing' : Ongoing c' .answerMentions h) : c = c' := by
  induction h with
  | nil => exact absurd ongoing.1 List.not_mem_nil
  | cons e h ih =>
      obtain ⟨halone, hearlier⟩ := alone
      rcases ongoing.of_cons with rfl | hc
      · rcases ongoing'.of_cons with heq | hc'
        · cases heq
          rfl
        · exact absurd hc' (halone c')
      · rcases ongoing'.of_cons with rfl | hc'
        · exact absurd hc (halone c)
        · exact ih hearlier hc hc'

theorem Operation.eq_answerMentions {op : Operation} {q : Prompt σ}
    (mentions : q.isOfMentions = true) (may : op.mayAsk q = true) : op = .answerMentions := by
  cases op with
  | answerMentions => rfl
  | _ =>
      cases q with
      | change ch =>
          cases ch <;> first
            | exact absurd mentions Bool.false_ne_true
            | exact absurd may Bool.false_ne_true
      | _ => first
          | exact absurd mentions Bool.false_ne_true
          | exact absurd may Bool.false_ne_true

/-- An event that concerns mentions happens in a call that answers them. -/
theorem Event.IsProper.ongoing {h : List (Event σ)} {e : Event σ} (proper : e.IsProper h)
    (mentions : e.isOfMentions = true) : Ongoing e.call .answerMentions h := by
  cases e with
  | began c op => cases mentions
  | ended c r => cases mentions
  | changed c ch =>
      obtain ⟨op, ongoing, may⟩ := proper
      rwa [Operation.eq_answerMentions mentions (may _ rfl)] at ongoing
  | answered c q r =>
      obtain ⟨op, ongoing, may⟩ := proper
      rwa [Operation.eq_answerMentions mentions (may _ rfl)] at ongoing

/-! ## Ledgers -/

/-- What a run has to do with mentions. -/
structure Ledger (σ : Type) where
  /-- The id of the last mention the bot is done with. -/
  mark : Json
  /-- The ids of later mentions that were answered already. -/
  replied : List Text
  /-- The events that concern mentions, the latest one first. -/
  events : List (Event σ)

/-- The ledger after an event that concerns mentions. -/
def Ledger.after (l : Ledger σ) (e : Event σ) : Ledger σ where
  mark :=
    match e with
    | .changed _ (.advance id) => .str id
    | _ => l.mark
  replied :=
    match e with
    | .changed _ (.advance id) => l.replied.filter fun m => isAfter m id
    | .changed _ (.remember id) =>
        if l.replied.contains id then l.replied else l.replied ++ [id]
    | _ => l.replied
  events := e :: l.events

theorem Ledger.mem_after_remember (l : Ledger σ) (c : Nat) {id id' : Text} :
    id' ∈ (l.after (.changed c (.remember id))).replied ↔ id' ∈ l.replied ∨ id' = id := by
  simp only [after]
  split
  · next hmem =>
      refine ⟨.inl, fun h => h.elim (fun hmem => hmem) ?_⟩
      rintro rfl
      exact List.contains_iff_mem.1 hmem
  · rw [List.mem_append, List.mem_singleton]

/-- The ledger of a world. -/
def World.ledger (w : World σ) : Ledger σ where
  mark := w.state.lastMention
  replied := w.state.replied
  events := w.history.filter Event.isOfMentions

namespace World

variable (w : World σ) {e : Event σ}

theorem ledger_after (mentions : e.isOfMentions = true) :
    (w.after e).ledger = w.ledger.after e := by
  rw [ledger, after_history, List.filter_cons_of_pos mentions]
  cases e with
  | changed c ch =>
      cases ch with
      | remember id => simp [ledger, Ledger.after, World.after, Change.apply]
      | _ => rfl
  | _ => rfl

theorem ledger_after_of_not (mentions : e.isOfMentions = false) :
    (w.after e).ledger = w.ledger := by
  rw [ledger, after_history, List.filter_cons_of_neg (by simp [mentions])]
  cases e with
  | changed c ch => cases ch <;> first | rfl | cases mentions
  | _ => rfl

end World

/-! ## Claims about the ledger -/

/-- A property of the ledger, and what answering the mentions keeps for it. -/
structure Bookkeeping (σ : Type) where
  /-- What is assumed of the event that follows others. -/
  law : List (Event σ) → Event σ → Prop
  /-- What holds at every moment. -/
  always : Ledger σ → Prop
  /-- What holds while no call goes on. -/
  settled : Ledger σ → Prop
  /-- What holds in a call before it comes to the rest of its mentions, `held` saying
  whether an earlier one has to be tried again. -/
  loop : (c : Nat) → (held : Bool) → List Mention → Ledger σ → Prop
  /-- What holds once a call has ended. -/
  finished : (c : Nat) → Ledger σ → Prop

namespace Bookkeeping

variable (B : Bookkeeping σ)

/-- After an event that is as assumed, what always holds does so still, and something
else holds too. -/
def Leads (l : Ledger σ) (e : Event σ) (k : Ledger σ → Prop) : Prop :=
  Obeys B.law (e :: l.events) → B.always (l.after e) ∧ k (l.after e)

/-- The call may pass on to the next mention. -/
def Passes (c : Nat) (held : Bool) (m : Mention) (ms : List Mention) (l : Ledger σ) : Prop :=
  if held then B.loop c held ms l else B.Leads l (.changed c (.advance m.id)) (B.loop c held ms)

/-- Answering the mentions keeps the property, whatever happens to a mention. -/
structure IsSound : Prop where
  /-- The mentions are there. -/
  fetched {c : Nat} {l : Ledger σ} {ms : List (Except Fault Mention)} :
    B.always l → B.settled l → (∀ e ∈ l.events, e.call ≠ c) →
      B.Leads l (.answered c (.mentions l.mark) (.ok ms)) fun l =>
        ∃ xs : List Mention, ms = xs.map .ok ∧ B.loop c false xs l
  /-- The mentions cannot be fetched. -/
  unfetched {c : Nat} {l : Ledger σ} {f : Fault} :
    B.always l → B.settled l → (∀ e ∈ l.events, e.call ≠ c) →
      B.Leads l (.answered c (.mentions l.mark) (.error f)) fun l => B.settled l ∧ B.finished c l
  /-- The call may wait between two mentions. -/
  settled_of_loop {c : Nat} {held : Bool} {ms : List Mention} {l : Ledger σ} :
    B.loop c held ms l → B.settled l
  /-- The next mention is newer than the mark. -/
  newer {c : Nat} {held : Bool} {m : Mention} {ms : List Mention} {l : Ledger σ} :
    B.always l → B.loop c held (m :: ms) l → m.id ≠ [] ∧ isNewer m.id l.mark = .ok true
  /-- The mention was answered already. -/
  skipped {c : Nat} {held : Bool} {m : Mention} {ms : List Mention} {l : Ledger σ} :
    B.always l → B.loop c held (m :: ms) l → m.id ∈ l.replied → B.Passes c held m ms l
  /-- The text of the mention cannot be read. -/
  unreadable {c : Nat} {held : Bool} {m : Mention} {ms : List Mention} {l : Ledger σ} {f : Fault} :
    B.always l → B.loop c held (m :: ms) l → m.id ∉ l.replied →
      Content.plainText m.content = .error f → B.Passes c held m ms l
  /-- The mention is answered. -/
  answered {c : Nat} {m : Mention} {ms : List Mention} {l : Ledger σ} {text response : Text} :
    B.always l → B.loop c false (m :: ms) l → m.id ∉ l.replied →
      Content.plainText m.content = .ok text →
        B.Leads l (.answered c (.reply response m) (.ok ())) fun l =>
          B.Leads l (.changed c (.advance m.id)) (B.loop c false ms)
  /-- The mention is answered while an earlier one has to be tried again. -/
  answered_ahead {c : Nat} {m : Mention} {ms : List Mention} {l : Ledger σ}
    {text response : Text} :
    B.always l → B.loop c true (m :: ms) l → m.id ∉ l.replied →
      Content.plainText m.content = .ok text →
        B.Leads l (.answered c (.reply response m) (.ok ())) fun l =>
          B.Leads l (.changed c (.remember m.id)) (B.loop c true ms)
  /-- The reply has to be tried again. -/
  postponed {c : Nat} {held : Bool} {m : Mention} {ms : List Mention} {l : Ledger σ}
    {text response : Text} {f : Fault} :
    B.always l → B.loop c held (m :: ms) l → m.id ∉ l.replied →
      Content.plainText m.content = .ok text → f.isTransient = true →
        B.Leads l (.answered c (.reply response m) (.error f)) (B.loop c true ms)
  /-- The reply failed for good. -/
  refused {c : Nat} {held : Bool} {m : Mention} {ms : List Mention} {l : Ledger σ}
    {text response : Text} {f : Fault} :
    B.always l → B.loop c held (m :: ms) l → m.id ∉ l.replied →
      Content.plainText m.content = .ok text → f.isTransient = false →
        B.Leads l (.answered c (.reply response m) (.error f)) (B.Passes c held m ms)
  /-- No mention is left. -/
  finish {c : Nat} {held : Bool} {l : Ledger σ} :
    B.always l → B.loop c held [] l → B.finished c l
  /-- Events of other calls leave it so. -/
  finished_after {c : Nat} {l : Ledger σ} {e : Event σ} :
    B.finished c l → e.call ≠ c → B.finished c (l.after e)
  /-- A call to which no event belongs is of another operation. -/
  finished_of_new {c : Nat} {l : Ledger σ} : (∀ e ∈ l.events, e.call ≠ c) → B.finished c l

/-! ## Calls that are alone -/

/-- The discipline of a property of the ledger. -/
def discipline : Discipline σ where
  assumed h e := e.IsProper h ∧ e.StartsAlone h ∧
    (e.isOfMentions = true → B.law (h.filter Event.isOfMentions) e)
  always w := B.always w.ledger ∧ ∀ c r, .ended c r ∈ w.history → B.finished c w.ledger
  settled w := B.settled w.ledger

variable {B} {c : Nat} {l : Ledger σ} {w : World σ}

theorem obeys_startsAlone {h : List (Event σ)} (obeys : Obeys B.discipline.assumed h) :
    Obeys Event.StartsAlone h := by
  induction h with
  | nil => trivial
  | cons e h ih => exact ⟨obeys.1.2.1, ih obeys.2⟩

theorem obeys_law {h : List (Event σ)} (obeys : Obeys B.discipline.assumed h) :
    Obeys B.law (h.filter Event.isOfMentions) := by
  induction h with
  | nil => trivial
  | cons e h ih =>
      by_cases hmentions : e.isOfMentions = true
      · rw [List.filter_cons_of_pos hmentions]
        exact ⟨obeys.1.2.2 hmentions, ih obeys.2⟩
      · rw [List.filter_cons_of_neg hmentions]
        exact ih obeys.2

theorem obeys_assumed {h : List (Event σ)} (proper : Obeys Event.IsProper h)
    (alone : Obeys Event.StartsAlone h) (law : Obeys B.law (h.filter Event.isOfMentions)) :
    Obeys B.discipline.assumed h := by
  induction h with
  | nil => trivial
  | cons e h ih =>
      by_cases hmentions : e.isOfMentions = true
      · rw [List.filter_cons_of_pos hmentions] at law
        exact ⟨⟨proper.1, alone.1, fun _ => law.1⟩, ih proper.2 alone.2 law.2⟩
      · rw [List.filter_cons_of_neg hmentions] at law
        exact ⟨⟨proper.1, alone.1, fun h => absurd h hmentions⟩, ih proper.2 alone.2 law⟩

/-- The call answers the mentions, and the ledger stands as it left it. -/
structure Alone (c : Nat) (l : Ledger σ) (w : World σ) : Prop where
  ongoing : Ongoing c .answerMentions w.history
  ledger : w.ledger = l

/-- Other calls leave the ledger alone. -/
theorem stable_alone : B.discipline.Stable c (Alone c l) := by
  intro w e other before holds alone
  have hnot : e.isOfMentions = false := by
    by_contra hmentions
    have hongoing := holds.obeys.1.1.ongoing (eq_true_of_ne_false hmentions)
    exact other (hongoing.eq_of_startsAlone (obeys_startsAlone before.obeys) alone.ongoing)
  exact {
    ongoing := alone.ongoing.cons fun r heq => other (by rw [heq]; rfl)
    ledger := (w.ledger_after_of_not hnot).trans alone.ledger }

theorem always_of_alone (alone : Alone c l w) (holds : B.discipline.Holds w) : B.always l :=
  alone.ledger ▸ holds.always.1

theorem Alone.settled (alone : Alone c l w) (settled : B.settled l) : B.discipline.settled w := by
  rw [← alone.ledger] at settled
  exact settled

theorem Alone.leads (alone : Alone c l w) (sound : B.IsSound) (holds : B.discipline.Holds w)
    {e : Event σ} (mine : e.call = c) (mentions : e.isOfMentions = true) {k : Ledger σ → Prop}
    (leads : B.Leads l e k) :
    B.discipline.Leads w e fun w => Alone c (l.after e) w ∧ k (l.after e) := by
  intro obeys
  have hledger : (w.after e).ledger = l.after e := by
    rw [w.ledger_after mentions, alone.ledger]
  have hended : ∀ c r, e ≠ .ended c r := by
    rintro c r rfl
    cases mentions
  have hlaw : Obeys B.law (e :: l.events) := by
    have hfilter := obeys_law obeys
    rw [List.filter_cons_of_pos mentions] at hfilter
    rw [← alone.ledger]
    exact hfilter
  obtain ⟨halways, hk⟩ := leads hlaw
  refine ⟨⟨by rwa [hledger], fun c' r hr => ?_⟩, ⟨alone.ongoing.cons (hended c), hledger⟩, hk⟩
  rcases List.mem_cons.1 hr with heq | hr
  · exact absurd heq.symm (hended c' r)
  · have hother : e.call ≠ c' := by
      rintro rfl
      exact alone.ongoing.2 r (mine ▸ hr)
    rw [hledger]
    exact sound.finished_after (alone.ledger ▸ holds.always.2 c' r hr) hother

theorem Alone.leads_of_not (alone : Alone c l w) (holds : B.discipline.Holds w)
    {ch : Change σ} (mentions : (Event.changed c ch).isOfMentions = false) :
    B.discipline.Leads w (.changed c ch) (Alone c l) := by
  intro obeys
  have hledger := w.ledger_after_of_not mentions
  refine ⟨⟨by rw [hledger]; exact holds.always.1, fun c' r hr => ?_⟩,
    alone.ongoing.cons (fun r heq => nomatch heq), hledger.trans alone.ledger⟩
  rw [hledger]
  rcases List.mem_cons.1 hr with heq | hr
  · cases heq
  · exact holds.always.2 c' r hr

theorem ensures_advance (alone : Alone c l w) (sound : B.IsSound) {id : Text} (given : id ≠ [])
    (newer : isNewer id l.mark = .ok true) {k : Ledger σ → Prop}
    (leads : B.Leads l (.changed c (.advance id)) k) :
    B.discipline.Ensures c (advance id)
      (fun r w => r = .ok () ∧ ∃ l, Alone c l w ∧ k l) w := by
  have hgiven : (!id.isEmpty) = true := by simpa using given
  rw [advance, if_pos hgiven, Discipline.ensures_bind, Discipline.ensures_look]
  intro holds
  have hmark : w.state.lastMention = l.mark := congrArg Ledger.mark alone.ledger
  dsimp only
  rw [hmark, newer]
  refine Discipline.ensures_change.2 fun holds => ?_
  exact (alone.leads sound holds rfl rfl leads).mono fun w h => ⟨rfl, _, h⟩

theorem ensures_replyTo (alone : Alone c l w) (settled : B.settled l) {m : Mention}
    {post : Except Fault (Text × Text) → World σ → Prop}
    (unreadable : ∀ f, Content.plainText m.content = .error f → post (.error f) w)
    (asked : ∀ text response w' r, Content.plainText m.content = .ok text → Alone c l w' →
      B.discipline.Holds w' →
        B.discipline.Leads w' (.answered c (.reply response m) r)
          (post (r.map fun _ => (text, response)))) :
    B.discipline.Ensures c (replyTo m) post w := by
  rw [replyTo, Discipline.ensures_bind, decoded, Discipline.ensures_ofOutcome]
  cases hm : Content.plainText m.content with
  | error f => exact unreadable f hm
  | ok text =>
      refine Discipline.ensures_bind.2 (Discipline.ensures_look.2 fun holds => ?_)
      refine Discipline.ensures_bind.2 ((Discipline.keeps_put (.reply _ m) rfl).2 fun holds => ?_)
      refine ⟨alone.settled settled, Alone c l, alone, stable_alone, fun w' r holds' _ alone' => ?_⟩
      refine (asked text _ w' r hm alone' holds').mono fun w h => ?_
      cases r <;> exact h

/-! ## Answering the mentions -/

/-- A call has come to the end of its mentions. -/
def AtEnd (B : Bookkeeping σ) (c : Nat) (w : World σ) : Prop :=
  ∃ l, Alone c l w ∧ B.settled l ∧ (B.always l → B.finished c l)

section Mentions

variable (sound : B.IsSound) {held : Bool} {m : Mention} {ms : List Mention}
include sound

/-- The call passes on to the next mention: the mark moves up unless it is held. -/
theorem ensures_pass {rest : Session σ Tally}
    (goes_on : ∀ l w, Alone c l w → B.loop c held ms l →
      B.discipline.Ensures c rest (fun _ => B.AtEnd c) w)
    (alone : Alone c l w) (newer : m.id ≠ [] ∧ isNewer m.id l.mark = .ok true)
    (passes : B.Passes c held m ms l) :
    B.discipline.Ensures c (if !held then do
        let _ ← advance m.id
        rest
      else rest) (fun _ => B.AtEnd c) w := by
  cases held with
  | true => exact goes_on l w alone passes
  | false =>
      refine Discipline.ensures_bind.2 ?_
      refine (ensures_advance alone sound newer.1 newer.2 passes).mono ?_
      rintro _ w ⟨rfl, l, alone, loop⟩
      exact goes_on l w alone loop

/-- The reply to a mention came through. -/
theorem ensures_answered {tally : Tally} {rest : List (Except Fault Mention)}
    {text response : Text}
    (goes_on : ∀ tally l w, Alone c l w → B.loop c held ms l →
      B.discipline.Ensures c (answerEach held tally rest) (fun _ => B.AtEnd c) w)
    (alone : Alone c l w) (holds : B.discipline.Holds w) (always : B.always l)
    (loop : B.loop c held (m :: ms) l) (newer : m.id ≠ [] ∧ isNewer m.id l.mark = .ok true)
    (hnew : m.id ∉ l.replied) (htext : Content.plainText m.content = .ok text) :
    B.discipline.Leads w (.answered c (.reply response m) (.ok ()))
      (B.discipline.Ensures c (do
        record (some text) response
        if held && !m.id.isEmpty then
          let _ ← Session.change (.remember m.id)
        if !held then
          let _ ← advance m.id
        answerEach held tally rest) fun _ => B.AtEnd c) := by
  have hgiven : (!m.id.isEmpty) = true := by simpa using newer.1
  cases held with
  | true =>
      refine Discipline.Leads.mono
        (alone.leads sound holds rfl rfl (sound.answered_ahead always loop hnew htext))
        fun w h => ?_
      refine Discipline.ensures_bind.2 (Discipline.ensures_change.2 fun holds => ?_)
      refine (h.1.leads_of_not holds rfl).mono fun w alone => ?_
      simp only [hgiven, Bool.and_self, Bool.not_true, Bool.false_eq_true, if_true, if_false]
      refine Discipline.ensures_bind.2 (Discipline.ensures_change.2 fun holds => ?_)
      exact (alone.leads sound holds rfl rfl h.2).mono fun w h => goes_on _ _ w h.1 h.2
  | false =>
      refine Discipline.Leads.mono
        (alone.leads sound holds rfl rfl (sound.answered always loop hnew htext)) fun w h => ?_
      refine Discipline.ensures_bind.2 (Discipline.ensures_change.2 fun holds => ?_)
      refine (h.1.leads_of_not holds rfl).mono fun w alone => ?_
      simp only [Bool.false_and, Bool.false_eq_true, if_false]
      exact ensures_pass sound (goes_on _) alone newer h.2

theorem ensures_answerEach (tally : Tally) (alone : Alone c l w) (loop : B.loop c held ms l) :
    B.discipline.Ensures c (answerEach held tally (ms.map .ok)) (fun _ => B.AtEnd c) w := by
  induction ms generalizing held tally l w with
  | nil => exact ⟨l, alone, sound.settled_of_loop loop, fun always => sound.finish always loop⟩
  | cons m ms ih =>
      rw [List.map_cons, answerEach, Discipline.ensures_bind, Discipline.ensures_ofOutcome]
      refine Discipline.ensures_bind.2 (Discipline.ensures_look.2 fun holds => ?_)
      have always := always_of_alone alone holds
      have newer := sound.newer always loop
      have hreplied : w.state.replied = l.replied := congrArg Ledger.replied alone.ledger
      have hseen : (!m.id.isEmpty && w.state.replied.contains m.id) = true ↔ m.id ∈ l.replied := by
        simp [hreplied, newer.1]
      dsimp only
      split
      · next hif =>
          exact ensures_pass sound (fun l w alone loop => ih tally alone loop) alone newer
            (sound.skipped always loop (hseen.1 hif))
      · next hif =>
          have hnew : m.id ∉ l.replied := fun h => hif (hseen.2 h)
          refine Discipline.ensures_bind.2 (Discipline.ensures_outcome.2 ?_)
          refine ensures_replyTo alone (sound.settled_of_loop loop) ?_ ?_
          · intro f hf
            have hgood : f.isTransient = false := Content.isTransient_of_plainText hf
            simp only [hgood, Bool.false_eq_true, if_false]
            exact ensures_pass sound (fun l w alone loop => ih _ alone loop) alone newer
              (sound.unreadable always loop hnew hf)
          · intro text response w' r htext alone holds
            cases r with
            | error f =>
                cases hf : f.isTransient with
                | true =>
                    refine Discipline.Leads.mono (alone.leads sound holds rfl rfl
                      (sound.postponed always loop hnew htext hf)) fun w h => ?_
                    simp only [Except.map, hf, if_true]
                    exact ih _ h.1 h.2
                | false =>
                    refine Discipline.Leads.mono (alone.leads sound holds rfl rfl
                      (sound.refused always loop hnew htext hf)) fun w h => ?_
                    simp only [Except.map, hf, Bool.false_eq_true, if_false]
                    exact ensures_pass sound (fun l w alone loop => ih _ alone loop) h.1 newer h.2
            | ok u =>
                exact ensures_answered sound (fun tally l w alone loop => ih tally alone loop)
                  alone holds always loop newer hnew htext

theorem ensures_answerMentions (alone : Alone c l w) (settled : B.settled l)
    (new : ∀ e ∈ l.events, e.call ≠ c) :
    B.discipline.Ensures c answerMentions (fun _ => B.AtEnd c) w := by
  refine Discipline.ensures_bind.2 (Discipline.ensures_look.2 fun holds => ?_)
  have hmark : w.state.lastMention = l.mark := congrArg Ledger.mark alone.ledger
  dsimp only
  rw [hmark]
  refine Discipline.ensures_bind.2 (Discipline.ensures_outcome.2 ?_)
  refine (Discipline.keeps_put (.mentions l.mark) rfl).2 fun holds => ?_
  refine ⟨alone.settled settled, Alone c l, alone, stable_alone, fun w' r holds' _ alone' => ?_⟩
  have always := always_of_alone alone' holds'
  cases r with
  | ok ms =>
      refine (alone'.leads sound holds' rfl rfl (sound.fetched always settled new)).mono ?_
      rintro w ⟨alone, xs, rfl, loop⟩
      exact ensures_answerEach sound _ alone loop
  | error f =>
      refine (alone'.leads sound holds' rfl rfl (sound.unfetched always settled new)).mono ?_
      rintro w ⟨alone, settled, finished⟩
      have hend : B.AtEnd c w := ⟨_, alone, settled, fun _ => finished⟩
      dsimp only
      split
      · exact hend
      · exact hend

end Mentions

/-! ## Runs -/

/-- No event that concerns mentions belongs to the call. -/
def IsApart (c : Nat) (w : World σ) : Prop := ∀ e ∈ w.ledger.events, e.call ≠ c

theorem stable_isApart : B.discipline.Stable c (IsApart c) := by
  intro w e other _ _ apart d hd
  cases hmentions : e.isOfMentions with
  | true =>
      rw [w.ledger_after hmentions] at hd
      rcases List.mem_cons.1 hd with rfl | hd
      · exact other
      · exact apart d hd
  | false =>
      rw [w.ledger_after_of_not hmentions] at hd
      exact apart d hd

/-- An event that does not concern mentions leaves everything as it is, unless it is the
end of a call. -/
theorem leads_of_not {e : Event σ} (holds : B.discipline.Holds w)
    (settled : B.discipline.settled w) (mentions : e.isOfMentions = false)
    (ended : ∀ r, e = .ended e.call r → B.finished e.call w.ledger) :
    B.discipline.Leads w e B.discipline.settled := by
  intro _
  have hledger := w.ledger_after_of_not mentions
  refine ⟨⟨by rw [hledger]; exact holds.always.1, fun c r hr => ?_⟩, ?_⟩
  · rw [hledger]
    rcases List.mem_cons.1 hr with rfl | hr
    · exact ended r rfl
    · exact holds.always.2 c r hr
  · show B.settled (w.after e).ledger
    rw [hledger]
    exact settled

theorem IsSound.isKept (sound : B.IsSound) (settings : Settings) :
    B.discipline.IsKept settings := by
  intro c op w new holds settled obeys
  have hledger : (w.after (.began c op)).ledger = w.ledger := w.ledger_after_of_not rfl
  obtain ⟨always, settled⟩ := leads_of_not holds settled rfl (fun r h => by cases h) obeys
  have apart : IsApart c (w.after (.began c op)) := by
    intro e he
    rw [hledger] at he
    exact new e (List.mem_filter.1 he).1
  refine ⟨always, ?_⟩
  -- a call that answers the mentions is alone with the ledger, all others leave it alone
  by_cases hop : op = .answerMentions
  · subst hop
    have alone : Alone c _ (w.after (.began c .answerMentions)) := ⟨.began new, rfl⟩
    refine Discipline.ensures_map _ |>.2 ?_
    refine (ensures_answerMentions sound alone settled apart).mono ?_
    rintro r w' ⟨l, alone, settled, finished⟩ holds
    refine leads_of_not holds (alone.settled settled) rfl fun r _ => ?_
    rw [alone.ledger]
    exact finished (always_of_alone alone holds)
  · refine (Discipline.ensures_of_asks stable_isApart ?_ (op.asks_session settings) settled
      apart).mono ?_
    · intro w' e q mine asked may holds settled apart obeys
      have hnot : e.isOfMentions = false := by
        by_contra hmentions
        rw [Event.isOfMentions, asked] at hmentions
        exact hop (Operation.eq_answerMentions (eq_true_of_ne_false hmentions) may)
      obtain ⟨always, settled⟩ := leads_of_not holds settled hnot
        (fun r heq => by rw [heq] at asked; cases asked) obeys
      refine ⟨always, settled, fun d hd => ?_⟩
      rw [w'.ledger_after_of_not hnot] at hd
      exact apart d hd
    · intro r w' h holds
      exact leads_of_not holds h.1 rfl fun r _ => sound.finished_of_new h.2

/-- What is kept for the ledger holds in every run in which mentions are not answered by
two calls at once. -/
theorem IsSound.reaches (sound : B.IsSound) {settings : Settings} {s : State σ}
    (always : B.always ⟨s.lastMention, s.replied, []⟩)
    (settled : B.settled ⟨s.lastMention, s.replied, []⟩) {m : Moment σ}
    (reaches : Reaches settings s m) (alone : Obeys Event.StartsAlone m.world.history)
    (law : Obeys B.law m.world.ledger.events) :
    B.always m.world.ledger ∧
      ∀ c r, .ended c r ∈ m.world.history → B.finished c m.world.ledger := by
  have obeys := obeys_assumed reaches.isProper.history alone law
  have start : B.discipline.always ⟨s, []⟩ := ⟨always, fun c r h => absurd h List.not_mem_nil⟩
  exact ((sound.isKept settings).reaches start settled reaches obeys).holds.always

end Bookkeeping

end Bot

end Mycelium
