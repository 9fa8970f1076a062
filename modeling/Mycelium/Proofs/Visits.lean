import Mycelium.Proofs.Alone
import Mycelium.Random.Generator

/-!
# What comes of the mentions

A call that answers mentions comes to each of them once, in their order (`Visits`).  It passes over
those that were answered before, and tries to answer every other one, whatever came of the ones
before it.  There are four things that may come of a mention (`Fate`), one for each way through the
loop.

Besides the replies and the log only the bookkeeping changes, which is at most one note for a
mention (`Notes`): the mark moves up to its id, or the id is remembered.  What one visit adds to the
log and to the replies (`Visit.gains`, `Visit.replies`) adds up over all of them (`Visits.gains`,
`Visits.replies`).

Only a mark out of a damaged state file is of a kind that an id cannot be compared with.  No mark
at all is comparable, and so is every text (`isComparable_null`, `isComparable_str`).
-/

namespace Mycelium.Bot

open Session

variable {σ : Type} {c : Nat} {w w' : World σ} {m : Mention} {ms : List Mention}

/-! ## Fates -/

/-- What comes of a mention. -/
inductive Fate where
  /-- It was answered before. -/
  | skipped
  /-- Its text cannot be read. -/
  | unreadable (f : Fault)
  /-- The channel does not take the reply. -/
  | refused (text : Text) (f : Fault)
  /-- It is answered. -/
  | answered (text : Text)

/-- A reply to a mention. -/
structure Reply where
  text : Text
  mention : Mention
  outcome : Except Fault Unit

/-- How a rule system answers a text. -/
def interactionOf (system : RuleSystem) (text : Text) : Interaction :=
  ⟨some text, system.respond text, system.respond text != RuleSystem.noMatch⟩

namespace Fate

/-- Whether a mention is passed over. -/
def isSkipped : Fate → Bool
  | skipped => true
  | _ => false

/-- Whether a mention is answered. -/
def isAnswered : Fate → Bool
  | answered _ => true
  | _ => false

/-- Whether a mention is not answered although it should be. -/
def isFailed : Fate → Bool
  | unreadable _ => true
  | refused _ _ => true
  | _ => false

/-- What goes into the log. -/
def interaction? (system : RuleSystem) : Fate → Option Interaction
  | answered text => some (interactionOf system text)
  | _ => none

/-- The reply to a mention. -/
def reply? (system : RuleSystem) (m : Mention) : Fate → Option Reply
  | answered text => some ⟨system.respond text, m, .ok ()⟩
  | refused text f => some ⟨system.respond text, m, .error f⟩
  | _ => none

/-- Every mention is answered, not answered, or passed over. -/
theorem length_eq_countP (fates : List Fate) :
    fates.length =
      fates.countP isAnswered + fates.countP isFailed + fates.countP isSkipped := by
  induction fates with
  | nil => rfl
  | cons fate fates ih =>
      rw [List.length_cons, List.countP_cons, List.countP_cons, List.countP_cons]
      cases fate <;> simp only [isAnswered, isFailed, isSkipped] <;> grind

end Fate

/-- The reply that an event is. -/
def Event.reply? : Event σ → Option Reply
  | .answered _ (.reply text m) r => some ⟨text, m, r⟩
  | _ => none

/-- The replies of a history, the latest one first. -/
def replies (h : List (Event σ)) : List Reply := h.filterMap Event.reply?

/-! ## Visits -/

/-- A mention was answered before. -/
def Mention.IsDone (m : Mention) (s : State σ) : Prop := m.id ≠ [] ∧ m.id ∈ s.replied

/-- What is noted of a mention. -/
inductive Notes (c : Nat) (id : Text) (w : World σ) : World σ → Prop where
  | nothing : Notes c id w w
  | advance : Notes c id w (w.after (.changed c (.advance id)))
  | remember : Notes c id w (w.after (.changed c (.remember id)))

/-- The world after a reply to a mention with a text. -/
def World.afterReply (w : World σ) (c : Nat) (m : Mention) (text : Text) (r : Except Fault Unit) :
    World σ :=
  w.after (.answered c (.reply (w.state.current.respond text) m) r)

/-- Some interactions go into the log, and nothing changes besides but the bookkeeping. -/
def State.Gains (is : List Interaction) (s s' : State σ) : Prop :=
  s' = { s with log := s.log ++ is, lastMention := s'.lastMention, replied := s'.replied }

namespace State.Gains

variable {is js : List Interaction} {s s' s'' : State σ}

theorem trans (h : s.Gains is s') (h' : s'.Gains js s'') : s.Gains (is ++ js) s'' := by
  rw [Gains, h', h, List.append_assoc]

theorem current_eq (h : s.Gains is s') : s'.current = s.current := by
  rw [h]

end State.Gains

theorem Notes.gains (notes : Notes c m.id w w') : w.state.Gains [] w'.state := by
  cases notes <;> simp [State.Gains, World.after, Change.apply]

theorem Notes.replies (notes : Notes c m.id w w') : replies w'.history = replies w.history := by
  cases notes <;> rfl

/-- A mark that every id can be compared with. -/
def IsComparable (mark : Json) : Prop := ∀ id, ∃ newer, isNewer id mark = .ok newer

theorem isComparable_null : IsComparable .null := fun _ => ⟨true, rfl⟩

theorem isComparable_str (other : Text) : IsComparable (.str other) := fun id =>
  ⟨isAfter id other, rfl⟩

theorem Notes.isComparable {id : Text} (notes : Notes c id w w')
    (comparable : IsComparable w.state.lastMention) : IsComparable w'.state.lastMention := by
  cases notes with
  | nothing => exact comparable
  | advance => exact isComparable_str id
  | remember => exact comparable

variable [RandomSource σ] {surroundings : Surroundings σ}

/-- The visit of a mention. -/
inductive Visit (surroundings : Surroundings σ) (c : Nat) (m : Mention) (w : World σ) :
    Fate → World σ → Prop where
  /-- A mention that was answered before is passed over. -/
  | skipped {w' : World σ} (done : m.IsDone w.state) (notes : Notes c m.id w w') :
      Visit surroundings c m w .skipped w'
  /-- There is nothing to reply to a mention that cannot be read. -/
  | unreadable {w' : World σ} {f : Fault} (new : ¬ m.IsDone w.state)
      (unread : Content.plainText m.content = .error f) (notes : Notes c m.id w w') :
      Visit surroundings c m w (.unreadable f) w'
  /-- A reply that the channel does not take leaves nothing in the log. -/
  | refused {w' : World σ} {text : Text} {f : Fault} (new : ¬ m.IsDone w.state)
      (read : Content.plainText m.content = .ok text)
      (reply : surroundings.reply w.history m = .error f)
      (notes : Notes c m.id (w.afterReply c m text (.error f)) w') :
      Visit surroundings c m w (.refused text f) w'
  /-- A reply that the channel takes goes into the log. -/
  | answered {w' : World σ} {text : Text} (new : ¬ m.IsDone w.state)
      (read : Content.plainText m.content = .ok text)
      (reply : surroundings.reply w.history m = .ok ())
      (notes : Notes c m.id ((w.afterReply c m text (.ok ())).after
        (.changed c (.record (interactionOf w.state.current text)))) w') :
      Visit surroundings c m w (.answered text) w'

/-- The visits of mentions, one after the other. -/
inductive Visits (surroundings : Surroundings σ) (c : Nat) :
    List Mention → List Fate → World σ → World σ → Prop where
  | nil {w : World σ} : Visits surroundings c [] [] w w
  | cons {m : Mention} {ms : List Mention} {fate : Fate} {fates : List Fate} {w w' w'' : World σ}
      (visit : Visit surroundings c m w fate w') (visits : Visits surroundings c ms fates w' w'') :
      Visits surroundings c (m :: ms) (fate :: fates) w w''

/-- A visit adds at most one interaction to the log. -/
theorem Visit.gains {fate : Fate} (visit : Visit surroundings c m w fate w') :
    w.state.Gains (fate.interaction? w.state.current).toList w'.state := by
  cases visit with
  | skipped _ notes => exact notes.gains
  | unreadable _ _ notes => exact notes.gains
  | refused _ _ _ notes => exact notes.gains
  | @answered _ text _ _ _ notes =>
      have recorded : w.state.Gains [interactionOf w.state.current text]
          ((w.afterReply c m text (.ok ())).after
            (.changed c (.record (interactionOf w.state.current text)))).state := rfl
      exact recorded.trans notes.gains

/-- A visit adds at most one reply. -/
theorem Visit.replies {fate : Fate} (visit : Visit surroundings c m w fate w') :
    replies w'.history = (fate.reply? w.state.current m).toList ++ replies w.history := by
  cases visit with
  | skipped _ notes => exact notes.replies
  | unreadable _ _ notes => exact notes.replies
  | refused _ _ _ notes => exact notes.replies
  | answered _ _ _ notes => exact notes.replies

namespace Visits

variable {fates : List Fate}

theorem length_eq (visits : Visits surroundings c ms fates w w') : ms.length = fates.length := by
  induction visits with
  | nil => rfl
  | cons _ _ ih => rw [List.length_cons, List.length_cons, ih]

/-- The log gets an interaction for each mention that is answered. -/
theorem gains (visits : Visits surroundings c ms fates w w') :
    w.state.Gains (fates.filterMap (Fate.interaction? w.state.current)) w'.state := by
  induction visits with
  | nil => simp [State.Gains]
  | @cons m ms fate fates w w' w'' visit _ ih =>
      have hgains := visit.gains.trans ih
      rw [visit.gains.current_eq] at hgains
      cases h : fate.interaction? w.state.current <;> simpa [h] using hgains

/-- The channel gets a reply for each mention that is tried. -/
theorem replies (visits : Visits surroundings c ms fates w w') :
    replies w'.history =
      ((ms.zip fates).filterMap fun x => x.2.reply? w.state.current x.1).reverse ++
        replies w.history := by
  induction visits with
  | nil => rfl
  | @cons m ms fate fates w w' w'' visit _ ih =>
      rw [ih, visit.replies, visit.gains.current_eq]
      cases h : fate.reply? w.state.current m <;> simp [h]

end Visits

/-! ## Calls -/

theorem yields_advance {id : Text} (comparable : IsComparable w.state.lastMention) :
    Yields surroundings c (advance id) (fun r w' => r = .ok () ∧ Notes c id w w') w := by
  rw [advance]
  split
  · refine yields_bind.2 (yields_look.2 ?_)
    obtain ⟨newer, hnewer⟩ := comparable id
    dsimp only
    rw [hnewer]
    cases newer with
    | true => exact yields_change.2 ⟨rfl, .advance⟩
    | false => exact ⟨rfl, .nothing⟩
  · exact ⟨rfl, .nothing⟩

/-- The call passes on to the next mention. -/
theorem yields_pass {held : Bool} {id : Text} {rest : Session σ Tally}
    {post : Except Fault Tally → World σ → Prop} (comparable : IsComparable w.state.lastMention)
    (goes_on : ∀ w', Notes c id w w' → Yields surroundings c rest post w') :
    Yields surroundings c (if !held then do
        let _ ← advance id
        rest
      else rest) post w := by
  cases held with
  | true => exact goes_on w .nothing
  | false =>
      refine yields_bind.2 ((yields_advance comparable).mono ?_)
      rintro _ w' ⟨rfl, notes⟩
      exact goes_on w' notes

/-- A mention that was answered is remembered if an earlier one has to be tried again. -/
theorem yields_keep {held : Bool} {id : Text} {rest : Session σ Tally}
    {post : Except Fault Tally → World σ → Prop} (comparable : IsComparable w.state.lastMention)
    (goes_on : ∀ w', Notes c id w w' → Yields surroundings c rest post w') :
    Yields surroundings c (do
      if held && !id.isEmpty then Session.change (.remember id)
      if !held then advance id
      rest) post w := by
  cases held with
  | false =>
      simp only [Bool.false_and, Bool.false_eq_true, if_false]
      exact yields_pass comparable goes_on
  | true =>
      simp only [Bool.true_and, Bool.not_true, Bool.false_eq_true, if_false]
      split
      · exact yields_bind.2 (yields_change.2 (goes_on _ .remember))
      · exact goes_on w .nothing

theorem yields_replyTo {post : Except Fault (Text × Text) → World σ → Prop}
    (unreadable : ∀ f, Content.plainText m.content = .error f → post (.error f) w)
    (asked : ∀ text, Content.plainText m.content = .ok text →
      post ((surroundings.reply w.history m).map fun _ => (text, w.state.current.respond text))
        (w.afterReply c m text (surroundings.reply w.history m))) :
    Yields surroundings c (replyTo m) post w := by
  rw [replyTo, yields_bind, decoded]
  cases hm : Content.plainText m.content with
  | error f => exact unreadable f hm
  | ok text =>
      refine yields_bind.2 (yields_look.2 (yields_bind.2 (yields_reply.2 ?_)))
      have hasked := asked text hm
      rw [World.afterReply] at hasked
      cases hreply : surroundings.reply w.history m with
      | error f =>
          rw [hreply] at hasked
          exact hasked
      | ok u =>
          rw [hreply] at hasked
          exact hasked

/-- A tally with one more mention. -/
def Tally.count (tally : Tally) (fate : Fate) : Tally :=
  { tally with
    answered := tally.answered + if fate.isAnswered then 1 else 0
    failed := tally.failed + if fate.isFailed then 1 else 0 }

/-- The mentions are visited, and the tally is told. -/
def Tells (surroundings : Surroundings σ) (c : Nat) (ms : List Mention) (tally : Tally)
    (w : World σ) (r : Except Fault Tally) (w' : World σ) : Prop :=
  ∃ fates, Visits surroundings c ms fates w w' ∧ r = .ok (fates.foldl Tally.count tally)

theorem Tells.cons {fate : Fate} {tally : Tally} {r : Except Fault Tally} {w'' : World σ}
    (visit : Visit surroundings c m w fate w')
    (tells : Tells surroundings c ms (tally.count fate) w' r w'') :
    Tells surroundings c (m :: ms) tally w r w'' := by
  obtain ⟨fates, visits, rfl⟩ := tells
  exact ⟨fate :: fates, .cons visit visits, rfl⟩

theorem foldl_count (fates : List Fate) (tally : Tally) :
    fates.foldl Tally.count tally = { tally with
      answered := tally.answered + fates.countP Fate.isAnswered
      failed := tally.failed + fates.countP Fate.isFailed } := by
  induction fates generalizing tally with
  | nil => rfl
  | cons fate fates ih =>
      rw [List.foldl_cons, ih, List.countP_cons, List.countP_cons]
      simp only [Tally.count, Nat.add_assoc, Nat.add_comm (List.countP _ _)]

theorem yields_answerEach (held : Bool) (tally : Tally)
    (comparable : IsComparable w.state.lastMention) :
    Yields surroundings c (answerEach held tally (ms.map .ok))
      (Tells surroundings c ms tally w) w := by
  -- whatever comes of a mention, the mark after it can be compared, and that is all the rest needs
  induction ms generalizing held tally w with
  | nil => exact ⟨[], .nil, rfl⟩
  | cons m ms ih =>
      rw [List.map_cons, answerEach, yields_bind]
      refine yields_bind.2 (yields_look.2 ?_)
      have goes_on (held : Bool) {fate : Fate} {w' : World σ}
          (comparable : IsComparable w'.state.lastMention)
          (visit : Visit surroundings c m w fate w') :
          Yields surroundings c (answerEach held (tally.count fate) (ms.map .ok))
            (Tells surroundings c (m :: ms) tally w) w' :=
        (ih held (tally.count fate) comparable).mono fun _ _ tells => tells.cons visit
      have hdone : (!m.id.isEmpty && w.state.replied.contains m.id) = true ↔
          m.IsDone w.state := by
        simp [Mention.IsDone]
      dsimp only
      split
      · next hif =>
          exact yields_pass comparable fun w' notes =>
            goes_on held (notes.isComparable comparable) (.skipped (hdone.1 hif) notes)
      · next hif =>
          have new : ¬ m.IsDone w.state := fun h => hif (hdone.2 h)
          refine yields_bind.2 (yields_outcome.2 (yields_replyTo ?_ ?_))
          · intro f unread
            have lasting : f.isTransient = false := Content.isTransient_of_plainText unread
            dsimp only
            rw [if_neg (Bool.eq_false_iff.1 lasting)]
            exact yields_pass comparable fun w' notes =>
              goes_on held (notes.isComparable comparable) (.unreadable new unread notes)
          · intro text read
            cases hreply : surroundings.reply w.history m with
            | error f =>
                have refused {w' : World σ}
                    (notes : Notes c m.id (w.afterReply c m text (.error f)) w') :
                    Visit surroundings c m w (.refused text f) w' :=
                  .refused new read hreply notes
                show Yields surroundings c (
                  if f.isTransient then answerEach true (tally.count (.refused text f)) (ms.map .ok)
                  else do
                    if !held then advance m.id
                    answerEach held (tally.count (.refused text f)) (ms.map .ok)) _ _
                split
                · exact goes_on true comparable (refused .nothing)
                · exact yields_pass comparable fun w' notes =>
                    goes_on held (notes.isComparable comparable) (refused notes)
            | ok u =>
                show Yields surroundings c (do
                  record (some text) (w.state.current.respond text)
                  if held && !m.id.isEmpty then Session.change (.remember m.id)
                  if !held then advance m.id
                  answerEach held (tally.count (.answered text)) (ms.map .ok)) _ _
                refine yields_bind.2 (yields_change.2 ?_)
                exact yields_keep comparable fun w' notes =>
                  goes_on held (notes.isComparable comparable) (.answered new read hreply notes)

theorem yields_answerMentions (comparable : IsComparable w.state.lastMention)
    (fetched : surroundings.mentions w.history w.state.lastMention = .ok (ms.map .ok)) :
    Yields surroundings c answerMentions (Tells surroundings c ms ⟨ms.length, 0, 0, none⟩
      (w.after (.answered c (.mentions w.state.lastMention) (.ok (ms.map .ok))))) w := by
  refine yields_bind.2 (yields_look.2 (yields_bind.2 (yields_outcome.2 ?_)))
  rw [yields_mentions, fetched]
  dsimp only
  rw [List.length_map]
  exact yields_answerEach false _ comparable

/-- A call that is alone deals with every mention that it has fetched, in their order, whatever
came of those before it.  What it tells is how many there were, how many were answered, and how many
were not although they should have been; those that are left were answered before.  The log gets an
interaction for each one that was answered, the channel a reply for each one that could be read, and
nothing else changes but the mark and the ids that are remembered. -/
theorem call_answerMentions {settings : Settings}
    (comparable : IsComparable w.state.lastMention)
    (fetched : surroundings.mentions (.began c .answerMentions :: w.history) w.state.lastMention =
      .ok (ms.map .ok)) :
    ∃ (fates : List Fate) (w' : World σ),
      Visits surroundings c ms fates ((w.after (.began c .answerMentions)).after
        (.answered c (.mentions w.state.lastMention) (.ok (ms.map .ok)))) w' ∧
      w.call settings surroundings c .answerMentions =
        w'.after (.ended c (.ok (.tally
          ⟨ms.length, fates.countP Fate.isAnswered, fates.countP Fate.isFailed, none⟩))) ∧
      ms.length = fates.countP Fate.isAnswered + fates.countP Fate.isFailed +
        fates.countP Fate.isSkipped ∧
      w.state.Gains (fates.filterMap (Fate.interaction? w.state.current)) w'.state ∧
      replies w'.history =
        ((ms.zip fates).filterMap fun x => x.2.reply? w.state.current x.1).reverse ++
          replies w.history := by
  obtain ⟨_, w', ⟨fates, visits, rfl⟩, hcall⟩ :=
    (yields_answerMentions (w := w.after (.began c .answerMentions)) comparable fetched).call
      settings rfl
  refine ⟨fates, w', visits, ?_, ?_, visits.gains, visits.replies⟩
  · rw [hcall, foldl_count]
    simp [Except.map]
  · rw [visits.length_eq]
    exact Fate.length_eq_countP fates

/-- A mention without an id, three with one, the last of them again, and one without a text. -/
def sixMentions : List Mention :=
  [⟨[], .str ['a']⟩, ⟨['7'], .str ['b']⟩, ⟨['8'], .str ['c']⟩, ⟨['9'], .null⟩,
    ⟨['9'], .str ['d']⟩, ⟨['6'], .int 5⟩]

/-- A channel that holds them and cannot be reached for one of the replies. -/
def sixMentionsChannel : Surroundings Tape where
  mentions _ _ := .ok (sixMentions.map .ok)
  reply _ m := if m.id = ['8'] then .error (.unreachable []) else .ok ()

/-- A bot that is not done with any mention. -/
def unmarkedBot : World Tape := ⟨.initial ⟨[], 1, 0, 0, {}⟩ .null ⟨[], 0⟩, []⟩

/-- The bot after it has answered them. -/
def sixMentionsBot : World Tape :=
  unmarkedBot.call ⟨[], 1, 0, 0, {}⟩ sixMentionsChannel 0 .answerMentions

/-- Four of them are replied to, three replies come through, and the one that came again is passed
over. -/
theorem call_answerMentions_sixMentions :
    IsComparable unmarkedBot.state.lastMention ∧
      sixMentionsChannel.mentions [.began 0 .answerMentions] unmarkedBot.state.lastMention =
        .ok (sixMentions.map .ok) ∧
      (replies sixMentionsBot.history).length = 4 ∧ sixMentionsBot.state.log.length = 3 ∧
      sixMentionsBot.state.replied = [['9']] ∧
      ∃ (fates : List Fate) (w' : World Tape),
        Visits sixMentionsChannel 0 sixMentions fates
          ((unmarkedBot.after (.began 0 .answerMentions)).after
            (.answered 0 (.mentions .null) (.ok (sixMentions.map .ok)))) w' ∧
        sixMentionsBot = w'.after (.ended 0 (.ok (.tally
          ⟨6, fates.countP Fate.isAnswered, fates.countP Fate.isFailed, none⟩))) ∧
        6 = fates.countP Fate.isAnswered + fates.countP Fate.isFailed +
          fates.countP Fate.isSkipped ∧
        unmarkedBot.state.Gains
          (fates.filterMap (Fate.interaction? unmarkedBot.state.current)) w'.state ∧
        replies w'.history =
          ((sixMentions.zip fates).filterMap fun x =>
            x.2.reply? unmarkedBot.state.current x.1).reverse ++ [] :=
  ⟨isComparable_null, rfl, by decide +kernel, by decide +kernel, by decide +kernel,
    call_answerMentions isComparable_null rfl⟩

end Mycelium.Bot
