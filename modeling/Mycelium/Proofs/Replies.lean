import Mycelium.Proofs.Fetches
import Mycelium.Random.Generator

/-!
# No mention is answered twice

`nodup_repliedTo` says that over a whole run no mention gets two replies, although a
reply that failed for a while holds the mark and the later mentions are fetched again.

While no call goes on, every mention that got a reply is at or below the mark, or its
id is remembered (`Ledger.Accounts`).  A reply that comes through breaks this for one
mention, and the same call restores it: it remembers the id if the mark is held, and
moves the mark otherwise.
-/

namespace Mycelium.Bot

variable {σ : Type}

/-- The id of the mention that an attempt has answered. -/
def Attempt.repliedTo? : Attempt → Option Text
  | ⟨_, m, .ok _⟩ => some m.id
  | ⟨_, _, .error _⟩ => none

/-- The ids of the mentions that got a reply, one for each reply. -/
def repliedTo (h : List (Event σ)) : List Text := (attempts h).filterMap Attempt.repliedTo?

namespace Ledger

/-- A ledger in which no mention was answered twice. -/
structure IsOnce (l : Ledger σ) : Prop where
  /-- No mention got two replies. -/
  once : (repliedTo l.events).Nodup
  /-- The mark is none or a number. -/
  mark : IsMark l.mark
  /-- The ids that are remembered are numbers. -/
  remembered : ∀ id ∈ l.replied, id.IsNumeral

/-- What was answered is known by the mark or is remembered. -/
def Accounts (l : Ledger σ) : Prop :=
  ∀ id ∈ repliedTo l.events,
    id.IsNumeral ∧ (Number.ofDigits id ≤ markNumber l.mark ∨ id ∈ l.replied)

end Ledger

/-- Mentions are answered at most once. -/
def atMostOnce : Bookkeeping σ where
  law := Event.FetchesNewer
  always := Ledger.IsOnce
  settled := Ledger.Accounts
  loop _ _ ms l := l.Accounts ∧ Ascends l.mark ms
  finished _ _ := True

variable {c : Nat} {l : Ledger σ} {m : Mention} {ms : List Mention} {response : Text}

/-- Moving the mark up to the next mention forgets nothing that matters. -/
theorem leads_advance (once : l.IsOnce) (ascends : Ascends l.mark (m :: ms))
    (accounts : ∀ id ∈ repliedTo l.events, id.IsNumeral ∧
      (Number.ofDigits id ≤ m.number ∨ id ∈ l.replied)) :
    atMostOnce.Leads l (.changed c (.advance m.id)) (atMostOnce.loop c false ms) := by
  intro _
  refine ⟨?_, ?_, ascends.advance⟩
  · exact {
      once := once.once
      mark := .inr ⟨m.id, rfl, ascends.head.1⟩
      remembered := fun id hid => once.remembered id (List.mem_filter.1 hid).1 }
  · intro id hid
    obtain ⟨hnumeral, hknown⟩ := accounts id hid
    refine ⟨hnumeral, ?_⟩
    -- the ids that are forgotten are those that the mark knows now
    by_cases hle : Number.ofDigits id ≤ m.number
    · exact .inl hle
    · refine .inr (List.mem_filter.2 ⟨hknown.resolve_left hle, ?_⟩)
      exact (isAfter_iff hnumeral ascends.head.1).2 (Nat.lt_of_not_le hle)

/-- The mark may move on past the next mention. -/
theorem passes_atMostOnce {held : Bool} (once : l.IsOnce)
    (loop : atMostOnce.loop c held (m :: ms) l) : atMostOnce.Passes c held m ms l := by
  obtain ⟨accounts, ascends⟩ := loop
  cases held with
  | true => exact ⟨accounts, ascends.tail⟩
  | false =>
      refine leads_advance once ascends fun id hid => ⟨(accounts id hid).1, ?_⟩
      exact (accounts id hid).2.imp_left fun hle => Nat.le_of_lt (hle.trans_lt ascends.head.2)

/-- A mention that is neither known by the mark nor remembered got no reply. -/
theorem not_mem_repliedTo (accounts : l.Accounts) (ascends : Ascends l.mark (m :: ms))
    (new : m.id ∉ l.replied) : m.id ∉ repliedTo l.events := by
  intro hmem
  rcases (accounts _ hmem).2 with hle | hmem
  · exact Nat.not_lt.2 hle ascends.head.2
  · exact new hmem

theorem isOnce_reply (c : Nat) (response : Text) (once : l.IsOnce)
    (loop : l.Accounts ∧ Ascends l.mark (m :: ms)) (new : m.id ∉ l.replied) :
    (l.after (.answered c (.reply response m) (.ok ()))).IsOnce where
  once := List.nodup_cons.2 ⟨not_mem_repliedTo loop.1 loop.2 new, once.once⟩
  mark := once.mark
  remembered := once.remembered

theorem leads_reply (once : l.IsOnce) (loop : l.Accounts ∧ Ascends l.mark (m :: ms))
    (new : m.id ∉ l.replied) :
    atMostOnce.Leads l (.answered c (.reply response m) (.ok ())) fun l =>
      atMostOnce.Leads l (.changed c (.advance m.id)) (atMostOnce.loop c false ms) := by
  intro _
  have honce := isOnce_reply c response once loop new
  refine ⟨honce, leads_advance honce loop.2 fun id hid => ?_⟩
  rcases List.mem_cons.1 hid with rfl | hid
  · exact ⟨loop.2.head.1, .inl (Nat.le_refl _)⟩
  · obtain ⟨hnumeral, hknown⟩ := loop.1 id hid
    exact ⟨hnumeral, hknown.imp_left fun hle => Nat.le_of_lt (hle.trans_lt loop.2.head.2)⟩

theorem leads_reply_ahead (once : l.IsOnce) (loop : l.Accounts ∧ Ascends l.mark (m :: ms))
    (new : m.id ∉ l.replied) :
    atMostOnce.Leads l (.answered c (.reply response m) (.ok ())) fun l =>
      atMostOnce.Leads l (.changed c (.remember m.id)) (atMostOnce.loop c true ms) := by
  intro _
  have honce := isOnce_reply c response once loop new
  refine ⟨honce, fun _ => ⟨⟨honce.once, honce.mark, fun id hid => ?_⟩, fun id hid => ?_,
    loop.2.tail⟩⟩
  · rcases (Ledger.mem_after_remember _ c).1 hid with hid | rfl
    · exact once.remembered id hid
    · exact loop.2.head.1
  · rcases List.mem_cons.1 hid with rfl | hid
    · exact ⟨loop.2.head.1, .inr ((Ledger.mem_after_remember _ c).2 (.inr rfl))⟩
    · obtain ⟨hnumeral, hknown⟩ := loop.1 id hid
      exact ⟨hnumeral, hknown.imp_right fun hmem => (Ledger.mem_after_remember _ c).2 (.inl hmem)⟩

theorem isOnce_error (once : l.IsOnce) {f : Fault} :
    (l.after (.answered c (.reply response m) (.error f))).IsOnce :=
  ⟨once.once, once.mark, once.remembered⟩

theorem isSound_atMostOnce : (atMostOnce : Bookkeeping σ).IsSound where
  fetched once accounts _ law := by
    obtain ⟨xs, rfl, ascends⟩ := law.1
    exact ⟨⟨once.once, once.mark, once.remembered⟩, xs, rfl, accounts, ascends⟩
  unfetched once accounts _ _ := ⟨⟨once.once, once.mark, once.remembered⟩, accounts, trivial⟩
  settled_of_loop loop := loop.1
  newer once loop := loop.2.isNewer once.mark
  skipped once loop _ := passes_atMostOnce once loop
  unreadable once loop _ _ := passes_atMostOnce once loop
  answered once loop new _ := leads_reply once loop new
  answered_ahead once loop new _ := leads_reply_ahead once loop new
  postponed once loop _ _ _ _ := ⟨isOnce_error once, loop.1, loop.2.tail⟩
  refused once loop _ _ _ _ := ⟨isOnce_error once, passes_atMostOnce (isOnce_error once) loop⟩
  finish _ _ := trivial
  finished_after _ _ := trivial
  finished_of_new _ := trivial

/-- Over every run no mention gets two replies: not if replies and fetches fail, nor if
other calls go on while a collaborator is asked. -/
theorem nodup_repliedTo {settings : Settings} {s : State σ}
    (mark : IsMark s.lastMention) (fresh : s.replied = []) {m : Moment σ}
    (reaches : Reaches settings s m) (alone : Obeys Event.StartsAlone m.world.history)
    (fetches : Obeys Event.FetchesNewer m.world.history) :
    (repliedTo m.world.history).Nodup := by
  have start : Ledger.IsOnce (σ := σ) ⟨s.lastMention, s.replied, []⟩ :=
    ⟨List.nodup_nil, mark, by simp [fresh]⟩
  have settled : Ledger.Accounts (σ := σ) ⟨s.lastMention, s.replied, []⟩ :=
    fun id hid => absurd hid List.not_mem_nil
  have law : Obeys Event.FetchesNewer m.world.ledger.events :=
    fetches.ofMentions fun _ _ he => he
  have honce := (isSound_atMostOnce.reaches start settled reaches alone law).1.once
  rwa [repliedTo, World.ledger, attempts_filter] at honce

/-- Two mentions. -/
def twoMentions : List Mention := [⟨['1'], .str []⟩, ⟨['2'], .str []⟩]

theorem ascends_twoMentions : Ascends .null twoMentions where
  newer m hm := by
    rcases List.mem_pair.1 hm with rfl | rfl
    · exact ⟨⟨1, by decide, by decide, by decide⟩, by decide⟩
    · exact ⟨⟨2, by decide, by decide, by decide⟩, by decide⟩
  ascending := by decide

/-- The channel cannot be reached for a while when the first of two mentions is to be
answered. -/
def slowChannel : Surroundings Tape :=
  .ofMentions twoMentions fun h m =>
    if m.id = ['1'] ∧ h.length < 5 then .error (.unreachable []) else .ok ()

/-- A bot that has just started. -/
def freshWorld : World Tape := ⟨.initial ⟨[], 1, 0, 0, {}⟩ .null ⟨[], 0⟩, []⟩

/-- The mentions are answered twice. -/
def twoRounds : World Tape :=
  freshWorld.calls ⟨[], 1, 0, 0, {}⟩ slowChannel [.answerMentions, .answerMentions]

theorem reaches_twoRounds :
    ∃ waiting, Reaches ⟨[], 1, 0, 0, {}⟩ freshWorld.state ⟨twoRounds, none, waiting⟩ :=
  reaches_calls (.start _) slowChannel _ .refl

theorem startsAlone_twoRounds : Obeys Event.StartsAlone twoRounds.history :=
  World.obeys_startsAlone_calls _ (.start _) trivial

theorem fetchesNewer_twoRounds : Obeys Event.FetchesNewer twoRounds.history :=
  World.obeys_calls (Surroundings.obey_fetchesNewer ascends_twoMentions _)
    (fun _ _ _ => trivial) _ (.start _) trivial

/-- The second mention is answered in the first round, the first one in the second. -/
theorem nodup_repliedTo_twoRounds :
    repliedTo twoRounds.history = [['1'], ['2']] ∧ (repliedTo twoRounds.history).Nodup := by
  obtain ⟨waiting, reaches⟩ := reaches_twoRounds
  refine ⟨by decide, ?_⟩
  exact nodup_repliedTo (.inl rfl) rfl reaches startsAlone_twoRounds fetchesNewer_twoRounds

end Mycelium.Bot
