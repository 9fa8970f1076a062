import Mycelium.Proofs.Grounds

/-!
# The mark only goes up

Ids are integers, but nothing else is assumed of a channel.  It may give mentions in any order,
again and again, without ids, and such as are not newer than the mark that it was asked from.  Calls
may overlap in every way, so they work with marks that are out of date, and with what other calls
have answered in the meantime.

The mark goes up all the same (`Reaches.mark_rises`), because it is compared with an id and moved to
it at one stroke.  With each move the ids are forgotten that it has come to.
-/

namespace Mycelium

namespace Text

/-- A text that is read as an integer. -/
def IsInteger (id : Text) : Prop := ∃ n, Number.readInt id = .ok n

/-- Not too many decimal digits, with or without a sign. -/
theorem isInteger_of_takeSign {id s : Text} {negative : Bool}
    (signed : Number.takeSign (id.dropWhile Number.isSpace) = (negative, s)) (nonempty : s ≠ [])
    (digits : ∀ c ∈ s, c.isDigit = true) (short : s.length ≤ Number.digitLimit) : id.IsInteger :=
  ⟨_, Number.readInt_of_takeSign nonempty digits signed short⟩

instance IsInteger.decidable (id : Text) : Decidable id.IsInteger :=
  match h : Number.readInt id with
  | .ok n => .isTrue ⟨n, h⟩
  | .error _ => .isFalse fun ⟨_, hn⟩ => nomatch h.symm.trans hn

end Text

namespace Bot

variable {σ : Type} {s : State σ} {c : Nat} {e : Event σ} {h later : List (Event σ)}
  {w : World σ} {id : Text}

/-! ## Marks that are integers -/

/-- A mark that is none or an integer. -/
def IsIntegerMark (mark : Json) : Prop := mark = .null ∨ ∃ id, mark = .str id ∧ id.IsInteger

/-- A mark is an integer, and a greater one than another mark. -/
inductive IsAbove : Json → Json → Prop where
  /-- Every integer is above no mark. -/
  | null {id : Text} (integer : id.IsInteger) : IsAbove (.str id) .null
  /-- A greater integer is above a smaller one. -/
  | str {id other : Text} {n m : Int} (read : Number.readInt id = .ok n)
      (read_other : Number.readInt other = .ok m) (lt : m < n) : IsAbove (.str id) (.str other)

theorem IsAbove.trans {a b c : Json} (above : IsAbove a b) (above' : IsAbove b c) :
    IsAbove a c := by
  cases above with
  | null integer => cases above'
  | str read read_mid lt =>
      cases above' with
      | null integer => exact .null ⟨_, read⟩
      | str read_mid' read_other lt' =>
          obtain rfl := Except.ok.inj (read_mid.symm.trans read_mid')
          exact .str read read_other (Int.lt_trans lt' lt)

theorem isAbove_of_isAfter {other : Text} (integer : id.IsInteger)
    (other_integer : other.IsInteger) (after : isAfter id other = true) :
    IsAbove (.str id) (.str other) := by
  obtain ⟨n, hn⟩ := integer
  obtain ⟨m, hm⟩ := other_integer
  have lt : m < n := by simpa [isAfter, hn, hm] using after
  exact .str hn hm lt

theorem IsIntegerMark.isAbove {mark : Json} (known : IsIntegerMark mark) (integer : id.IsInteger)
    (newer : isNewer id mark = .ok true) : IsAbove (.str id) mark := by
  rcases known with rfl | ⟨other, rfl, hother⟩
  · exact .null integer
  · exact isAbove_of_isAfter integer hother (Except.ok.inj newer)

/-! ## What is known of a state -/

/-- The mark is none or an integer, and only integers are remembered. -/
structure State.IsNumbered (s : State σ) : Prop where
  mark : IsIntegerMark s.lastMention
  replied : ∀ id ∈ s.replied, id.IsInteger

/-- The id that an event makes the mark, or that is remembered. -/
def Event.id? : Event σ → Option Text
  | .changed _ (.advance id) => some id
  | .changed _ (.remember id) => some id
  | _ => none

theorem State.IsNumbered.after (numbered : w.state.IsNumbered)
    (integer : ∀ id, e.id? = some id → id.IsInteger) : (w.after e).state.IsNumbered := by
  cases e with
  | changed c ch =>
      cases ch with
      | advance id =>
          refine ⟨.inr ⟨id, rfl, integer id rfl⟩, fun x hx => ?_⟩
          exact numbered.replied x (List.mem_filter.1 hx).1
      | remember id =>
          refine ⟨numbered.mark, fun x hx => ?_⟩
          simp only [World.after, Change.apply] at hx
          split at hx
          · exact numbered.replied x hx
          · rcases List.mem_append.1 hx with hx | hx
            · exact numbered.replied x hx
            · exact List.mem_singleton.1 hx ▸ integer id rfl
      | _ => exact ⟨numbered.mark, numbered.replied⟩
  | _ => exact numbered

/-! ## Along a history -/

/-- What is fetched has an integer as its id or has none, or it is no mention. -/
def HasIntegerId : Except Fault Mention → Prop
  | .ok m => m.id = [] ∨ m.id.IsInteger
  | .error _ => True

/-- All mentions that were fetched have integers as their ids, or have none. -/
def FetchesIntegers (h : List (Event σ)) : Prop := ∀ x ∈ fetched h, HasIntegerId x

theorem FetchesIntegers.of_cons (fetches : FetchesIntegers (e :: h)) : FetchesIntegers h :=
  fun x hx => fetches x (List.mem_append_right _ hx)

theorem IsFetchedId.isInteger (isFetched : IsFetchedId id h) (fetches : FetchesIntegers h) :
    id.IsInteger := by
  obtain ⟨given, m, hm, rfl⟩ := isFetched
  exact (fetches _ hm).resolve_left given

theorem Event.HasGrounds.isFetchedId (grounds : e.HasGrounds s h) (hid : e.id? = some id) :
    IsFetchedId id h := by
  cases e with
  | changed c ch =>
      cases ch with
      | advance x =>
          cases hid
          exact grounds.1
      | remember x =>
          cases hid
          exact grounds
      | _ => cases hid
  | _ => cases hid

theorem State.IsNumbered.replayed (numbered : s.IsNumbered) (grounds : Obeys (Event.HasGrounds s) h)
    (fetches : FetchesIntegers h) : (s.replayed h).IsNumbered := by
  induction h with
  | nil => exact numbered
  | cons e h ih =>
      refine State.IsNumbered.after (ih grounds.2 fetches.of_cons) fun id hid => ?_
      exact (grounds.1.isFetchedId hid).isInteger fetches.of_cons

/-- An event moves the mark, or leaves it as it is. -/
theorem Event.advances_or (e : Event σ) :
    (∃ c id, e = .changed c (.advance id)) ∨
      ∀ w : World σ, (w.after e).state.lastMention = w.state.lastMention := by
  cases e with
  | changed c ch =>
      cases ch with
      | advance id => exact .inl ⟨c, id, rfl⟩
      | _ => exact .inr fun _ => rfl
  | _ => exact .inr fun _ => rfl

section Replayed

variable (numbered : s.IsNumbered)
include numbered

/-- The mark is moved to a greater integer. -/
theorem isAbove_of_advance (grounds : Obeys (Event.HasGrounds s) (.changed c (.advance id) :: h))
    (fetches : FetchesIntegers h) : IsAbove (.str id) (s.replayed h).lastMention := by
  obtain ⟨⟨isFetched, newer⟩, earlier⟩ := grounds
  exact (numbered.replayed earlier fetches).mark.isAbove (isFetched.isInteger fetches) newer

theorem replayed_rises (grounds : Obeys (Event.HasGrounds s) (later ++ h))
    (fetches : FetchesIntegers (later ++ h)) :
    (s.replayed (later ++ h)).lastMention = (s.replayed h).lastMention ∨
      IsAbove (s.replayed (later ++ h)).lastMention (s.replayed h).lastMention := by
  induction later with
  | nil => exact .inl rfl
  | cons e later ih =>
      have earlier : FetchesIntegers (later ++ h) := fetches.of_cons
      rcases e.advances_or with ⟨c, id, rfl⟩ | stays
      · have above := isAbove_of_advance numbered grounds earlier
        rcases ih grounds.2 earlier with same | higher
        · exact .inr (same ▸ above)
        · exact .inr (above.trans higher)
      · have same : (s.replayed (e :: (later ++ h))).lastMention =
            (s.replayed (later ++ h)).lastMention := stays ⟨_, later ++ h⟩
        rw [List.cons_append, same]
        exact ih grounds.2 earlier

/-- The mark has been moved past no id that is still remembered. -/
theorem isAbove_of_mem_replied
    (grounds : Obeys (Event.HasGrounds s) (.changed c (.advance id) :: h))
    (fetches : FetchesIntegers h) {x : Text}
    (hx : x ∈ (s.replayed (.changed c (.advance id) :: h)).replied) :
    IsAbove (.str x) (.str id) := by
  obtain ⟨hmem, hafter⟩ := List.mem_filter.1 hx
  have integer : id.IsInteger := grounds.1.1.isInteger fetches
  have remembered : x.IsInteger := (numbered.replayed grounds.2 fetches).replied x hmem
  exact isAbove_of_isAfter remembered integer hafter

end Replayed

/-- The mark is the first one, or the id of a mention that was fetched. -/
theorem lastMention_replayed (grounds : Obeys (Event.HasGrounds s) h) :
    (s.replayed h).lastMention = s.lastMention ∨
      ∃ id, IsFetchedId id h ∧ (s.replayed h).lastMention = .str id := by
  induction h with
  | nil => exact .inl rfl
  | cons e h ih =>
      rcases e.advances_or with ⟨c, id, rfl⟩ | stays
      · exact .inr ⟨id, grounds.1.1, rfl⟩
      · refine (ih grounds.2).imp (stays ⟨s.replayed h, h⟩).trans ?_
        rintro ⟨id, ⟨given, m, hm, rfl⟩, hid⟩
        exact ⟨_, ⟨given, m, List.mem_append_right _ hm, rfl⟩, (stays ⟨s.replayed h, h⟩).trans hid⟩

/-! ## Runs -/

/-- The mark at a moment. -/
def Moment.mark (m : Moment σ) : Json := m.world.state.lastMention

variable {settings : Settings}

/-- How the mark at a moment of a run compares with the mark at an earlier one. -/
structure Moment.MarkRises (settings : Settings) (s : State σ) (m m' : Moment σ) : Prop where
  /-- It is the same, or a greater integer. -/
  rises : m'.mark = m.mark ∨ IsAbove m'.mark m.mark
  /-- Once there is a mark there always is one. -/
  stays : m.mark ≠ .null → m'.mark ≠ .null
  /-- It is the first one, or the id of a mention that was fetched. -/
  origin : m'.mark = s.lastMention ∨ ∃ id, IsFetchedId id m'.world.history ∧ m'.mark = .str id
  /-- If the next step changes it, it becomes a greater integer, and only ids that are greater
  integers are still remembered. -/
  pruned : ∀ n, Step settings m' n → n.mark ≠ m'.mark → IsAbove n.mark m'.mark ∧
    ∀ id ∈ n.world.state.replied, IsAbove (.str id) n.mark

theorem Reaches.mark_eq {m : Moment σ} (reaches : Reaches settings s m) :
    m.mark = (s.replayed m.world.history).lastMention :=
  congrArg State.lastMention reaches.grounds.1

/-- A step that changes the mark moves it to a greater integer, and leaves only greater ones
remembered. -/
theorem Reaches.isAbove_of_step (numbered : s.IsNumbered) {m n : Moment σ}
    (reaches : Reaches settings s m) (fetches : FetchesIntegers m.world.history)
    (step : Step settings m n) (changes : n.mark ≠ m.mark) :
    IsAbove n.mark m.mark ∧ ∀ id ∈ n.world.state.replied, IsAbove (.str id) n.mark := by
  have next : Reaches settings s n := reaches.tail step
  obtain ⟨hstate, grounds⟩ := next.grounds
  rcases step.world_eq with heq | ⟨e, heq⟩
  · exact absurd (congrArg (·.state.lastMention) heq) changes
  · have hmark : n.mark = (m.world.after e).state.lastMention := by rw [Moment.mark, heq]
    rw [heq] at hstate grounds
    rcases e.advances_or with ⟨c, id, rfl⟩ | stays
    · rw [hmark, reaches.mark_eq, heq, hstate]
      exact ⟨isAbove_of_advance numbered grounds fetches,
        fun _ hx => isAbove_of_mem_replied numbered grounds fetches hx⟩
    · exact absurd (hmark.trans (stays m.world)) changes

/-- If all ids are integers or missing, then in every run, whatever else the channel gives and
however calls overlap, the mark only goes up. -/
theorem Reaches.mark_rises (numbered : s.IsNumbered) {m m' : Moment σ}
    (reaches : Reaches settings s m) (steps : Relation.ReflTransGen (Step settings) m m')
    (fetches : FetchesIntegers m'.world.history) : m.MarkRises settings s m' := by
  have reaches' : Reaches settings s m' := reaches.trans steps
  obtain ⟨-, grounds⟩ := reaches'.grounds
  have rises : m'.mark = m.mark ∨ IsAbove m'.mark m.mark := by
    obtain ⟨later, hlater⟩ := history_isSuffix_of_steps steps
    rw [reaches.mark_eq, reaches'.mark_eq, ← hlater]
    exact replayed_rises numbered (hlater ▸ grounds) (hlater ▸ fetches)
  exact {
    rises := rises
    stays := by
      intro some none
      rw [none] at rises
      rcases rises with same | above
      · exact some same.symm
      · cases above
    origin := by
      rw [reaches'.mark_eq]
      exact lastMention_replayed grounds
    pruned := fun _ step changes => reaches'.isAbove_of_step numbered fetches step changes }

instance HasIntegerId.decidable : (x : Except Fault Mention) → Decidable (HasIntegerId x)
  | .ok m => inferInstanceAs (Decidable (m.id = [] ∨ m.id.IsInteger))
  | .error _ => .isTrue trivial

instance FetchesIntegers.decidable (h : List (Event σ)) : Decidable (FetchesIntegers h) :=
  inferInstanceAs (Decidable (∀ x ∈ fetched h, HasIntegerId x))

/-- A channel that gives mentions as it likes, whatever mark it is asked from, and does not take the
reply to one of them. -/
def strayChannel : Surroundings Tape where
  mentions h _ :=
    let ids :=
      match (fetched h).length with
      | 0 => ["5", "12", "", "7"]
      | 4 => ["11", "9"]
      | _ => ["8", "3"]
    .ok (ids.map fun id => .ok ⟨id.toList, .str []⟩)
  reply _ m := if m.id = ['5'] then .error (.unreachable []) else .ok ()

/-- A bot that has dealt with one mention. -/
def markedBot : State Tape := .initial ⟨[], 1, 0, 0, {}⟩ (.str ['4']) ⟨[], 0⟩

/-- The mentions are answered, and then again by a call that begins while another one waits. -/
def strayRounds : World Tape :=
  World.callInside ⟨[], 1, 0, 0, {}⟩ strayChannel .answerMentions .answerMentions
    (World.calls ⟨[], 1, 0, 0, {}⟩ strayChannel [.answerMentions] ⟨markedBot, []⟩)

/-- The outer call has asked from the first mark, and comes to mentions that are older than those
that the inner call has dealt with. -/
theorem mark_rises_strayRounds :
    markNumber strayRounds.state.lastMention = 11 ∧
      strayRounds.state.replied = [['1', '2']] ∧
      markedBot.IsNumbered ∧ FetchesIntegers strayRounds.history ∧
      ∃ waiting, (Moment.start markedBot).MarkRises ⟨[], 1, 0, 0, {}⟩ markedBot
        ⟨strayRounds, none, waiting⟩ := by
  have numbered : markedBot.IsNumbered := ⟨.inr ⟨['4'], rfl, by decide⟩, nofun⟩
  have fetches : FetchesIntegers strayRounds.history := by decide +kernel
  obtain ⟨waiting, reaches⟩ :
      ∃ waiting, Reaches ⟨[], 1, 0, 0, {}⟩ markedBot ⟨strayRounds, none, waiting⟩ := by
    obtain ⟨_, first⟩ := reaches_calls (.start _) strayChannel [.answerMentions] .refl
    exact reaches_callInside ((World.IsIdle.start _).calls _ _ _) strayChannel .answerMentions
      .answerMentions first
  refine ⟨by decide +kernel, by decide +kernel, numbered, fetches, waiting, ?_⟩
  exact Reaches.mark_rises numbered .refl reaches fetches

end Bot

end Mycelium
