import Mathlib.Data.Set.Defs
import Mycelium.Proofs.Replies

/-!
# No mention is skipped

The channel holds mentions, to which others come, and every fetch gives all that are
newer than the mark (`Event.FetchesAll`).  Then no mention is lost: each one that was
fetched and is not newer than the mark got a reply or failed for good, and one that
failed only for a while is fetched and tried again (`no_mention_is_skipped`).

The mark moves only in a call in which no earlier mention waits.  Such a call has
fetched all mentions that are not dealt with, so those that it has passed by are
(`Ledger.Remains`).
-/

namespace Mycelium.Bot

variable {σ : Type}

/-! ## What becomes of a mention -/

/-- What an event fetches. -/
def Event.fetches : Event σ → List (Except Fault Mention)
  | .answered _ (.mentions _) (.ok ms) => ms
  | _ => []

/-- What was fetched in a history. -/
def fetched (h : List (Event σ)) : List (Except Fault Mention) := h.flatMap Event.fetches

variable {h earlier : List (Event σ)} {e : Event σ} {c : Nat} {m : Mention}

theorem fetched_filter (h : List (Event σ)) :
    fetched (h.filter Event.isOfMentions) = fetched h := by
  induction h with
  | nil => rfl
  | cons e h ih =>
      by_cases hmentions : e.isOfMentions = true
      · rw [List.filter_cons_of_pos hmentions]
        exact congrArg (e.fetches ++ ·) ih
      · have hnone : e.fetches = [] := by
          fun_cases Event.fetches e with
          | case1 => exact absurd rfl hmentions
          | case2 => rfl
        rw [List.filter_cons_of_neg hmentions, ih]
        exact (congrArg (· ++ fetched h) hnone).symm

/-- A mention got a reply. -/
def IsReplied (m : Mention) (h : List (Event σ)) : Prop := ∃ c, ⟨c, m, .ok ()⟩ ∈ attempts h

/-- A reply to a mention failed for good. -/
def IsRefused (m : Mention) (h : List (Event σ)) : Prop :=
  ∃ c f, ⟨c, m, .error f⟩ ∈ attempts h ∧ f.isTransient = false

/-- A mention failed for good because it cannot be read, and the mark has moved up to it. -/
def IsPassedOver (m : Mention) (h : List (Event σ)) : Prop :=
  (∃ f, Content.plainText m.content = .error f) ∧ ∃ c, .changed c (.advance m.id) ∈ h

/-- A mention got a reply, or failed for good. -/
def IsDealtWith (m : Mention) (h : List (Event σ)) : Prop :=
  IsReplied m h ∨ IsRefused m h ∨ IsPassedOver m h

/-- All attempts to answer a mention, at least one, failed only for a while. -/
def IsPending (m : Mention) (h : List (Event σ)) : Prop :=
  (∃ a ∈ attempts h, a.mention = m) ∧
    ∀ a ∈ attempts h, a.mention = m → ∃ f, a.outcome = .error f ∧ f.isTransient = true

theorem IsReplied.cons (replied : IsReplied m h) (e : Event σ) : IsReplied m (e :: h) := by
  obtain ⟨c, hc⟩ := replied
  exact ⟨c, attempts_subset_cons e h hc⟩

theorem IsDealtWith.cons (dealt : IsDealtWith m h) (e : Event σ) : IsDealtWith m (e :: h) := by
  rcases dealt with replied | ⟨c, f, hc, hf⟩ | ⟨unreadable, c, hc⟩
  · exact .inl (replied.cons e)
  · exact .inr (.inl ⟨c, f, attempts_subset_cons e h hc, hf⟩)
  · exact .inr (.inr ⟨unreadable, c, List.mem_cons_of_mem e hc⟩)

theorem IsPending.not_isReplied (pending : IsPending m h) : ¬ IsReplied m h := by
  rintro ⟨c, hc⟩
  obtain ⟨f, hf, -⟩ := pending.2 _ hc rfl
  cases hf

theorem IsPending.not_isRefused (pending : IsPending m h) : ¬ IsRefused m h := by
  rintro ⟨c, f, hc, hf⟩
  obtain ⟨g, hg, htransient⟩ := pending.2 _ hc rfl
  cases hg
  rw [hf] at htransient
  cases htransient

/-! ## What fetches give -/

/-- Mentions that become only more.  Their ids are numbers, and each of them has its
own. -/
structure Grows (posted : List (Event σ) → Set Mention) : Prop where
  /-- None is taken away. -/
  subset_cons : ∀ h e, posted h ⊆ posted (e :: h)
  /-- The ids are numbers. -/
  isNumeral : ∀ h, ∀ m ∈ posted h, m.id.IsNumeral
  /-- Each mention has its own id. -/
  eq_of_id_eq : ∀ h, ∀ m ∈ posted h, ∀ n ∈ posted h, m.id = n.id → m = n

/-- Every fetch that does not fail gives all mentions newer than the mark, in ascending
order. -/
def Event.FetchesAll (posted : List (Event σ) → Set Mention) (h : List (Event σ)) :
    Event σ → Prop
  | .answered _ (.mentions since) (.ok ms) => ∃ xs : List Mention, ms = xs.map .ok ∧
      xs.Pairwise (fun m n => m.number < n.number) ∧
      ∀ m, m ∈ xs ↔ m ∈ posted h ∧ markNumber since < m.number
  | _ => True

/-- Every fetch that does not fail gives all mentions newer than the mark that were
fetched before. -/
def Event.Refetches (h : List (Event σ)) : Event σ → Prop
  | .answered _ (.mentions since) (.ok ms) => ∃ xs : List Mention, ms = xs.map .ok ∧
      Ascends since xs ∧
      (∀ m, .ok m ∈ fetched h → markNumber since < m.number → m ∈ xs) ∧
      ∀ m ∈ xs, ∀ n, .ok n ∈ fetched h → m.id = n.id → m = n
  | _ => True

section Grows

variable {posted : List (Event σ) → Set Mention} (grows : Grows posted)
include grows

theorem Grows.mem_of_fetched (obeys : Obeys (Event.FetchesAll posted) h)
    (hm : .ok m ∈ fetched h) : m ∈ posted h := by
  induction h with
  | nil => exact absurd hm List.not_mem_nil
  | cons e h ih =>
      refine grows.subset_cons h e ?_
      rcases List.mem_append.1 hm with hm | hm
      · revert hm
        fun_cases Event.fetches e with
        | case1 c since ms =>
            intro hm
            obtain ⟨xs, rfl, -, hall⟩ := obeys.1
            obtain ⟨n, hn, heq⟩ := List.mem_map.1 hm
            cases heq
            exact ((hall m).1 hn).1
        | case2 => exact fun hm => absurd hm List.not_mem_nil
      · exact ih obeys.2 hm

theorem Grows.refetches (obeys : Obeys (Event.FetchesAll posted) h) :
    Obeys Event.Refetches h := by
  induction h with
  | nil => trivial
  | cons e h ih =>
      refine ⟨?_, ih obeys.2⟩
      fun_cases Event.Refetches h e with
      | case1 c since ms =>
          obtain ⟨xs, rfl, ascending, hall⟩ := obeys.1
          refine ⟨xs, rfl, ⟨fun m hm => ?_, ascending⟩, fun m hm hlt => ?_, fun m hm n hn heq => ?_⟩
          · exact ⟨grows.isNumeral h m ((hall m).1 hm).1, ((hall m).1 hm).2⟩
          · exact (hall m).2 ⟨grows.mem_of_fetched obeys.2 hm, hlt⟩
          · exact grows.eq_of_id_eq h m ((hall m).1 hm).1 n (grows.mem_of_fetched obeys.2 hn) heq
      | case2 => trivial

end Grows

/-! ## What a call owes -/

/-- A fetch gives every mention that is pending. -/
def Event.BringsBack (h : List (Event σ)) : Event σ → Prop
  | .answered _ (.mentions _) (.ok ms) => ∀ m, IsPending m h → .ok m ∈ ms
  | _ => True

/-- A call has fetched the mentions while one was pending, and has not tried that one
since. -/
def Owes (c : Nat) (m : Mention) : List (Event σ) → Prop
  | [] => False
  | .answered d (.mentions _) (.ok _) :: h => (d = c ∧ IsPending m h) ∨ Owes c m h
  | .answered d (.reply _ n) _ :: h => Owes c m h ∧ ¬ (d = c ∧ n = m)
  | _ :: h => Owes c m h

/-- Only a fetch of the call itself makes it owe something. -/
theorem Owes.of_cons (owes : Owes c m (e :: h)) (other : e.call ≠ c) : Owes c m h := by
  cases e with
  | answered d q r =>
      cases q with
      | mentions since =>
          cases r with
          | ok ms => exact Or.resolve_left owes fun hd => other hd.1
          | error f => exact owes
      | reply text n => exact And.left owes
      | _ => exact owes
  | _ => exact owes

theorem not_owes_of_new (new : ∀ e ∈ h, e.call ≠ c) : ¬ Owes c m h := by
  induction h with
  | nil => exact id
  | cons e h ih =>
      intro owes
      exact ih (fun d hd => new d (List.mem_cons_of_mem e hd))
        (owes.of_cons (new e List.mem_cons_self))

/-- A call that fetched the mentions while one was pending owes it, unless it has tried
it since. -/
theorem owes_of_split {later : List (Event σ)} {since : Json} {ms : List (Except Fault Mention)}
    (pending : IsPending m earlier) (untried : ∀ a ∈ attempts later, a.call = c → a.mention ≠ m) :
    Owes c m (later ++ .answered c (.mentions since) (.ok ms) :: earlier) := by
  induction later with
  | nil => exact .inl ⟨rfl, pending⟩
  | cons e later ih =>
      have howes := ih fun a ha => untried a (attempts_subset_cons e later ha)
      cases e with
      | answered d q r =>
          cases q with
          | mentions since =>
              cases r with
              | ok ms => exact .inr howes
              | error f => exact howes
          | reply text n => exact ⟨howes, fun hd => untried ⟨d, n, r⟩ List.mem_cons_self hd.1 hd.2⟩
          | _ => exact howes
      | _ => exact howes

/-! ## Nothing is lost -/

namespace Ledger

/-- A ledger that loses no mention. -/
structure LosesNone (l : Ledger σ) : Prop where
  /-- The mark is none or a number. -/
  mark : IsMark l.mark
  /-- The ids of what was fetched are numbers. -/
  numeral : ∀ m, .ok m ∈ fetched l.events → m.id.IsNumeral
  /-- Each mention that was fetched has its own id. -/
  own : ∀ m n, .ok m ∈ fetched l.events → .ok n ∈ fetched l.events → m.id = n.id → m = n
  /-- Only what was fetched and can be read is answered. -/
  tried : ∀ a ∈ attempts l.events, .ok a.mention ∈ fetched l.events ∧
    ∃ text, Content.plainText a.mention.content = .ok text
  /-- Only ids of mentions that got a reply are remembered. -/
  remembered : ∀ id ∈ l.replied, ∃ m, m.id = id ∧ IsReplied m l.events
  /-- What is not newer than the mark is dealt with. -/
  done : ∀ m, .ok m ∈ fetched l.events → m.number ≤ markNumber l.mark → IsDealtWith m l.events
  /-- What is pending is fetched again. -/
  back : Obeys Event.BringsBack l.events

/-- What holds in a call before it comes to the rest of its mentions. -/
structure Remains (c : Nat) (held : Bool) (ms : List Mention) (l : Ledger σ) : Prop where
  /-- The rest is newer than the mark. -/
  ascends : Ascends l.mark ms
  /-- The rest was fetched. -/
  fetched : ∀ m ∈ ms, .ok m ∈ fetched l.events
  /-- Unless the mark is held, all else is dealt with. -/
  rest : held = false → ∀ m, .ok m ∈ Bot.fetched l.events → IsDealtWith m l.events ∨ m ∈ ms
  /-- What the call owes is still to come. -/
  owed : ∀ m, Owes c m l.events → m ∈ ms ∧ IsPending m l.events

variable {l : Ledger σ} {ms : List Mention} {held : Bool}

/-- A mention of which the text cannot be read, or that got a reply, is not pending. -/
theorem LosesNone.not_isDealtWith (loses : l.LosesNone) (pending : IsPending m l.events) :
    ¬ IsDealtWith m l.events := by
  rintro (replied | refused | ⟨⟨f, hf⟩, -⟩)
  · exact pending.not_isReplied replied
  · exact pending.not_isRefused refused
  · obtain ⟨a, ha, rfl⟩ := pending.1
    obtain ⟨text, htext⟩ := (loses.tried a ha).2
    rw [hf] at htext
    cases htext

theorem LosesNone.fetched_of_isPending (loses : l.LosesNone) (pending : IsPending m l.events) :
    .ok m ∈ Bot.fetched l.events := by
  obtain ⟨a, ha, rfl⟩ := pending.1
  exact (loses.tried a ha).1

/-- The rest of the rest. -/
theorem Remains.tail (remains : l.Remains c held (m :: ms)) (free : ¬ Owes c m l.events) :
    l.Remains c true ms where
  ascends := remains.ascends.tail
  fetched n hn := remains.fetched n (List.mem_cons_of_mem m hn)
  rest h := nomatch h
  owed n owes := by
    obtain ⟨hmem, pending⟩ := remains.owed n owes
    rcases List.mem_cons.1 hmem with rfl | hmem
    · exact absurd owes free
    · exact ⟨hmem, pending⟩

end Ledger

/-- No mention is lost. -/
def losesNone : Bookkeeping σ where
  law := Event.Refetches
  always := Ledger.LosesNone
  settled _ := True
  loop := Ledger.Remains
  finished c l := ∀ m, ¬ Owes c m l.events

variable {l : Ledger σ} {ms : List Mention} {held : Bool}

/-- The call passes on to the next mention once it owes this one no attempt, and has
dealt with it unless the mark is held. -/
theorem passes_losesNone (loses : l.LosesNone) (remains : l.Remains c held (m :: ms))
    (free : ¬ Owes c m l.events)
    (dealt : IsDealtWith m (.changed c (.advance m.id) :: l.events)) :
    losesNone.Passes c held m ms l := by
  cases held with
  | true => exact remains.tail free
  | false =>
      intro _
      -- nothing waits, so all that was fetched is dealt with or still to come
      have hrest : ∀ n, .ok n ∈ fetched l.events →
          IsDealtWith n (.changed c (.advance m.id) :: l.events) ∨ n ∈ ms := by
        intro n hn
        rcases remains.rest rfl n hn with hdealt | hmem
        · exact .inl (hdealt.cons _)
        · rcases List.mem_cons.1 hmem with rfl | hmem
          · exact .inl dealt
          · exact .inr hmem
      have htail := remains.tail free
      refine ⟨?_, ?_⟩
      · exact {
          mark := .inr ⟨m.id, rfl, remains.ascends.head.1⟩
          numeral := loses.numeral
          own := loses.own
          tried := loses.tried
          remembered := fun id hid => loses.remembered id (List.mem_filter.1 hid).1
          done := fun n hn hle => (hrest n hn).resolve_right fun hmem =>
            Nat.not_lt.2 hle (remains.ascends.advance.newer n hmem).2
          back := ⟨trivial, loses.back⟩ }
      · exact {
          ascends := remains.ascends.advance
          fetched := htail.fetched
          rest := fun _ => hrest
          owed := htail.owed }

/-- An attempt to answer the next mention, whatever comes of it. -/
theorem losesNone_attempt (loses : l.LosesNone) (remains : l.Remains c held (m :: ms))
    {text : Text} (readable : Content.plainText m.content = .ok text) (response : Text)
    (r : Except Fault Unit) :
    (l.after (.answered c (.reply response m) r)).LosesNone ∧
      (l.after (.answered c (.reply response m) r)).Remains c held (m :: ms) ∧
      ¬ Owes c m (.answered c (.reply response m) r :: l.events) := by
  refine ⟨?_, ?_, fun owes => owes.2 ⟨rfl, rfl⟩⟩
  · exact {
      mark := loses.mark
      numeral := loses.numeral
      own := loses.own
      tried := by
        intro a ha
        rcases List.mem_cons.1 ha with rfl | ha
        · exact ⟨remains.fetched m List.mem_cons_self, text, readable⟩
        · exact loses.tried a ha
      remembered := fun id hid => (loses.remembered id hid).imp fun n hn => ⟨hn.1, hn.2.cons _⟩
      done := fun n hn hle => (loses.done n hn hle).cons _
      back := ⟨trivial, loses.back⟩ }
  · exact {
      ascends := remains.ascends
      fetched := remains.fetched
      rest := fun hheld n hn => (remains.rest hheld n hn).imp_left fun hdealt => hdealt.cons _
      owed := by
        rintro n ⟨owes, hne⟩
        obtain ⟨hmem, tried, transient⟩ := remains.owed n owes
        refine ⟨hmem, ?_, fun a ha hn => ?_⟩
        · exact tried.imp fun a ha => ⟨attempts_subset_cons _ _ ha.1, ha.2⟩
        · rcases List.mem_cons.1 ha with rfl | ha
          · exact absurd ⟨rfl, hn⟩ hne
          · exact transient a ha hn }

theorem leads_fetched (loses : l.LosesNone) (new : ∀ e ∈ l.events, e.call ≠ c)
    {ms : List (Except Fault Mention)} :
    losesNone.Leads l (.answered c (.mentions l.mark) (.ok ms)) fun l =>
      ∃ xs : List Mention, ms = xs.map .ok ∧ l.Remains c false xs := by
  rintro ⟨⟨xs, rfl, ascends, hall, hown⟩, -⟩
  have hmem : ∀ n, .ok n ∈ xs.map .ok ++ fetched l.events → n ∈ xs ∨ .ok n ∈ fetched l.events := by
    intro n hn
    rcases List.mem_append.1 hn with hn | hn
    · obtain ⟨n', hn', heq⟩ := List.mem_map.1 hn
      cases heq
      exact .inl hn'
    · exact .inr hn
  -- what is pending is not dealt with, so it is newer than the mark
  have hback : ∀ n, IsPending n l.events → n ∈ xs := by
    intro n pending
    have hn := loses.fetched_of_isPending pending
    refine hall n hn (Nat.lt_of_not_le fun hle => ?_)
    exact loses.not_isDealtWith pending (loses.done n hn hle)
  refine ⟨?_, xs, rfl, ?_⟩
  · exact {
      mark := loses.mark
      numeral := fun n hn => (hmem n hn).elim (fun hn => (ascends.newer n hn).1) (loses.numeral n)
      own := by
        intro n n' hn hn' heq
        rcases hmem n hn with hn | hn
        · rcases hmem n' hn' with hn' | hn'
          · exact ascends.eq_of_id_eq hn hn' heq
          · exact hown n hn n' hn' heq
        · rcases hmem n' hn' with hn' | hn'
          · exact (hown n' hn' n hn heq.symm).symm
          · exact loses.own n n' hn hn' heq
      tried := fun a ha => ⟨List.mem_append_right _ (loses.tried a ha).1, (loses.tried a ha).2⟩
      remembered := loses.remembered
      done := by
        intro n hn hle
        rcases hmem n hn with hn | hn
        · exact absurd (ascends.newer n hn).2 (Nat.not_lt.2 hle)
        · exact (loses.done n hn hle).cons _
      back := ⟨fun n pending => List.mem_map_of_mem (hback n pending), loses.back⟩ }
  · exact {
      ascends := ascends
      fetched := fun n hn => List.mem_append_left _ (List.mem_map_of_mem hn)
      rest := by
        intro _ n hn
        rcases hmem n hn with hn | hn
        · exact .inr hn
        · by_cases hle : n.number ≤ markNumber l.mark
          · exact .inl ((loses.done n hn hle).cons _)
          · exact .inr (hall n hn (Nat.lt_of_not_le hle))
      owed := by
        rintro n (⟨-, pending⟩ | owes)
        · exact ⟨hback n pending, pending⟩
        · exact absurd owes (not_owes_of_new new) }

theorem leads_unfetched (loses : l.LosesNone) (new : ∀ e ∈ l.events, e.call ≠ c) {f : Fault} :
    losesNone.Leads l (.answered c (.mentions l.mark) (.error f)) fun l =>
      True ∧ ∀ m, ¬ Owes c m l.events := by
  refine fun _ => ⟨?_, trivial, fun m owes => not_owes_of_new (h := l.events) new owes⟩
  exact {
    mark := loses.mark
    numeral := loses.numeral
    own := loses.own
    tried := loses.tried
    remembered := loses.remembered
    done := fun n hn hle => (loses.done n hn hle).cons _
    back := ⟨trivial, loses.back⟩ }

theorem leads_remember (loses : l.LosesNone) (remains : l.Remains c true (m :: ms))
    (free : ¬ Owes c m l.events) (replied : IsReplied m l.events) :
    losesNone.Leads l (.changed c (.remember m.id)) (Ledger.Remains c true ms) := by
  intro _
  have htail := remains.tail free
  refine ⟨?_, htail.ascends, htail.fetched, nofun, htail.owed⟩
  exact {
    mark := loses.mark
    numeral := loses.numeral
    own := loses.own
    tried := loses.tried
    remembered := by
      intro id hid
      rcases (Ledger.mem_after_remember l c).1 hid with hid | rfl
      · exact loses.remembered id hid
      · exact ⟨m, rfl, replied⟩
    done := fun n hn hle => (loses.done n hn hle).cons _
    back := ⟨trivial, loses.back⟩ }

/-- A mention that is passed over because its id is remembered got a reply. -/
theorem isReplied_of_mem_replied (loses : l.LosesNone) (remains : l.Remains c held (m :: ms))
    (seen : m.id ∈ l.replied) : IsReplied m l.events := by
  obtain ⟨n, hid, replied⟩ := loses.remembered _ seen
  obtain ⟨d, hd⟩ := replied
  have hn := (loses.tried _ hd).1
  obtain rfl := loses.own n m hn (remains.fetched m List.mem_cons_self) hid
  exact ⟨d, hd⟩

theorem isSound_losesNone : (losesNone : Bookkeeping σ).IsSound where
  fetched loses _ new := leads_fetched loses new
  unfetched loses _ new := leads_unfetched loses new
  settled_of_loop _ := trivial
  newer loses remains := remains.ascends.isNewer loses.mark
  skipped loses remains seen := by
    have replied := isReplied_of_mem_replied loses remains seen
    refine passes_losesNone loses remains (fun owes => ?_) (.inl (replied.cons _))
    exact loses.not_isDealtWith (remains.owed _ owes).2 (.inl replied)
  unreadable loses remains new hf := by
    refine passes_losesNone loses remains (fun owes => ?_)
      (.inr (.inr ⟨⟨_, hf⟩, _, List.mem_cons_self⟩))
    obtain ⟨a, ha, rfl⟩ := (remains.owed _ owes).2.1
    obtain ⟨text, htext⟩ := (loses.tried a ha).2
    rw [hf] at htext
    cases htext
  answered loses remains new readable _ := by
    obtain ⟨loses', remains', free⟩ := losesNone_attempt loses remains readable _ (.ok ())
    exact ⟨loses', passes_losesNone loses' remains' free (.inl ⟨_, List.mem_cons_self⟩)⟩
  answered_ahead loses remains new readable _ := by
    obtain ⟨loses', remains', free⟩ := losesNone_attempt loses remains readable _ (.ok ())
    exact ⟨loses', leads_remember loses' remains' free ⟨_, List.mem_cons_self⟩⟩
  postponed loses remains _ readable _ _ := by
    obtain ⟨loses', remains', free⟩ := losesNone_attempt loses remains readable _ (.error _)
    exact ⟨loses', remains'.tail free⟩
  refused loses remains _ readable hf _ := by
    obtain ⟨loses', remains', free⟩ := losesNone_attempt loses remains readable _ (.error _)
    exact ⟨loses', passes_losesNone loses' remains' free
      (.inr (.inl ⟨_, _, List.mem_cons_self, hf⟩))⟩
  finish _ remains m owes := List.not_mem_nil (remains.owed m owes).1
  finished_after free other m owes := free m (owes.of_cons other)
  finished_of_new new m := not_owes_of_new new

theorem Ledger.LosesNone.start {mark : Json} (unmarked : mark = .null) :
    LosesNone (σ := σ) ⟨mark, [], []⟩ where
  mark := .inl unmarked
  numeral _ hm := absurd hm List.not_mem_nil
  own _ _ hm := absurd hm List.not_mem_nil
  tried _ ha := absurd ha List.not_mem_nil
  remembered _ hid := absurd hid List.not_mem_nil
  done _ hm := absurd hm List.not_mem_nil
  back := trivial

theorem IsDealtWith.of_filter (dealt : IsDealtWith m (h.filter Event.isOfMentions)) :
    IsDealtWith m h := by
  rw [IsDealtWith, IsReplied, IsRefused, attempts_filter] at dealt
  exact dealt.imp_right fun failed => failed.imp_right fun passed =>
    ⟨passed.1, passed.2.imp fun _ hc => (List.mem_filter.1 hc).1⟩

/-- Over every run, what was fetched and is not newer than the mark got a reply or failed
for good, and what failed only for a while is fetched by every later fetch and tried again
in the same call. -/
theorem no_mention_is_skipped {settings : Settings} {s : State σ}
    (unmarked : s.lastMention = .null) (fresh : s.replied = [])
    {posted : List (Event σ) → Set Mention} (grows : Grows posted) {m : Moment σ}
    (reaches : Reaches settings s m) (alone : Obeys Event.StartsAlone m.world.history)
    (fetches : Obeys (Event.FetchesAll posted) m.world.history) :
    (∀ x, .ok x ∈ fetched m.world.history → x.number ≤ markNumber m.world.state.lastMention →
      IsDealtWith x m.world.history) ∧
    ∀ later c since ms earlier,
      m.world.history = later ++ .answered c (.mentions since) (.ok ms) :: earlier →
      ∀ x, IsPending x earlier → .ok x ∈ ms ∧
        ∀ r, .ended c r ∈ later → ∃ a ∈ attempts later, a.call = c ∧ a.mention = x := by
  have start : Ledger.LosesNone (σ := σ) ⟨s.lastMention, s.replied, []⟩ := by
    rw [fresh]
    exact .start unmarked
  have law : Obeys Event.Refetches m.world.ledger.events := by
    refine (grows.refetches fetches).ofMentions fun h e he => ?_
    rw [Event.Refetches.eq_def, fetched_filter, ← Event.Refetches.eq_def]
    exact he
  obtain ⟨loses, finished⟩ := isSound_losesNone.reaches start trivial reaches alone law
  refine ⟨fun x hx hle => .of_filter (loses.done x ?_ hle), ?_⟩
  · rw [World.ledger, fetched_filter]
    exact hx
  · intro later c since ms earlier heq x pending
    have hevents : m.world.ledger.events = later.filter Event.isOfMentions ++
        .answered c (.mentions since) (.ok ms) :: earlier.filter Event.isOfMentions := by
      rw [World.ledger, heq, List.filter_append, List.filter_cons_of_pos rfl]
    have hpending : IsPending x (earlier.filter Event.isOfMentions) := by
      rw [IsPending, attempts_filter]
      exact pending
    refine ⟨?_, fun r hr => ?_⟩
    · have hback := loses.back
      rw [hevents] at hback
      exact hback.at_split x hpending
    · -- a call that has ended owes nothing, so it has tried the mention
      by_contra hnone
      have hended : .ended c r ∈ m.world.history := by
        rw [heq]
        exact List.mem_append_left _ hr
      refine finished c r hended x ?_
      rw [hevents]
      refine owes_of_split hpending fun a ha hc hx => hnone ⟨a, ?_, hc, hx⟩
      rwa [attempts_filter] at ha

theorem Ascends.grows {ms : List Mention} (ascends : Ascends .null ms) :
    Grows (σ := σ) fun _ => {m | m ∈ ms} where
  subset_cons _ _ _ hm := hm
  isNumeral _ m hm := (ascends.newer m hm).1
  eq_of_id_eq _ _ hm _ hn heq := ascends.eq_of_id_eq hm hn heq

theorem Surroundings.obey_fetchesAll [RandomSource σ] {ms : List Mention}
    (ascends : Ascends .null ms) (reply : List (Event σ) → Mention → Except Fault Unit) :
    (Surroundings.ofMentions ms reply).Obey (Event.FetchesAll fun _ => {m | m ∈ ms}) where
  answered w c q := by
    cases q with
    | mentions since =>
        refine ⟨_, rfl, (ascends.filter since).ascending, fun m => ?_⟩
        rw [List.mem_filter, decide_eq_true_iff]
        exact Iff.rfl
    | _ => trivial
  changed _ _ _ := trivial
  ended _ _ _ := trivial

theorem fetchesAll_twoRounds :
    Obeys (Event.FetchesAll fun _ => {m | m ∈ twoMentions}) twoRounds.history :=
  World.obeys_calls (Surroundings.obey_fetchesAll ascends_twoMentions _)
    (fun _ _ _ => trivial) _ (.start _) trivial

/-- The first mention is tried in both rounds, the second one only in the first. -/
theorem no_mention_is_skipped_twoRounds :
    (attempts twoRounds.history).map (fun a => (a.call, a.mention.id)) =
        [(7, ['1']), (0, ['2']), (0, ['1'])] ∧
      markNumber twoRounds.state.lastMention = 2 ∧
      (∀ x, .ok x ∈ fetched twoRounds.history →
        x.number ≤ markNumber twoRounds.state.lastMention → IsDealtWith x twoRounds.history) ∧
      ∀ later c since ms earlier,
        twoRounds.history = later ++ .answered c (.mentions since) (.ok ms) :: earlier →
        ∀ x, IsPending x earlier → .ok x ∈ ms ∧
          ∀ r, .ended c r ∈ later → ∃ a ∈ attempts later, a.call = c ∧ a.mention = x := by
  obtain ⟨waiting, reaches⟩ := reaches_twoRounds
  refine ⟨by decide, by decide, ?_⟩
  exact no_mention_is_skipped rfl rfl ascends_twoMentions.grows reaches startsAlone_twoRounds
    fetchesAll_twoRounds

end Mycelium.Bot
