import Mycelium.Proofs.Replies

/-!
# What becomes of replies that fail for good

A reply that failed for good is not tried again if its call has not to try an earlier mention
again: then the mark moves up to the mention, and nothing that is not newer than the mark is
fetched again.

If an earlier reply of the call failed for a while, the mark is held.  Of the mentions behind it
the bot remembers those that it has answered, and not those that failed for good.  So these are
in front of the mark at the next fetch, and a call that fetches one of them tries it again
(`Reaches.settlesRefusals`).
-/

namespace Mycelium.Bot

variable {σ : Type} {c d : Nat} {e : Event σ} {h later earlier : List (Event σ)} {id : Text}
  {x : Mention}

/-! ## Failures -/

/-- A reply of the call failed for a while, so the call holds the mark. -/
def HoldsMark (c : Nat) (h : List (Event σ)) : Prop :=
  ∃ a ∈ attempts h, a.call = c ∧ ∃ f, a.outcome = .error f ∧ f.isTransient = true

/-- The bot is done with an id: a reply to it failed for good in a call that does not hold the
mark, or the mark moves up to it. -/
def Event.GivesUp (h : List (Event σ)) (id : Text) : Event σ → Prop
  | .answered c (.reply _ x) (.error f) => x.id = id ∧ f.isTransient = false ∧ ¬ HoldsMark c h
  | .changed _ (.advance id') => id' = id
  | _ => False

/-- A reply to a mention failed for good in a call that holds the mark. -/
def Event.LeavesAhead (h : List (Event σ)) (x : Mention) : Event σ → Prop
  | .answered c (.reply _ n) (.error f) => n = x ∧ f.isTransient = false ∧ HoldsMark c h
  | _ => False

/-- The bot is done with an id. -/
def IsGivenUp (id : Text) : List (Event σ) → Prop
  | [] => False
  | e :: h => e.GivesUp h id ∨ IsGivenUp id h

/-- Whether an event gives the mentions that a call has asked for. -/
def Event.isFetch : Event σ → Bool
  | .answered _ (.mentions _) (.ok _) => true
  | _ => false

/-- Since the last fetch a reply to a mention failed for good in a call that holds the mark. -/
def IsLeftAhead (x : Mention) : List (Event σ) → Prop
  | [] => False
  | e :: h => e.LeavesAhead h x ∨ (e.isFetch = false ∧ IsLeftAhead x h)

/-- No id is tried with which the bot is done, and what was left ahead of the mark is newer than
the mark of the next fetch. -/
def Event.Recalls (h : List (Event σ)) : Event σ → Prop
  | .answered _ (.reply _ n) _ => ¬ IsGivenUp n.id h
  | .answered _ (.mentions since) _ => ∀ x, IsLeftAhead x h → markNumber since < x.number
  | _ => True

theorem IsGivenUp.of_split (gives : e.GivesUp earlier id) :
    IsGivenUp id (later ++ e :: earlier) := by
  induction later with
  | nil => exact .inl gives
  | cons d later ih => exact .inr ih

theorem IsLeftAhead.of_split (leaves : e.LeavesAhead earlier x)
    (unfetched : ∀ d ∈ later, d.isFetch = false) : IsLeftAhead x (later ++ e :: earlier) := by
  induction later with
  | nil => exact .inl leaves
  | cons d later ih =>
      exact .inr ⟨unfetched d List.mem_cons_self,
        ih fun d hd => unfetched d (List.mem_cons_of_mem _ hd)⟩

theorem exists_of_mem_attempts {a : Attempt} (ha : a ∈ attempts h) :
    ∃ text, .answered a.call (.reply text a.mention) a.outcome ∈ h := by
  obtain ⟨e, he, hattempt⟩ := List.mem_filterMap.1 ha
  revert hattempt
  fun_cases Event.attempt? e with
  | case1 c text n r =>
      rintro ⟨⟩
      exact ⟨text, he⟩
  | case2 => rintro ⟨⟩

theorem not_holdsMark_of_new (new : ∀ e ∈ h, e.call ≠ c) : ¬ HoldsMark c h := by
  rintro ⟨a, ha, hcall, -⟩
  obtain ⟨text, hmem⟩ := exists_of_mem_attempts ha
  exact new _ hmem hcall

/-- An id that was given up is not tried later. -/
theorem Event.GivesUp.id_ne (gives : e.GivesUp earlier id)
    (recalls : Obeys Event.Recalls (later ++ e :: earlier)) :
    ∀ a ∈ attempts later, a.mention.id ≠ id := by
  rintro a ha rfl
  obtain ⟨text, hmem⟩ := exists_of_mem_attempts ha
  obtain ⟨after, before, rfl⟩ := List.append_of_mem hmem
  rw [List.append_assoc] at recalls
  exact recalls.at_split (.of_split gives)

/-! ## What a call has tried -/

/-- Since a call has fetched mentions, it has tried all of them that can be read and had got no
reply, unless they are still to come. -/
structure Tries (c : Nat) (ms : List Mention) (later : List (Event σ))
    (found : List (Except Fault Mention)) (earlier : List (Event σ)) : Prop where
  tried : ∀ n, .ok n ∈ found → (∃ text, Content.plainText n.content = .ok text) →
    (∃ a ∈ attempts later, a.call = c ∧ a.mention = n) ∨ n.id ∈ repliedTo earlier ∨ n ∈ ms
  passed : ∀ a ∈ attempts later, ∀ n ∈ ms, a.mention.number < n.number

namespace Tries

variable {m : Mention} {ms : List Mention} {found : List (Except Fault Mention)}

theorem cons (tries : Tries c ms later found earlier) (untried : e.attempt? = none) :
    Tries c ms (e :: later) found earlier := by
  have hattempts : attempts (e :: later) = attempts later := List.filterMap_cons_none untried
  constructor
  · rw [hattempts]
    exact tries.tried
  · rw [hattempts]
    exact tries.passed

/-- The call passes on, as it cannot read the next mention or this one had got a reply. -/
theorem tail (tries : Tries c (m :: ms) later found earlier)
    (done : (∃ text, Content.plainText m.content = .ok text) → m.id ∈ repliedTo earlier) :
    Tries c ms later found earlier where
  tried n hn readable := by
    rcases tries.tried n hn readable with htried | hreplied | hmem
    · exact .inl htried
    · exact .inr (.inl hreplied)
    · rcases List.mem_cons.1 hmem with rfl | hmem
      · exact .inr (.inl (done readable))
      · exact .inr (.inr hmem)
  passed a ha n hn := tries.passed a ha n (List.mem_cons_of_mem m hn)

/-- The call tries the next mention. -/
theorem attempt (tries : Tries c (m :: ms) later found earlier)
    (ascending : ∀ n ∈ ms, m.number < n.number) (response : Text) (r : Except Fault Unit) :
    Tries c ms (.answered c (.reply response m) r :: later) found earlier where
  tried n hn readable := by
    rcases tries.tried n hn readable with ⟨a, ha, htried⟩ | hreplied | hmem
    · exact .inl ⟨a, attempts_subset_cons _ _ ha, htried⟩
    · exact .inr (.inl hreplied)
    · rcases List.mem_cons.1 hmem with rfl | hmem
      · exact .inl ⟨_, List.mem_cons_self, rfl, rfl⟩
      · exact .inr (.inr hmem)
  passed a ha n hn := by
    rcases List.mem_cons.1 ha with rfl | ha
    · exact ascending n hn
    · exact tries.passed a ha n (List.mem_cons_of_mem m hn)

/-- A mention that is still to come had got its reply before the fetch. -/
theorem replied (tries : Tries c (m :: ms) later found earlier) {e : Event σ}
    (replied : m.id ∈ repliedTo (later ++ e :: earlier)) (unreplied : e.attempt? = none) :
    m.id ∈ repliedTo earlier := by
  have hattempts : attempts (later ++ e :: earlier) = attempts later ++ attempts earlier := by
    rw [attempts, List.filterMap_append, List.filterMap_cons_none unreplied]
    rfl
  rw [repliedTo, hattempts, List.filterMap_append] at replied
  rcases List.mem_append.1 replied with hlater | hearlier
  · obtain ⟨a, ha, hid⟩ := List.mem_filterMap.1 hlater
    have heq : a.mention.id = m.id := by
      revert hid
      fun_cases Attempt.repliedTo? a with
      | case1 => exact Option.some.inj
      | case2 => rintro ⟨⟩
    have hlt : a.mention.number < m.number := tries.passed a ha m List.mem_cons_self
    rw [Mention.number, heq] at hlt
    exact absurd hlt (Nat.lt_irrefl _)
  · exact hearlier

end Tries

namespace Ledger

/-- Something holds of everything that a call has fetched. -/
def SinceFetch (l : Ledger σ) (c : Nat) (P : List (Event σ) → List (Except Fault Mention) →
    List (Event σ) → Prop) : Prop :=
  ∀ later since found earlier,
    l.events = later ++ .answered c (.mentions since) (.ok found) :: earlier → P later found earlier

variable {l : Ledger σ} {P P' : List (Event σ) → List (Except Fault Mention) →
  List (Event σ) → Prop}

theorem SinceFetch.after (holds : l.SinceFetch c P)
    (other : ∀ since found, e ≠ .answered c (.mentions since) (.ok found))
    (imp : ∀ later since found earlier,
      l.events = later ++ .answered c (.mentions since) (.ok found) :: earlier →
        P later found earlier → P' (e :: later) found earlier) :
    (l.after e).SinceFetch c P' := by
  intro later since found earlier heq
  cases later with
  | nil => exact absurd (List.cons.inj heq).1 (other since found)
  | cons d later =>
      obtain ⟨rfl, hevents⟩ := List.cons.inj heq
      exact imp later since found earlier hevents (holds later since found earlier hevents)

theorem sinceFetch_of_new (new : ∀ e ∈ l.events, e.call ≠ c) : l.SinceFetch c P := by
  intro later since found earlier heq
  refine absurd rfl (new (.answered c (.mentions since) (.ok found)) ?_)
  rw [heq]
  exact List.mem_append_right _ List.mem_cons_self

theorem sinceFetch_fetched (new : ∀ e ∈ l.events, e.call ≠ c) (since : Json)
    {found : List (Except Fault Mention)} (holds : P [] found l.events) :
    (l.after (.answered c (.mentions since) (.ok found))).SinceFetch c P := by
  intro later since' found' earlier heq
  cases later with
  | nil =>
      cases heq
      exact holds
  | cons d later =>
      obtain ⟨rfl, hevents⟩ := List.cons.inj heq
      have hnone : l.SinceFetch c fun _ _ _ => False := sinceFetch_of_new new
      exact (hnone later since' found' earlier hevents).elim

/-! ## Bookkeeping -/

/-- A ledger that recalls which replies failed for good. -/
structure Recalls (l : Ledger σ) : Prop where
  /-- The mark is none or a number. -/
  mark : IsMark l.mark
  /-- Only ids of mentions that got a reply are remembered. -/
  remembered : ∀ id ∈ l.replied, id ∈ repliedTo l.events
  /-- What was given up is not tried, and what was left ahead is newer than the next mark. -/
  recalls : Obeys Event.Recalls l.events

/-- How the failures for good stand to the mark. -/
structure IsSplit (l : Ledger σ) : Prop where
  /-- What was given up is not newer than the mark. -/
  closed : ∀ id, IsGivenUp id l.events → id.IsNumeral ∧ Number.ofDigits id ≤ markNumber l.mark
  /-- What was left ahead is newer than the mark. -/
  ahead : ∀ x, IsLeftAhead x l.events → markNumber l.mark < x.number

/-- What holds in a call before it comes to the rest of its mentions. -/
structure ToTry (c : Nat) (held : Bool) (ms : List Mention) (l : Ledger σ) : Prop where
  split : l.IsSplit
  ascends : Ascends l.mark ms
  /-- The mark is held if an earlier reply failed for a while. -/
  holds : held = true ↔ HoldsMark c l.events
  /-- Only a call that holds the mark leaves something ahead. -/
  ahead : ∀ x, IsLeftAhead x l.events → held = true
  tries : l.SinceFetch c (Tries c ms)

/-- What holds once the next mention is dealt with, and the mark has not moved yet. -/
structure Passed (c : Nat) (held : Bool) (m : Mention) (ms : List Mention) (l : Ledger σ) :
    Prop where
  closed : ∀ id, IsGivenUp id l.events → id.IsNumeral ∧
    (Number.ofDigits id ≤ markNumber l.mark ∨ (held = false ∧ id = m.id))
  ahead : ∀ x, IsLeftAhead x l.events → held = true ∧ markNumber l.mark < x.number
  ascends : Ascends l.mark (m :: ms)
  holds : held = true ↔ HoldsMark c l.events
  tries : l.SinceFetch c (Tries c ms)

end Ledger

/-- Replies that failed for good are recalled by the mark. -/
def refusals : Bookkeeping σ where
  law := Event.FetchesNewer
  always := Ledger.Recalls
  settled := Ledger.IsSplit
  loop := Ledger.ToTry
  finished c l := l.SinceFetch c (Tries c [])

variable {l : Ledger σ} {held : Bool} {m : Mention} {ms : List Mention}

theorem passes_refusals (recalls : l.Recalls) (passed : l.Passed c held m ms) :
    refusals.Passes c held m ms l := by
  cases held with
  | true =>
      exact {
        split := {
          closed := fun id hid => (passed.closed id hid).imp_right fun h =>
            h.resolve_right fun h => nomatch h.1
          ahead := fun x hx => (passed.ahead x hx).2 }
        ascends := passed.ascends.tail
        holds := passed.holds
        ahead := fun _ _ => rfl
        tries := passed.tries }
  | false =>
      intro _
      have hunled : ∀ x, ¬ IsLeftAhead x (.changed c (.advance m.id) :: l.events) := by
        rintro x (⟨⟨⟩⟩ | ⟨-, hx⟩)
        exact nomatch (passed.ahead x hx).1
      refine ⟨⟨.inr ⟨m.id, rfl, passed.ascends.head.1⟩, ?_, trivial, recalls.recalls⟩, ?_⟩
      · exact fun id hid => recalls.remembered id (List.mem_filter.1 hid).1
      · exact {
          split := {
            closed := by
              rintro id (rfl | hid)
              · exact ⟨passed.ascends.head.1, Nat.le_refl _⟩
              · obtain ⟨hnumeral, hle⟩ := passed.closed id hid
                refine ⟨hnumeral, ?_⟩
                rcases hle with hle | ⟨-, rfl⟩
                · exact Nat.le_of_lt (hle.trans_lt passed.ascends.head.2)
                · exact Nat.le_refl _
            ahead := fun x hx => absurd hx (hunled x) }
          ascends := passed.ascends.advance
          holds := passed.holds
          ahead := fun x hx => absurd hx (hunled x)
          tries := passed.tries.after nofun fun _ _ _ _ _ tries => tries.cons rfl }

theorem repliedTo_subset_cons (e : Event σ) (h : List (Event σ)) :
    repliedTo h ⊆ repliedTo (e :: h) :=
  List.filterMap_subset _ (attempts_subset_cons e h)

/-- The next mention was not given up, so it may be tried. -/
theorem recalls_attempt (recalls : l.Recalls) (toTry : l.ToTry c held (m :: ms)) (response : Text)
    (r : Except Fault Unit) : (l.after (.answered c (.reply response m) r)).Recalls where
  mark := recalls.mark
  remembered id hid := repliedTo_subset_cons _ _ (recalls.remembered id hid)
  recalls := by
    refine ⟨fun closed => ?_, recalls.recalls⟩
    exact Nat.not_lt.2 (toTry.split.closed _ closed).2 toTry.ascends.head.2

theorem tries_attempt (toTry : l.ToTry c held (m :: ms)) (response : Text)
    (r : Except Fault Unit) :
    (l.after (.answered c (.reply response m) r)).SinceFetch c (Tries c ms) :=
  toTry.tries.after nofun fun _ _ _ _ _ tries =>
    tries.attempt (fun _ hn => List.rel_of_pairwise_cons toTry.ascends.ascending hn) response r

/-- Nothing is known to have failed but what is known so already. -/
theorem passed_of_unfailed (toTry : l.ToTry c held (m :: ms)) {events : List (Event σ)}
    (closed : ∀ id, IsGivenUp id events → IsGivenUp id l.events)
    (ahead : ∀ x, IsLeftAhead x events → IsLeftAhead x l.events)
    (holds : HoldsMark c events ↔ HoldsMark c l.events)
    (tries : Ledger.SinceFetch ⟨l.mark, l.replied, events⟩ c (Tries c ms)) :
    Ledger.Passed c held m ms ⟨l.mark, l.replied, events⟩ where
  closed id hid := (toTry.split.closed id (closed id hid)).imp_right .inl
  ahead x hx := ⟨toTry.ahead x (ahead x hx), toTry.split.ahead x (ahead x hx)⟩
  ascends := toTry.ascends
  holds := toTry.holds.trans holds.symm
  tries := tries

theorem holdsMark_cons_iff {a : Attempt} (attempt : e.attempt? = some a)
    (permanent : ∀ f, a.outcome = .error f → f.isTransient = false) :
    HoldsMark c (e :: h) ↔ HoldsMark c h := by
  have hattempts : attempts (e :: h) = a :: attempts h := List.filterMap_cons_some attempt
  rw [HoldsMark, hattempts]
  constructor
  · rintro ⟨b, hb, hcall, f, hf, transient⟩
    rcases List.mem_cons.1 hb with rfl | hb
    · rw [permanent f hf] at transient
      cases transient
    · exact ⟨b, hb, hcall, f, hf, transient⟩
  · rintro ⟨b, hb, holds⟩
    exact ⟨b, List.mem_cons_of_mem a hb, holds⟩

theorem passed_answered (toTry : l.ToTry c held (m :: ms)) (response : Text) :
    (l.after (.answered c (.reply response m) (.ok ()))).Passed c held m ms :=
  passed_of_unfailed toTry (fun _ hid => hid.resolve_left fun h => h)
    (fun _ hx => (hx.resolve_left fun h => h).2) (holdsMark_cons_iff rfl nofun)
    (tries_attempt toTry response (.ok ()))

theorem passed_refused (toTry : l.ToTry c held (m :: ms)) (response : Text) {f : Fault}
    (permanent : f.isTransient = false) :
    (l.after (.answered c (.reply response m) (.error f))).Passed c held m ms where
  closed := by
    rintro id (⟨rfl, -, unheld⟩ | hid)
    · refine ⟨toTry.ascends.head.1, .inr ⟨?_, rfl⟩⟩
      exact Bool.eq_false_iff.2 (toTry.holds.not.2 unheld)
    · exact (toTry.split.closed id hid).imp_right .inl
  ahead := by
    rintro x (⟨rfl, -, holds⟩ | ⟨-, hx⟩)
    · exact ⟨toTry.holds.2 holds, toTry.ascends.head.2⟩
    · exact ⟨toTry.ahead x hx, toTry.split.ahead x hx⟩
  ascends := toTry.ascends
  holds := toTry.holds.trans
    (holdsMark_cons_iff rfl fun g hg => by cases hg; exact permanent).symm
  tries := tries_attempt toTry response (.error f)

theorem toTry_postponed (toTry : l.ToTry c held (m :: ms)) (response : Text) {f : Fault}
    (transient : f.isTransient = true) :
    (l.after (.answered c (.reply response m) (.error f))).ToTry c true ms where
  split := {
    closed := by
      rintro id (⟨-, permanent, -⟩ | hid)
      · rw [transient] at permanent
        cases permanent
      · exact toTry.split.closed id hid
    ahead := by
      rintro x (⟨-, permanent, -⟩ | ⟨-, hx⟩)
      · rw [transient] at permanent
        cases permanent
      · exact toTry.split.ahead x hx }
  ascends := toTry.ascends.tail
  holds := ⟨fun _ => ⟨_, List.mem_cons_self, rfl, f, rfl, transient⟩, fun _ => rfl⟩
  ahead _ _ := rfl
  tries := tries_attempt toTry response (.error f)

theorem leads_remembered (recalls : l.Recalls) (passed : l.Passed c true m ms)
    (replied : m.id ∈ repliedTo l.events) :
    refusals.Leads l (.changed c (.remember m.id)) (refusals.loop c true ms) := by
  intro _
  refine ⟨⟨recalls.mark, fun id hid => ?_, trivial, recalls.recalls⟩, ?_⟩
  · rcases (Ledger.mem_after_remember l c).1 hid with hid | rfl
    · exact recalls.remembered id hid
    · exact replied
  · exact {
      split := {
        closed := fun id hid => (passed.closed id (hid.resolve_left fun h => h)).imp_right fun h =>
          h.resolve_right fun h => nomatch h.1
        ahead := fun x hx => (passed.ahead x (hx.resolve_left fun h => h).2).2 }
      ascends := passed.ascends.tail
      holds := passed.holds
      ahead := fun _ _ => rfl
      tries := passed.tries.after nofun fun _ _ _ _ _ tries => tries.cons rfl }

theorem leads_fetched_refusals (recalls : l.Recalls) (split : l.IsSplit)
    (new : ∀ e ∈ l.events, e.call ≠ c) {found : List (Except Fault Mention)} :
    refusals.Leads l (.answered c (.mentions l.mark) (.ok found)) fun l =>
      ∃ xs : List Mention, found = xs.map .ok ∧ l.ToTry c false xs := by
  rintro ⟨⟨xs, rfl, ascends⟩, -⟩
  refine ⟨⟨recalls.mark, recalls.remembered, split.ahead, recalls.recalls⟩, xs, rfl, ?_⟩
  -- the fetch starts anew with what is ahead of the mark
  have hnone : ∀ x, ¬ IsLeftAhead x
      (.answered c (.mentions l.mark) (.ok (xs.map .ok)) :: l.events) := by
    rintro x (⟨⟨⟩⟩ | ⟨⟨⟩, -⟩)
  exact {
    split := {
      closed := fun id hid => split.closed id (hid.resolve_left fun h => h)
      ahead := fun x hx => absurd hx (hnone x) }
    ascends := ascends
    holds := ⟨nofun, fun holds => (not_holdsMark_of_new (h := l.events) new holds).elim⟩
    ahead := fun x hx => absurd hx (hnone x)
    tries := Ledger.sinceFetch_fetched new _ {
      tried := fun n hn _ => by
        obtain ⟨n', hn', heq⟩ := List.mem_map.1 hn
        cases heq
        exact .inr (.inr hn')
      passed := fun a ha => absurd ha List.not_mem_nil } }

theorem leads_unfetched_refusals (recalls : l.Recalls) (split : l.IsSplit)
    (new : ∀ e ∈ l.events, e.call ≠ c) {f : Fault} :
    refusals.Leads l (.answered c (.mentions l.mark) (.error f)) fun l =>
      l.IsSplit ∧ l.SinceFetch c (Tries c []) := by
  refine fun _ => ⟨⟨recalls.mark, recalls.remembered, split.ahead, recalls.recalls⟩, ?_, ?_⟩
  · exact {
      closed := fun id hid => split.closed id (hid.resolve_left fun h => h)
      ahead := fun x hx => split.ahead x (hx.resolve_left fun h => h).2 }
  · have hnone : l.SinceFetch c (Tries c []) := Ledger.sinceFetch_of_new new
    exact hnone.after nofun fun _ _ _ _ _ tries => tries.cons rfl

theorem isSound_refusals : (refusals : Bookkeeping σ).IsSound where
  fetched recalls split new := leads_fetched_refusals recalls split new
  unfetched recalls split new := leads_unfetched_refusals recalls split new
  settled_of_loop toTry := toTry.split
  newer recalls toTry := toTry.ascends.isNewer recalls.mark
  skipped recalls toTry seen := by
    refine passes_refusals recalls
      (passed_of_unfailed toTry (fun _ hid => hid) (fun _ hx => hx) Iff.rfl ?_)
    intro later since found earlier heq
    have tries := toTry.tries later since found earlier heq
    exact tries.tail fun _ => tries.replied (heq ▸ recalls.remembered _ seen) rfl
  unreadable recalls toTry _ hf := by
    refine passes_refusals recalls
      (passed_of_unfailed toTry (fun _ hid => hid) (fun _ hx => hx) Iff.rfl ?_)
    intro later since found earlier heq
    refine (toTry.tries later since found earlier heq).tail ?_
    rintro ⟨text, htext⟩
    rw [hf] at htext
    cases htext
  answered recalls toTry _ _ _ :=
    ⟨recalls_attempt recalls toTry _ _,
      passes_refusals (recalls_attempt recalls toTry _ _) (passed_answered toTry _)⟩
  answered_ahead recalls toTry _ _ _ :=
    ⟨recalls_attempt recalls toTry _ _,
      leads_remembered (recalls_attempt recalls toTry _ _) (passed_answered toTry _)
        List.mem_cons_self⟩
  postponed recalls toTry _ _ transient _ :=
    ⟨recalls_attempt recalls toTry _ _, toTry_postponed toTry _ transient⟩
  refused recalls toTry _ _ permanent _ :=
    ⟨recalls_attempt recalls toTry _ _,
      passes_refusals (recalls_attempt recalls toTry _ _) (passed_refused toTry _ permanent)⟩
  finish _ toTry := toTry.tries
  finished_after finished other := by
    refine finished.after ?_ fun later _ found earlier _ tries => ?_
    · rintro since found rfl
      exact other rfl
    · exact {
        tried := fun n hn readable => (tries.tried n hn readable).imp_left fun ⟨a, ha, htried⟩ =>
          ⟨a, attempts_subset_cons _ _ ha, htried⟩
        passed := fun _ _ _ hn => absurd hn List.not_mem_nil }
  finished_of_new new := Ledger.sinceFetch_of_new new

/-! ## Runs -/

/-- What becomes of the mentions of which a reply failed for good. -/
structure Moment.SettlesRefusals (m : Moment σ) : Prop where
  /-- If the call does not hold the mark, or once the mark has moved up to it, an id is not tried
  again. -/
  final : ∀ later e earlier id, m.world.history = later ++ e :: earlier →
    e.GivesUp earlier id → ∀ a ∈ attempts later, a.mention.id ≠ id
  /-- If the call holds the mark, the next fetch is from a mark in front of the mention. -/
  reopened : ∀ later c text x f earlier,
    m.world.history = later ++ .answered c (.reply text x) (.error f) :: earlier →
    f.isTransient = false → HoldsMark c earlier → ∀ after d since r before,
      later = after ++ .answered d (.mentions since) r :: before →
      (∀ e ∈ before, e.isFetch = false) → markNumber since < x.number
  /-- A call that has ended has tried every mention that it has fetched, if it can be read and had
  got no reply. -/
  tried : ∀ later c since found earlier,
    m.world.history = later ++ .answered c (.mentions since) (.ok found) :: earlier →
    (∃ r, .ended c r ∈ later) → ∀ n, .ok n ∈ found →
      (∃ text, Content.plainText n.content = .ok text) → n.id ∉ repliedTo earlier →
        ∃ a ∈ attempts later, a.call = c ∧ a.mention = n

theorem holdsMark_filter {h : List (Event σ)} :
    HoldsMark c (h.filter Event.isOfMentions) ↔ HoldsMark c h := by
  rw [HoldsMark, attempts_filter, HoldsMark]

theorem Event.GivesUp.isOfMentions (gives : e.GivesUp h id) : e.isOfMentions = true := by
  revert gives
  fun_cases Event.GivesUp h id e with
  | case1 => exact fun _ => rfl
  | case2 => exact fun _ => rfl
  | case3 => exact False.elim

theorem Event.GivesUp.filter (gives : e.GivesUp h id) :
    e.GivesUp (h.filter Event.isOfMentions) id := by
  revert gives
  fun_cases Event.GivesUp h id e with
  | case1 =>
      rintro ⟨heq, permanent, unheld⟩
      exact ⟨heq, permanent, holdsMark_filter.not.2 unheld⟩
  | case2 => exact fun heq => heq
  | case3 => exact False.elim

theorem filter_isOfMentions_split (mentions : e.isOfMentions = true) :
    (later ++ e :: earlier).filter Event.isOfMentions =
      later.filter Event.isOfMentions ++ e :: earlier.filter Event.isOfMentions := by
  rw [List.filter_append, List.filter_cons_of_pos mentions]

/-- In every run in which the mentions are not answered by two calls at once, replies that failed
for good are settled. -/
theorem Reaches.settlesRefusals {settings : Settings} {s : State σ}
    (mark : IsMark s.lastMention) (fresh : s.replied = []) {m : Moment σ}
    (reaches : Reaches settings s m) (alone : Obeys Event.StartsAlone m.world.history)
    (fetches : Obeys Event.FetchesNewer m.world.history) : m.SettlesRefusals := by
  have start : Ledger.Recalls (σ := σ) ⟨s.lastMention, s.replied, []⟩ :=
    ⟨mark, by simp [fresh], trivial⟩
  have settled : Ledger.IsSplit (σ := σ) ⟨s.lastMention, s.replied, []⟩ :=
    ⟨fun _ => False.elim, fun _ => False.elim⟩
  have law : Obeys Event.FetchesNewer m.world.ledger.events :=
    fetches.ofMentions fun _ _ he => he
  obtain ⟨recalls, finished⟩ := isSound_refusals.reaches start settled reaches alone law
  have hrecalls : Obeys Event.Recalls (m.world.history.filter Event.isOfMentions) :=
    recalls.recalls
  refine ⟨fun later e earlier id heq gives => ?_, ?_, ?_⟩
  · rw [heq, filter_isOfMentions_split gives.isOfMentions] at hrecalls
    rw [← attempts_filter]
    exact gives.filter.id_ne hrecalls
  · rintro later c text x f earlier heq permanent holds after d since r before rfl unfetched
    rw [heq, List.append_assoc, List.cons_append, filter_isOfMentions_split rfl,
      filter_isOfMentions_split rfl] at hrecalls
    refine hrecalls.at_split x (.of_split ?_ fun e he => unfetched e (List.mem_filter.1 he).1)
    exact ⟨rfl, permanent, holdsMark_filter.2 holds⟩
  · rintro later c since found earlier heq ⟨r, hr⟩ n hn readable unreplied
    have hended : .ended c r ∈ m.world.history := by
      rw [heq]
      exact List.mem_append_left _ hr
    have hevents := congrArg (List.filter Event.isOfMentions) heq
    rw [filter_isOfMentions_split rfl] at hevents
    have tries := finished c r hended _ _ _ _ hevents
    rcases tries.tried n hn readable with htried | hreplied | hmem
    · rwa [attempts_filter] at htried
    · rw [repliedTo, attempts_filter] at hreplied
      exact absurd hreplied unreplied
    · exact absurd hmem List.not_mem_nil

/-- A channel that cannot be reached when the first of two mentions is to be answered, and that
refuses every answer to the second one. -/
def refusingChannel : Surroundings Tape :=
  .ofMentions twoMentions fun _ m =>
    if m.id = ['1'] then .error (.unreachable []) else .error (.failed .value [])

/-- The mentions are answered twice. -/
def refusedRounds : World Tape :=
  freshWorld.calls ⟨[], 1, 0, 0, {}⟩ refusingChannel [.answerMentions, .answerMentions]

theorem reaches_refusedRounds :
    ∃ waiting, Reaches ⟨[], 1, 0, 0, {}⟩ freshWorld.state ⟨refusedRounds, none, waiting⟩ :=
  reaches_calls (.start _) refusingChannel _ .refl

theorem startsAlone_refusedRounds : Obeys Event.StartsAlone refusedRounds.history :=
  World.obeys_startsAlone_calls _ (.start _) trivial

theorem fetchesNewer_refusedRounds : Obeys Event.FetchesNewer refusedRounds.history :=
  World.obeys_calls (Surroundings.obey_fetchesNewer ascends_twoMentions _)
    (fun _ _ _ => trivial) _ (.start _) trivial

theorem settlesRefusals_refusedRounds :
    (attempts refusedRounds.history).map (fun a => (a.call, a.mention.id)) =
        [(5, ['2']), (5, ['1']), (0, ['2']), (0, ['1'])] ∧
      ∃ waiting, Moment.SettlesRefusals ⟨refusedRounds, none, waiting⟩ := by
  obtain ⟨waiting, reaches⟩ := reaches_refusedRounds
  refine ⟨by decide, waiting, ?_⟩
  exact Reaches.settlesRefusals (.inl rfl) rfl reaches startsAlone_refusedRounds
    fetchesNewer_refusedRounds

/-- The call and the id of an attempt that failed for good. -/
def Attempt.refused? : Attempt → Option (Nat × Text)
  | ⟨c, m, .error f⟩ => if f.isTransient then none else some (c, m.id)
  | ⟨_, _, .ok _⟩ => none

/-- The reply to the second mention fails for good in the first round, and again in the second
one. -/
theorem refused_twice :
    (∃ waiting, Reaches ⟨[], 1, 0, 0, {}⟩ freshWorld.state ⟨refusedRounds, none, waiting⟩) ∧
      Obeys Event.StartsAlone refusedRounds.history ∧
      Obeys Event.FetchesNewer refusedRounds.history ∧
      (attempts refusedRounds.history).filterMap Attempt.refused? = [(5, ['2']), (0, ['2'])] :=
  ⟨reaches_refusedRounds, startsAlone_refusedRounds, fetchesNewer_refusedRounds, by decide⟩

end Mycelium.Bot
