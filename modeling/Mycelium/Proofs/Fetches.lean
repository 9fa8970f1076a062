import Mathlib.Data.List.Nodup
import Mycelium.Proofs.Alone
import Mycelium.Proofs.Numerals

/-!
# Fetches and attempts

A fetch gives the mentions that are newer than a mark, with ids that are numbers, in
ascending order (`IsFetch`).  The mentions that a call has still to deal with are such
a list all the time (`Ascends.advance`), as the mark moves up to the one before.  What came of an
attempt to answer a mention stands in the history (`attempts`).
-/

namespace Mycelium.Bot

variable {σ : Type}

/-- The number of a mention. -/
def Mention.number (m : Mention) : Nat := Number.ofDigits m.id

/-- Mentions newer than a mark, in ascending order. -/
structure Ascends (mark : Json) (ms : List Mention) : Prop where
  /-- Their ids are numbers above that of the mark. -/
  newer : ∀ m ∈ ms, m.id.IsNumeral ∧ markNumber mark < m.number
  /-- Every later one has a greater number. -/
  ascending : ms.Pairwise fun m n => m.number < n.number

namespace Ascends

variable {mark : Json} {m : Mention} {ms : List Mention}

theorem tail (h : Ascends mark (m :: ms)) : Ascends mark ms where
  newer n hn := h.newer n (List.mem_cons_of_mem m hn)
  ascending := h.ascending.tail

/-- The later mentions are newer than the first one. -/
theorem advance (h : Ascends mark (m :: ms)) : Ascends (.str m.id) ms where
  newer n hn := ⟨(h.tail.newer n hn).1, List.rel_of_pairwise_cons h.ascending hn⟩
  ascending := h.ascending.tail

theorem head (h : Ascends mark (m :: ms)) : m.id.IsNumeral ∧ markNumber mark < m.number :=
  h.newer m List.mem_cons_self

/-- The first mention is newer than the mark. -/
theorem isNewer (h : Ascends mark (m :: ms)) (hmark : IsMark mark) :
    m.id ≠ [] ∧ Bot.isNewer m.id mark = .ok true :=
  ⟨h.head.1.ne_nil, isNewer_of_isNumeral h.head.1 hmark h.head.2⟩

theorem eq_of_id_eq (h : Ascends mark ms) {n : Mention} (hm : m ∈ ms) (hn : n ∈ ms)
    (heq : m.id = n.id) : m = n := by
  have hnodup : (ms.map Mention.number).Nodup :=
    List.pairwise_map.2 (h.ascending.imp Nat.ne_of_lt)
  exact List.inj_on_of_nodup_map hnodup hm hn (congrArg Number.ofDigits heq)

/-- The mentions newer than a mark, among all of them. -/
theorem filter (h : Ascends .null ms) (since : Json) :
    Ascends since (ms.filter fun m => markNumber since < m.number) where
  newer n hn := by
    obtain ⟨hmem, hlt⟩ := List.mem_filter.1 hn
    exact ⟨(h.newer n hmem).1, by simpa using hlt⟩
  ascending := h.ascending.filter _

end Ascends

/-- What a fetch from a mark gives. -/
def IsFetch (since : Json) (ms : List (Except Fault Mention)) : Prop :=
  ∃ xs : List Mention, ms = xs.map .ok ∧ Ascends since xs

/-- Every fetch that does not fail gives mentions newer than the mark, in ascending
order. -/
def Event.FetchesNewer (_ : List (Event σ)) : Event σ → Prop
  | .answered _ (.mentions since) (.ok ms) => IsFetch since ms
  | _ => True

/-- A law for all events as a law for those that concern mentions. -/
theorem Obeys.ofMentions {law law' : List (Event σ) → Event σ → Prop} {h : List (Event σ)}
    (obeys : Obeys law h)
    (imp : ∀ h e, law h e → law' (h.filter Event.isOfMentions) e) :
    Obeys law' (h.filter Event.isOfMentions) := by
  induction h with
  | nil => trivial
  | cons e h ih =>
      by_cases hmentions : e.isOfMentions = true
      · rw [List.filter_cons_of_pos hmentions]
        exact ⟨imp h e obeys.1, ih obeys.2⟩
      · rw [List.filter_cons_of_neg hmentions]
        exact ih obeys.2

/-! ## Attempts -/

/-- An attempt to answer a mention. -/
structure Attempt where
  call : Nat
  mention : Mention
  outcome : Except Fault Unit

/-- The attempt that an event is. -/
def Event.attempt? : Event σ → Option Attempt
  | .answered c (.reply _ m) r => some ⟨c, m, r⟩
  | _ => none

/-- The attempts of a history, the latest one first. -/
def attempts (h : List (Event σ)) : List Attempt := h.filterMap Event.attempt?

theorem attempts_filter (h : List (Event σ)) :
    attempts (h.filter Event.isOfMentions) = attempts h := by
  rw [attempts, List.filterMap_filter]
  refine List.filterMap_congr fun e _ => ?_
  split
  · rfl
  · next hnot =>
      fun_cases Event.attempt? e with
      | case1 => exact absurd rfl hnot
      | case2 => rfl

theorem attempts_subset_cons (e : Event σ) (h : List (Event σ)) :
    attempts h ⊆ attempts (e :: h) := by
  intro a ha
  obtain ⟨d, hd, heq⟩ := List.mem_filterMap.1 ha
  exact List.mem_filterMap.2 ⟨d, List.mem_cons_of_mem e hd, heq⟩

section Channel

variable [RandomSource σ]

/-- A channel that holds mentions, and answers some of them not at once. -/
def Surroundings.ofMentions (ms : List Mention)
    (reply : List (Event σ) → Mention → Except Fault Unit) : Surroundings σ where
  mentions _ since := .ok ((ms.filter fun m => markNumber since < m.number).map .ok)
  reply := reply

theorem Surroundings.obey_fetchesNewer {ms : List Mention} (ascends : Ascends .null ms)
    (reply : List (Event σ) → Mention → Except Fault Unit) :
    (Surroundings.ofMentions ms reply).Obey Event.FetchesNewer where
  answered w c q := by
    cases q with
    | mentions since => exact ⟨_, rfl, ascends.filter since⟩
    | _ => trivial
  changed _ _ _ := trivial
  ended _ _ _ := trivial

end Channel

end Mycelium.Bot
