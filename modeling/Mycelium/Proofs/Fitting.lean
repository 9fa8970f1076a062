import Mathlib.Order.Bounds.Basic
import Mycelium.Proofs.Dealings
import Mycelium.Proofs.RoundTrip

/-!
# Publications that fit

A channel may limit the length of a message.  `Publication.Remains` says what is left of a
system then, without a word on how it is found, and `Publication.forChannel_remains` that
this is what a bot publishes.

A clause adds its own length and that of its label to a program, whatever stands before it.
Two things follow.  A longer start of a system has a longer program
(`RuleSystem.length_program_first_lt`), so that a start fits exactly when it is no longer
than the longest one that does (`Publication.fits_first_iff`).  And a rule alone fits if one
with a longer clause does (`Publication.Fits.of_clause_le`), so that it is enough to try a
rule with the shortest clause.
-/

namespace Mycelium

/-! ## The length of a program -/

namespace RuleSystem

theorem length_body_concat (rs : List Rule) (r : Rule) :
    (body ⟨rs⟩).length < (body ⟨rs ++ [r]⟩).length := by
  rw [body_eq_join, body_eq_join, List.map_append, List.map_singleton]
  cases rs with
  | nil =>
      have hne : 0 < r.clause.length := List.length_pos_iff.2 r.clause_ne_nil
      simp only [List.map_nil, List.nil_append, Text.join, List.length_nil, List.length_append]
      omega
  | cons q qs =>
      rw [List.map_cons, Text.join_append_singleton (List.cons_ne_nil _ _)]
      simp only [List.length_append, List.length_singleton]
      omega

theorem length_program (s : RuleSystem) : s.program.length = s.body.length + 20 := by
  simp only [program, List.length_append, List.length_singleton]
  have hstart : Markers.usual.start.length = 10 := rfl
  have hstop : Markers.usual.stop.length = 8 := rfl
  omega

@[simp] theorem first_size (s : RuleSystem) : s.first s.size = s := by
  rw [first, size, List.take_length]

/-- A longer start of a system has a longer program. -/
theorem length_program_first_lt (s : RuleSystem) {m n : Nat} (h : m < n) (hn : n ≤ s.size) :
    (s.first m).program.length < (s.first n).program.length := by
  have hstep : ∀ k < s.size, (s.first k).program.length < (s.first (k + 1)).program.length := by
    intro k hk
    have hlonger := length_body_concat (s.rules.take k) s.rules[k]
    rw [List.take_concat_get' s.rules k hk] at hlonger
    rw [length_program, length_program]
    exact Nat.add_lt_add_right hlonger 20
  induction n, h using Nat.le_induction with
  | base => exact hstep m hn
  | succ n _ ih => exact (ih (by omega)).trans (hstep n hn)

theorem length_program_single (r : Rule) : (program ⟨[r]⟩).length = r.clause.length + 25 := by
  have hlabel : ruleLabel.length = 5 := rfl
  rw [length_program, body_cons]
  simp only [List.map_cons, List.map_nil, Text.join, List.length_append]
  omega

end RuleSystem

namespace Publication

variable {s t : RuleSystem} {fitness : Float} {hashtag : Text} {limit : Int}

/-! ## What fits -/

/-- The publication of a system keeps to a limit. -/
def Fits (fitness : Float) (hashtag : Text) (limit : Int) (s : RuleSystem) : Prop :=
  (ofScore s fitness hashtag).fits limit = true

instance : DecidablePred (Fits fitness hashtag limit) :=
  fun s => inferInstanceAs (Decidable ((ofScore s fitness hashtag).fits limit = true))

/-- The message of a publication is longer than its program by what follows the program, and
that does not depend on the program. -/
theorem exists_length_message (fitness : Float) (hashtag : Text) :
    ∃ n, ∀ s, (ofScore s fitness hashtag).message.length = s.program.length + n := by
  refine ⟨(fitnessIntroduction ++ plainLayout.text fitness ++
    (if hashtag.isEmpty then [] else " #".toList ++ hashtag.dropWhile (· == '#'))).length, ?_⟩
  intro s
  simp only [ofScore, ofText, List.length_append]
  omega

/-- What fits also fits with a program that is not longer. -/
theorem Fits.of_length_le (h : Fits fitness hashtag limit s)
    (hle : t.program.length ≤ s.program.length) : Fits fitness hashtag limit t := by
  obtain ⟨n, hn⟩ := exists_length_message fitness hashtag
  simp only [Fits, fits, hn, decide_eq_true_eq] at h ⊢
  omega

/-- A rule fits alone if one with a clause that is not shorter does. -/
theorem Fits.of_clause_le {q r : Rule} (h : Fits fitness hashtag limit ⟨[q]⟩)
    (hle : r.clause.length ≤ q.clause.length) : Fits fitness hashtag limit ⟨[r]⟩ := by
  refine h.of_length_le ?_
  rw [RuleSystem.length_program_single, RuleSystem.length_program_single]
  exact Nat.add_le_add_right hle 25

/-- The numbers of rules with which a start of a system fits. -/
def fittingSizes (fits : RuleSystem → Prop) (s : RuleSystem) : Set Nat :=
  {n | 0 < n ∧ n ≤ s.size ∧ fits (s.first n)}

/-- If what fits also does with a shorter program, the starts that fit are those that are no longer
than the longest of them. -/
theorem fits_first_iff {fits : RuleSystem → Prop}
    (shorter : ∀ s t : RuleSystem, fits s → t.program.length ≤ s.program.length → fits t) {n : Nat}
    (h : IsGreatest (fittingSizes fits s) n) {m : Nat} (hpos : 0 < m) (hm : m ≤ s.size) :
    fits (s.first m) ↔ m ≤ n := by
  obtain ⟨⟨-, hn, hfits⟩, hgreatest⟩ := h
  constructor
  · intro hfit
    exact hgreatest ⟨hpos, hm, hfit⟩
  · intro hle
    rcases Nat.eq_or_lt_of_le hle with rfl | hlt
    · exact hfits
    · exact shorter _ _ hfits (s.length_program_first_lt hlt hn).le

section Search

variable {fits : RuleSystem → Bool} {k : Nat}
  (all : ∀ m ∈ fittingSizes (fun t => fits t = true) s, m ≤ k)
include all

/-- A search that leaves out no start that fits finds the longest one. -/
theorem isGreatest_of_longest (hk : k ≤ s.size) {n : Nat} (h : s.longest? fits k = some n) :
    IsGreatest (fittingSizes (fun t => fits t = true) s) n := by
  obtain ⟨hpos, hle, hfits, hmax⟩ := RuleSystem.longest?_eq_some h
  refine ⟨⟨hpos, hle.trans hk, hfits⟩, fun m hm => ?_⟩
  by_contra hlt
  exact Bool.eq_false_iff.1 (hmax m (Nat.lt_of_not_le hlt) (all m hm)) hm.2.2

/-- Where such a search finds nothing, no start fits. -/
theorem fittingSizes_of_longest (h : s.longest? fits k = none) :
    fittingSizes (fun t => fits t = true) s = ∅ := by
  refine Set.eq_empty_iff_forall_notMem.2 fun m hm => ?_
  exact Bool.eq_false_iff.1 (RuleSystem.longest?_eq_none h m hm.1 (all m hm)) hm.2.2

end Search

/-! ## The shortest rule -/

/-- The first of the rules of a list with the shortest clause: every rule before it has a
longer clause, and none behind it a shorter one. -/
inductive IsShortest : List Rule → Rule → Prop where
  | intro (before after : List Rule) (r : Rule)
      (earlier : ∀ q ∈ before, r.clause.length < q.clause.length)
      (later : ∀ q ∈ after, r.clause.length ≤ q.clause.length) :
      IsShortest (before ++ r :: after) r

namespace IsShortest

variable {rs : List Rule} {r : Rule}

theorem le (h : IsShortest rs r) {q : Rule} (hq : q ∈ rs) :
    r.clause.length ≤ q.clause.length := by
  obtain ⟨before, after, r, earlier, later⟩ := h
  rcases List.mem_append.1 hq with hq | hq
  · exact (earlier q hq).le
  · rcases List.mem_cons.1 hq with rfl | hq
    · exact le_rfl
    · exact later q hq

theorem singleton (r : Rule) : IsShortest [r] r :=
  .intro [] [] r (fun _ hq => nomatch hq) fun _ hq => nomatch hq

/-- One more rule at the end is the shortest if it is shorter than the shortest so far. -/
theorem concat (h : IsShortest rs r) (x : Rule) :
    IsShortest (rs ++ [x]) (if x.clause.length < r.clause.length then x else r) := by
  split
  · next hlt =>
      exact .intro rs [] x (fun q hq => hlt.trans_le (h.le hq)) fun _ hq => nomatch hq
  · next hge =>
      obtain ⟨before, after, r, earlier, later⟩ := h
      rw [List.append_assoc, List.cons_append]
      refine .intro before (after ++ [x]) r earlier fun q hq => ?_
      rcases List.mem_append.1 hq with hq | hq
      · exact later q hq
      · rw [List.mem_singleton.1 hq]
        exact Nat.le_of_not_lt hge

end IsShortest

theorem isShortest_of_shortestRule {rs : List Rule} {r : Rule} (h : shortestRule? rs = some r) :
    IsShortest rs r := by
  cases rs with
  | nil => cases h
  | cons x xs =>
      rw [shortestRule?, Option.some.injEq] at h
      subst h
      -- the rule found so far is the shortest of what was looked at
      induction xs using List.reverseRecOn with
      | nil => exact .singleton x
      | append_singleton xs y ih =>
          rw [List.foldl_append, ← List.cons_append]
          exact ih.concat y

/-! ## What remains -/

/-- What remains of a system, of which as little as possible is to be lost. -/
inductive Remains (fits : RuleSystem → Prop) (s : RuleSystem) : RuleSystem → Prop where
  /-- The longest start that fits remains. -/
  | start {n : Nat} (greatest : IsGreatest (fittingSizes fits s) n) : Remains fits s (s.first n)
  /-- No start fits, but some rule does: the first one with the shortest clause remains. -/
  | single {r : Rule} (starts : fittingSizes fits s = ∅) (shortest : IsShortest s.rules r)
      (fit : fits ⟨[r]⟩) : Remains fits s ⟨[r]⟩
  /-- Neither a start nor a rule fits: the fallback system stands in. -/
  | standIn (starts : fittingSizes fits s = ∅) (rules : ∀ r ∈ s.rules, ¬ fits ⟨[r]⟩) :
      Remains fits s fallback

/-- What remains does not fit only where neither a rule nor the fallback system does. -/
theorem Remains.not_fits {fits : RuleSystem → Prop} (h : Remains fits s t) (hfits : ¬ fits t) :
    (∀ r ∈ s.rules, ¬ fits ⟨[r]⟩) ∧ ¬ fits fallback := by
  cases h with
  | start greatest => exact absurd greatest.1.2.2 hfits
  | single _ _ fit => exact absurd fit hfits
  | standIn _ rules => exact ⟨rules, hfits⟩

theorem isGreatest_size (hs : s.rules ≠ []) (h : Fits fitness hashtag limit s) :
    IsGreatest (fittingSizes (Fits fitness hashtag limit) s) s.size :=
  ⟨⟨List.length_pos_iff.2 hs, le_rfl, s.first_size.symm ▸ h⟩, fun _ hn => hn.2.1⟩

/-- Of a system that does not fit only the proper starts are tried. -/
theorem le_of_mem_fittingSizes (hs : ¬ Fits fitness hashtag limit s) {n : Nat}
    (hn : n ∈ fittingSizes (Fits fitness hashtag limit) s) : n ≤ s.size - 1 := by
  obtain ⟨-, hle, hfits⟩ := hn
  rcases Nat.eq_or_lt_of_le hle with rfl | hlt
  · exact absurd (s.first_size ▸ hfits) hs
  · exact Nat.le_sub_one_of_lt hlt

theorem fitted?_of_pos (h : 0 < limit) :
    fitted? s (plainLayout.text fitness) hashtag limit =
      if Fits fitness hashtag limit s then some (ofScore s fitness hashtag)
      else
        match s.longest? (fun t => (ofScore t fitness hashtag).fits limit) (s.size - 1) with
        | some n => some (ofScore (s.first n) fitness hashtag)
        | none => (shortestRule? s.rules).map fun r => ofScore ⟨[r]⟩ fitness hashtag := by
  rw [fitted?]
  simp only [decide_eq_false (Int.not_le.2 h), Bool.false_or]
  rfl

/-- What is cut from a system to make it fit is no more than it has to be. -/
theorem remains_of_fitted (hs : s.rules ≠ []) (hlimit : 0 < limit) {p : Publication}
    (h : fitted? s (plainLayout.text fitness) hashtag limit = some p) :
    Remains (Fits fitness hashtag limit) s (if p.fits limit then p.system else fallback) := by
  rw [fitted?_of_pos hlimit] at h
  split at h
  · next hfits =>
      cases h
      have hstart := Remains.start (isGreatest_size hs hfits)
      rw [s.first_size] at hstart
      rwa [if_pos (by exact hfits)]
  · next hnot =>
      split at h
      · next n hn =>
          have hgreatest : IsGreatest (fittingSizes (Fits fitness hashtag limit) s) n :=
            isGreatest_of_longest (fun _ => le_of_mem_fittingSizes hnot) (Nat.sub_le _ _) hn
          cases h
          rw [if_pos (by exact hgreatest.1.2.2)]
          exact .start hgreatest
      · next hnone =>
          have hempty : fittingSizes (Fits fitness hashtag limit) s = ∅ :=
            fittingSizes_of_longest (fun _ => le_of_mem_fittingSizes hnot) hnone
          obtain ⟨r, hr, rfl⟩ := Option.map_eq_some_iff.1 h
          have hshortest := isShortest_of_shortestRule hr
          split
          · next hfits => exact .single hempty hshortest hfits
          · next hfits =>
              exact .standIn hempty fun q hq hfit => hfits (hfit.of_clause_le (hshortest.le hq))

/-- A system with a rule has a publication, whose message is that of the system as it is
published.  Without a limit this is the system itself.  Under a limit it is what remains of
it, and the message breaks the limit only if no rule fits alone and the fallback system does
not fit. -/
theorem forChannel_remains (hs : s.rules ≠ []) (fitness : Float) (hashtag : Text) (limit : Int) :
    ∃ p, forChannel? s fitness hashtag limit = some p ∧
      p = ofScore p.system fitness hashtag ∧
      (limit ≤ 0 → p.system = s) ∧
      (0 < limit → Remains (Fits fitness hashtag limit) s p.system ∧
        (limit < p.message.length →
          (∀ r ∈ s.rules, ¬ Fits fitness hashtag limit ⟨[r]⟩) ∧
            ¬ Fits fitness hashtag limit fallback)) := by
  obtain ⟨p, hp, hsystem⟩ := exists_forChannel hs fitness hashtag limit
  obtain ⟨q, hq, hpq⟩ := Option.map_eq_some_iff.1 hp
  refine ⟨p, hp, hsystem, fun hnone => ?_, fun hlimit => ?_⟩
  · rw [fitted?, if_pos (by simp [hnone])] at hq
    cases hq
    rw [if_neg (by simp [Int.not_lt.2 hnone])] at hpq
    rw [← hpq, ofText]
  · have hremains : Remains (Fits fitness hashtag limit) s p.system := by
      have h := remains_of_fitted hs hlimit hq
      have hcase : p.system = if q.fits limit then q.system else fallback := by
        rw [← hpq]
        cases q.fits limit <;> simp [hlimit, ofScore, ofText]
      rwa [hcase]
    refine ⟨hremains, fun hlong => hremains.not_fits fun hfits => ?_⟩
    rw [Fits, ← hsystem, fits, decide_eq_true_eq] at hfits
    omega

/-- Two rules. -/
def twoRules : RuleSystem :=
  ⟨[⟨"weather".toList, "sunny".toList, none, .empty, by decide⟩,
    ⟨"price".toList, "see the list".toList, none, .empty, by decide⟩]⟩

/-- A message of eighty characters has room for the first of two rules and not for both. -/
theorem forChannel_remains_twoRules : twoRules.rules ≠ [] ∧
    ∃ p, forChannel? twoRules 0.5 "fungifeed".toList 80 = some p ∧
      p = ofScore (twoRules.first 1) 0.5 "fungifeed".toList := by
  obtain ⟨p, hp, hsystem, -, hlimit⟩ :=
    forChannel_remains (s := twoRules) (by decide) 0.5 "fungifeed".toList 80
  have hone : 1 ∈ fittingSizes (Fits 0.5 "fungifeed".toList 80) twoRules :=
    ⟨Nat.one_pos, by decide, by decide +kernel⟩
  have hboth : ¬ Fits 0.5 "fungifeed".toList 80 (twoRules.first 2) := by decide +kernel
  have hremains := (hlimit (by decide)).1
  generalize p.system = t at hremains hsystem
  refine ⟨by decide, p, hp, ?_⟩
  cases hremains with
  | start greatest =>
      obtain ⟨⟨-, hle, hfits⟩, hgreatest⟩ := greatest
      rcases Nat.eq_or_lt_of_le (hgreatest hone) with rfl | hlt
      · exact hsystem
      · rw [Nat.le_antisymm hle hlt] at hfits
        exact absurd hfits hboth
  | single starts => exact absurd hone (Set.eq_empty_iff_forall_notMem.1 starts 1)
  | standIn starts => exact absurd hone (Set.eq_empty_iff_forall_notMem.1 starts 1)

end Publication

end Mycelium
