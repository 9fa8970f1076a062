import Mycelium.Breeding.Crossover
import Mycelium.Proofs.Templates
import Mycelium.Proofs.Variations

/-!
# What a child inherits

Crossover takes the rules of both parents in turn (`inTurn`) and picks some by chance
(`pickedBy`).  To these it adds some that were left over, if it has too few.  `Completes` is all
that is known of the added rules, whatever is drawn (`exists_completes`), and what a child
inherits follows from it (`Completes.inherits`).

Rules are counted up to being the same, which does not mean that they are equal: the entries of
their templates may be in another order.
-/

namespace Mycelium.Breeding

variable {σ : Type} [RandomSource σ]

/-! ## Taking turns -/

section Turns

variable {α : Type}

/-- The items of two lists in turn: in every place that of the first list, then that of the
second one, where there are such. -/
def inTurn (xs ys : List α) : List α :=
  (List.range (max xs.length ys.length)).flatMap fun i => xs[i]?.toList ++ ys[i]?.toList

theorem inTurn_nil_left (ys : List α) : inTurn [] ys = ys := by
  induction ys with
  | nil => rfl
  | cons y ys ih =>
      simp only [inTurn, List.length_nil, Nat.zero_max, List.length_cons] at ih ⊢
      rw [List.range_succ_eq_map, List.flatMap_cons, List.flatMap_map]
      simpa using ih

theorem inTurn_nil_right (xs : List α) : inTurn xs [] = xs := by
  induction xs with
  | nil => rfl
  | cons x xs ih =>
      simp only [inTurn, List.length_nil, Nat.max_zero, List.length_cons] at ih ⊢
      rw [List.range_succ_eq_map, List.flatMap_cons, List.flatMap_map]
      simpa using ih

theorem inTurn_cons_cons (x y : α) (xs ys : List α) :
    inTurn (x :: xs) (y :: ys) = x :: y :: inTurn xs ys := by
  rw [inTurn, List.length_cons, List.length_cons, Nat.succ_max_succ, List.range_succ_eq_map,
    List.flatMap_cons, List.flatMap_map]
  simp [inTurn]

theorem interleaved_eq_inTurn (xs ys : List α) : interleaved xs ys = inTurn xs ys := by
  induction xs, ys using interleaved.induct with
  | case1 ys => rw [interleaved, inTurn_nil_left]
  | case2 x xs => rw [interleaved, inTurn_nil_right]
  | case3 x xs y ys ih => rw [interleaved, inTurn_cons_cons, ih]

example : inTurn ["a", "c", "d"] ["b"] = ["a", "b", "c", "d"] := rfl

theorem inTurn_perm (xs ys : List α) : (inTurn xs ys).Perm (xs ++ ys) := by
  induction xs, ys using interleaved.induct with
  | case1 ys => rw [inTurn_nil_left, List.nil_append]
  | case2 x xs => rw [inTurn_nil_right, List.append_nil]
  | case3 x xs y ys ih =>
      have hmiddle : (x :: y :: (xs ++ ys)).Perm (x :: xs ++ y :: ys) :=
        .cons x List.perm_middle.symm
      rw [inTurn_cons_cons]
      exact ((ih.cons y).cons x).trans hmiddle

end Turns

/-! ## Rules that are picked -/

/-- The fractions that a source gives next. -/
def fractions : Nat → Draw σ (List Float)
  | 0 => pure []
  | n + 1 => do
      let x ← Draw.fraction
      return x :: (← fractions n)

/-- The rules whose fractions lie below a rate. -/
def included (rate : Float) (rs : List Rule) (xs : List Float) : List Rule :=
  ((rs.zip xs).filter fun p => p.2 < rate).map Prod.fst

theorem included_cons (rate : Float) (r : Rule) (rs : List Rule) (x : Float) (xs : List Float) :
    included rate (r :: rs) (x :: xs) =
      if x < rate then r :: included rate rs xs else included rate rs xs := by
  rw [included, List.zip_cons_cons, List.filter_cons]
  split <;> simp_all [included]

theorem included_sublist (rate : Float) (rs : List Rule) (xs : List Float) :
    (included rate rs xs).Sublist rs := by
  induction rs generalizing xs with
  | nil => exact .refl _
  | cons r rs ih =>
      cases xs with
      | nil => exact List.nil_sublist _
      | cons x xs =>
          rw [included_cons]
          split
          · exact (ih xs).cons_cons r
          · exact (ih xs).cons r

theorem someOf_eq (rate : Float) (rs : List Rule) :
    (someOf rate rs : Draw σ (List Rule)) = included rate rs <$> fractions rs.length := by
  induction rs with
  | nil => rfl
  | cons r rs ih =>
      rw [someOf, ih, List.length_cons, fractions]
      funext s
      show (if decide (_ < rate) = true then r :: included rate rs _ else included rate rs _, _) =
        (included rate (r :: rs) (_ :: _), _)
      simp only [included_cons, decide_eq_true_eq]

/-! ## Rules that are added -/

/-- So many of the others are added, as long as there are any, and none of them twice. -/
theorem always_drawnFrom (n : Nat) (others child : List Rule) :
    Draw.Always (drawnFrom n others child : Draw σ (List Rule)) fun qs =>
      ∃ added, qs = child ++ added ∧ added.Subperm others ∧
        added.length = min n others.length := by
  induction n generalizing others child with
  | zero => exact .pure ⟨[], by simp, List.nil_subperm, by simp⟩
  | succ n ih =>
      rw [drawnFrom]
      split
      · next hsome =>
          refine .bind (.below fun i => (ih _ _).mono ?_)
          rintro qs ⟨added, rfl, hsub, hlength⟩
          have hperm := List.getElem_cons_eraseIdx_perm i.isLt
          have hpos := List.length_pos_iff.2 hsome
          refine ⟨others[i] :: added, by simp, ?_, ?_⟩
          · exact ((List.subperm_cons _).2 hsub).trans hperm.subperm
          · rw [List.length_eraseIdx_of_lt i.isLt] at hlength
            rw [List.length_cons, hlength]
            omega
      · next hnone =>
          have hnil : others = [] := Classical.not_not.1 hnone
          exact .pure ⟨[], by simp, List.nil_subperm, by simp [hnil]⟩

/-- The rules that are not the same as one that was picked. -/
def leftOver (rs picked : List Rule) : List Rule := rs.filter fun r => !picked.any fun c => r == c

/-- What is made of the rules that were picked. -/
def completed (rates : Rates) (rs picked : List Rule) : Draw σ RuleSystem := do
  let child ← drawnFrom (rates.atLeast - picked.length) (leftOver rs picked) picked
  let child ← if child.isEmpty then do pure [← newRule] else pure child
  return ⟨child.take rates.atMost⟩

/-- Some rules were picked in their order, and so many others were added to them. -/
structure Completes (rates : Rates) (rs picked added : List Rule) : Prop where
  in_order : picked.Sublist rs
  others : added.Subperm (leftOver rs picked)
  length_eq : added.length = min (rates.atLeast - picked.length) (leftOver rs picked).length

theorem always_completed (rates : Rates) {rs picked : List Rule} (in_order : picked.Sublist rs) :
    Draw.Always (completed rates rs picked : Draw σ RuleSystem) fun child =>
      ∃ added, Completes rates rs picked added ∧
        (picked ++ added = [] ∧ (∃ r, IsOfVocabulary r ∧ child.rules = [r]) ∨
          picked ++ added ≠ [] ∧ child.rules = (picked ++ added).take rates.atMost) := by
  refine .bind ((always_drawnFrom _ _ _).mono ?_)
  rintro _ ⟨added, rfl, others, length_eq⟩
  have hcompletes : Completes rates rs picked added := ⟨in_order, others, length_eq⟩
  dsimp only
  split
  · next hnone =>
      refine .bind (always_newRule.mono fun r hr => .bind (.pure (.pure ?_)))
      refine ⟨added, hcompletes, .inl ⟨List.isEmpty_iff.1 hnone, r, hr, ?_⟩⟩
      exact List.take_of_length_le rates.one_le_atMost
  · next hsome =>
      refine .bind (.pure (.pure ⟨added, hcompletes, .inr ⟨?_, rfl⟩⟩))
      exact fun h => hsome (List.isEmpty_iff.2 h)

/-- The rules of both parents that are picked: a source gives a fraction for each of them first. -/
def pickedBy (rates : Rates) (a b : RuleSystem) (source : σ) : List Rule :=
  included rates.inclusion (inTurn a.rules b.rules) ((fractions (a.size + b.size)).run source).1

theorem run_crossed (rates : Rates) (a b : RuleSystem) (source : σ) :
    (crossed rates a b).run source =
      (completed rates (inTurn a.rules b.rules) (pickedBy rates a b source)).run
        ((fractions (a.size + b.size)).run source).2 := by
  have hcrossed : (crossed rates a b : Draw σ RuleSystem) =
      someOf rates.inclusion (interleaved a.rules b.rules) >>=
        completed rates (interleaved a.rules b.rules) := rfl
  have hlength : (inTurn a.rules b.rules).length = a.size + b.size := by
    rw [(inTurn_perm a.rules b.rules).length_eq, List.length_append]
    rfl
  rw [hcrossed, someOf_eq, interleaved_eq_inTurn, hlength]
  rfl

/-- Whatever is drawn, a child is completed from what was picked, or is one rule of the vocabulary
if nothing was there. -/
theorem exists_completes (rates : Rates) (a b : RuleSystem) (source : σ) :
    ∃ added, Completes rates (inTurn a.rules b.rules) (pickedBy rates a b source) added ∧
      (pickedBy rates a b source ++ added = [] ∧
          (∃ r, IsOfVocabulary r ∧ ((crossed rates a b).run source).1.rules = [r]) ∨
        pickedBy rates a b source ++ added ≠ [] ∧
          ((crossed rates a b).run source).1.rules =
            (pickedBy rates a b source ++ added).take rates.atMost) := by
  rw [run_crossed]
  exact always_completed rates (included_sublist _ _ _) _

/-- If every item is the same as one of a list, there are no more different ones than the list has
items. -/
theorem length_eraseDups_le {α : Type} [BEq α] [EquivBEq α] {xs ys : List α}
    (h : ∀ x ∈ xs, ∃ y ∈ ys, (x == y) = true) : xs.eraseDups.length ≤ ys.length := by
  -- Not by induction on `xs`: what is left of it after its first item is no tail of it.
  induction hn : xs.length using Nat.strongRecOn generalizing xs ys with
  | ind n ih =>
      cases xs with
      | nil => simp
      | cons x xs =>
          obtain ⟨y, hy, hxy⟩ := h x List.mem_cons_self
          have hrest : ∀ z ∈ xs.filter fun z => !z == x,
              ∃ w ∈ ys.eraseP (x == ·), (z == w) = true := by
            intro z hz
            obtain ⟨hz, hne⟩ := List.mem_filter.1 hz
            obtain ⟨w, hw, hzw⟩ := h z (List.mem_cons_of_mem x hz)
            refine ⟨w, (List.mem_eraseP_of_neg ?_).2 hw, hzw⟩
            intro hxw
            have hzx : (z == x) = true := BEq.trans hzw (BEq.symm hxw)
            simp [hzx] at hne
          have hshorter : (xs.filter fun z => !z == x).length < n := by
            have hfilter := List.length_filter_le (fun z => !z == x) xs
            rw [List.length_cons] at hn
            omega
          have hle := ih _ hshorter hrest rfl
          have hpos : 0 < ys.length := List.length_pos_of_mem hy
          rw [List.length_eraseP_of_mem hy hxy] at hle
          rw [List.eraseDups_cons, List.length_cons]
          omega

namespace Completes

variable {rates : Rates} {rs picked added : List Rule}

theorem subset (h : Completes rates rs picked added) : picked ++ added ⊆ rs := by
  intro r hr
  rcases List.mem_append.1 hr with hr | hr
  · exact h.in_order.subset hr
  · exact List.mem_of_mem_filter (h.others.subset hr)

theorem count_le (h : Completes rates rs picked added) (r : Rule) :
    (picked ++ added).count r ≤ rs.count r := by
  simp only [List.count_eq_countP]
  have hpicked := h.in_order.countP_le (p := (· == r))
  have hadded := h.others.countP_le (· == r)
  have hothers : (leftOver rs picked).countP (· == r) ≤ rs.countP (· == r) :=
    List.filter_sublist.countP_le
  rw [List.countP_append]
  -- A rule that was picked is not left over, so it is counted on one side only.
  by_cases hr : ∃ c ∈ picked, (c == r) = true
  · obtain ⟨c, hc, hcr⟩ := hr
    have hnone : (leftOver rs picked).countP (· == r) = 0 := by
      rw [List.countP_eq_zero]
      intro q hq hqr
      have hqc : (q == c) = true := BEq.trans hqr (BEq.symm hcr)
      have hany : (picked.any fun c => q == c) = true := List.any_eq_true.2 ⟨c, hc, hqc⟩
      have hnot := (List.mem_filter.1 hq).2
      simp [hany] at hnot
    omega
  · have hnone : picked.countP (· == r) = 0 := by
      rw [List.countP_eq_zero]
      exact fun c hc hcr => hr ⟨c, hc, hcr⟩
    omega

theorem le_length (h : Completes rates rs picked added) {qs : List Rule} (hqs : qs ⊆ rs) :
    min rates.atLeast qs.eraseDups.length ≤ (picked ++ added).length := by
  have hdistinct : qs.eraseDups.length ≤ (picked ++ leftOver rs picked).length := by
    apply length_eraseDups_le
    intro r hr
    by_cases hany : (picked.any fun c => r == c) = true
    · obtain ⟨c, hc, hrc⟩ := List.any_eq_true.1 hany
      exact ⟨c, List.mem_append_left _ hc, hrc⟩
    · have hleft : r ∈ leftOver rs picked := List.mem_filter.2 ⟨hqs hr, by simpa using hany⟩
      exact ⟨r, List.mem_append_right _ hleft, r.same_refl⟩
  have hlength := h.length_eq
  rw [List.length_append] at hdistinct ⊢
  omega

end Completes

/-! ## Children -/

/-- What a child has of parents that are not both empty, if some of their rules were picked. -/
structure Inherits (rates : Rates) (a b : RuleSystem) (picked : List Rule) (child : RuleSystem) :
    Prop where
  /-- There is at least one rule. -/
  ne_nil : child.rules ≠ []
  /-- Every rule is one of a parent. -/
  of_parent : ∀ r ∈ child.rules, r ∈ a.rules ∨ r ∈ b.rules
  /-- No rule is there more often than in both parents together. -/
  count_le : ∀ r, child.rules.count r ≤ a.rules.count r + b.rules.count r
  /-- There are no more rules than allowed. -/
  size_le : (child.size : Int) ≤ max 1 rates.mostRules
  /-- There are as many rules as asked for, if the parents have so many different ones. -/
  le_size : min (min (max 1 rates.leastRules) (max 1 rates.mostRules))
    ((a.rules ++ b.rules).eraseDups.length : Int) ≤ child.size
  /-- The rules that were picked come first. -/
  picked_first : ∃ added, child.rules = (picked ++ added).take (max 1 rates.mostRules).toNat

theorem Completes.inherits {rates : Rates} {a b child : RuleSystem} {rs picked added : List Rule}
    (h : Completes rates rs picked added) (hperm : rs.Perm (a.rules ++ b.rules))
    (hsome : picked ++ added ≠ []) (hchild : child.rules = (picked ++ added).take rates.atMost) :
    Inherits rates a b picked child where
  ne_nil := by
    have hmost := rates.one_le_atMost
    rw [← List.length_pos_iff] at hsome ⊢
    rw [hchild, List.length_take]
    omega
  of_parent r hr := by
    rw [hchild] at hr
    exact List.mem_append.1 (hperm.subset (h.subset (List.mem_of_mem_take hr)))
  count_le r := by
    have hkept := (List.take_sublist rates.atMost (picked ++ added)).count_le r
    have hall := h.count_le r
    rw [hperm.count_eq] at hall
    rw [hchild, ← List.count_append]
    exact hkept.trans hall
  size_le := by
    rw [← rates.cast_atMost, RuleSystem.size, hchild, List.length_take]
    omega
  le_size := by
    have hleast := h.le_length hperm.symm.subset
    rw [← rates.cast_atLeast, ← rates.cast_atMost, RuleSystem.size, hchild, List.length_take]
    omega
  picked_first := ⟨added, hchild⟩

/-- What a child inherits, whatever is drawn.  The rules that are picked are those of both parents
in turn whose fractions lie below the rate (`pickedBy`). -/
theorem crossed_inherits (rates : Rates) (a b : RuleSystem) (source : σ) :
    (a.rules ++ b.rules = [] ∧
      ∃ r, IsOfVocabulary r ∧ ((crossed rates a b).run source).1.rules = [r]) ∨
    (a.rules ++ b.rules ≠ [] ∧
      Inherits rates a b (pickedBy rates a b source) ((crossed rates a b).run source).1) := by
  have hperm := inTurn_perm a.rules b.rules
  obtain ⟨added, hcompletes, hchild⟩ := exists_completes rates a b source
  cases hempty : a.rules ++ b.rules with
  | nil =>
      have hsub := List.Subset.trans hcompletes.subset hperm.subset
      rw [hempty] at hsub
      have hnone := List.subset_nil.1 hsub
      rcases hchild with ⟨-, r, hr, hchild⟩ | ⟨hsome, -⟩
      · exact .inl ⟨rfl, r, hr, hchild⟩
      · exact absurd hnone hsome
  | cons q qs =>
      rcases hchild with ⟨hnone, -⟩ | ⟨hsome, hchild⟩
      · have hleast := hcompletes.le_length hperm.symm.subset
        have hpos := rates.one_le_atLeast
        rw [hnone, hempty, List.eraseDups_cons, List.length_cons, List.length_nil] at hleast
        omega
      · exact .inr ⟨List.cons_ne_nil q qs, hcompletes.inherits hperm hsome hchild⟩

end Mycelium.Breeding
