import Mycelium.Proofs.Variations

/-!
# What becomes of rules in a mutation

Mutated rules stand in the order of those they come from, with rules of the vocabulary between
them.  `Descends` relates the two lists and counts the rules that are missing.  Each step of a
mutation keeps it: rules are mutated in their places (`always_mutatedRules`), a rule is put in
(`Descends.insert`), one is taken out (`Descends.eraseIdx`), and others are added at the end
(`Descends.append`).
-/

namespace Mycelium.Breeding

variable {σ : Type} [RandomSource σ]

/-! ## Lineage -/

/-- Where a rule comes from that is there after a mutation. -/
inductive ComesFrom (σ : Type) [RandomSource σ] (rates : Rates) (rs : List Rule) (q : Rule) :
    Prop where
  /-- It was there. -/
  | kept (mem : q ∈ rs)
  /-- It was mutated. -/
  | mutated {r : Rule} (mem : r ∈ rs) (image : Draw.Yields (mutatedRule rates r : Draw σ Rule) q)
  /-- It is of the vocabulary. -/
  | new (vocabulary : IsOfVocabulary q)

theorem ComesFrom.cons {rates : Rates} {rs : List Rule} {q : Rule} (r : Rule)
    (h : ComesFrom σ rates rs q) : ComesFrom σ rates (r :: rs) q := by
  cases h with
  | kept mem => exact .kept (.tail r mem)
  | mutated mem image => exact .mutated (.tail r mem) image
  | new vocabulary => exact .new vocabulary

/-- What became of rules, in their order: each is still there, mutated or missing, and rules of the
vocabulary stand anywhere between them.  The number is that of the missing ones. -/
inductive Descends (σ : Type) [RandomSource σ] (rates : Rates) :
    Nat → List Rule → List Rule → Prop where
  | nil : Descends σ rates 0 [] []
  | new {missing : Nat} {rs qs : List Rule} {q : Rule} (vocabulary : IsOfVocabulary q)
      (rest : Descends σ rates missing rs qs) : Descends σ rates missing rs (q :: qs)
  | kept {missing : Nat} {rs qs : List Rule} (r : Rule)
      (rest : Descends σ rates missing rs qs) : Descends σ rates missing (r :: rs) (r :: qs)
  | mutated {missing : Nat} {rs qs : List Rule} {r q : Rule}
      (image : Draw.Yields (mutatedRule rates r : Draw σ Rule) q)
      (rest : Descends σ rates missing rs qs) : Descends σ rates missing (r :: rs) (q :: qs)
  | missing {missing : Nat} {rs qs : List Rule} (r : Rule)
      (rest : Descends σ rates missing rs qs) : Descends σ rates (missing + 1) (r :: rs) qs

namespace Descends

variable {rates : Rates} {missing : Nat} {rs qs news : List Rule} {q : Rule}

theorem comesFrom (h : Descends σ rates missing rs qs) (hq : q ∈ qs) :
    ComesFrom σ rates rs q := by
  induction h with
  | nil => exact absurd hq List.not_mem_nil
  | new vocabulary _ ih =>
      cases hq with
      | head => exact .new vocabulary
      | tail _ hq => exact ih hq
  | kept r _ ih =>
      cases hq with
      | head => exact .kept List.mem_cons_self
      | tail _ hq => exact (ih hq).cons r
  | @mutated _ _ _ r _ image _ ih =>
      cases hq with
      | head => exact .mutated List.mem_cons_self image
      | tail _ hq => exact (ih hq).cons r
  | missing r _ ih => exact (ih hq).cons r

theorem length_le (h : Descends σ rates missing rs qs) : rs.length ≤ qs.length + missing := by
  induction h with
  | nil => exact Nat.le_refl 0
  | new _ _ ih =>
      rw [List.length_cons]
      omega
  | kept _ _ ih =>
      rw [List.length_cons, List.length_cons]
      omega
  | mutated _ _ ih =>
      rw [List.length_cons, List.length_cons]
      omega
  | missing _ _ ih =>
      rw [List.length_cons]
      omega

theorem of_news (hnews : ∀ q ∈ news, IsOfVocabulary q) : Descends σ rates 0 [] news := by
  induction news with
  | nil => exact .nil
  | cons q news ih =>
      obtain ⟨hq, hrest⟩ := List.forall_mem_cons.1 hnews
      exact .new hq (ih hrest)

theorem append (h : Descends σ rates missing rs qs) (hnews : ∀ q ∈ news, IsOfVocabulary q) :
    Descends σ rates missing rs (qs ++ news) := by
  induction h with
  | nil => exact of_news hnews
  | new vocabulary _ ih => exact .new vocabulary ih
  | kept r _ ih => exact .kept r ih
  | mutated image _ ih => exact .mutated image ih
  | missing r _ ih => exact .missing r ih

theorem insert (h : Descends σ rates missing rs qs) (hq : IsOfVocabulary q) (i : Nat) :
    Descends σ rates missing rs (qs.take i ++ q :: qs.drop i) := by
  induction h generalizing i with
  | nil =>
      rw [List.take_nil, List.drop_nil]
      exact .new hq .nil
  | new vocabulary rest ih =>
      cases i with
      | zero => exact .new hq (.new vocabulary rest)
      | succ i => exact .new vocabulary (ih i)
  | kept r rest ih =>
      cases i with
      | zero => exact .new hq (.kept r rest)
      | succ i => exact .kept r (ih i)
  | mutated image rest ih =>
      cases i with
      | zero => exact .new hq (.mutated image rest)
      | succ i => exact .mutated image (ih i)
  | missing r _ ih => exact .missing r (ih i)

theorem eraseIdx (h : Descends σ rates missing rs qs) (i : Nat) :
    ∃ missing' ≤ missing + 1, Descends σ rates missing' rs (qs.eraseIdx i) := by
  induction h generalizing i with
  | nil => exact ⟨0, Nat.zero_le 1, .nil⟩
  | @new n _ _ _ vocabulary rest ih =>
      cases i with
      | zero => exact ⟨n, Nat.le_succ n, rest⟩
      | succ i =>
          obtain ⟨n', hle, hrest⟩ := ih i
          exact ⟨n', hle, .new vocabulary hrest⟩
  | @kept n _ _ r rest ih =>
      cases i with
      | zero => exact ⟨n + 1, Nat.le_refl _, .missing r rest⟩
      | succ i =>
          obtain ⟨n', hle, hrest⟩ := ih i
          exact ⟨n', hle, .kept r hrest⟩
  | @mutated n _ _ r _ image rest ih =>
      cases i with
      | zero => exact ⟨n + 1, Nat.le_refl _, .missing r rest⟩
      | succ i =>
          obtain ⟨n', hle, hrest⟩ := ih i
          exact ⟨n', hle, .mutated image hrest⟩
  | missing r _ ih =>
      obtain ⟨n', hle, hrest⟩ := ih i
      exact ⟨n' + 1, Nat.succ_le_succ hle, .missing r hrest⟩

end Descends

/-! ## Steps of a mutation -/

theorem always_mutatedRules (rates : Rates) (rs : List Rule) :
    Draw.Always (mutatedRules rates rs : Draw σ (List Rule)) fun qs =>
      qs.length = rs.length ∧ Descends σ rates 0 rs qs := by
  induction rs with
  | nil => exact .pure ⟨rfl, .nil⟩
  | cons r rs ih =>
      refine .perhaps (.bind ?_) (.bind (.pure (.bind (ih.mono ?_))))
      · refine (Draw.always_yields _).mono fun q image => .bind (ih.mono ?_)
        rintro qs ⟨hlength, hrest⟩
        exact .pure ⟨congrArg Nat.succ hlength, .mutated image hrest⟩
      · rintro qs ⟨hlength, hrest⟩
        exact .pure ⟨congrArg Nat.succ hlength, .kept r hrest⟩

theorem always_withNewRule (rs : List Rule) :
    Draw.Always (withNewRule rs : Draw σ (List Rule)) fun qs =>
      ∃ i q, IsOfVocabulary q ∧ qs = rs.take i ++ q :: rs.drop i :=
  .bind (.below fun i => .bind (always_newRule.mono fun q hq => .pure ⟨i, q, hq, rfl⟩))

theorem always_withoutOne (least : Nat) (rs : List Rule) :
    Draw.Always (withoutOne least rs : Draw σ (List Rule)) fun qs =>
      qs = rs ∨ ∃ i, qs = rs.eraseIdx i := by
  rw [withoutOne]
  split
  · exact .bind (.below fun i => .pure (.inr ⟨i, rfl⟩))
  · exact .pure (.inl rfl)

theorem always_filledUp (n : Nat) (rs : List Rule) :
    Draw.Always (filledUp n rs : Draw σ (List Rule)) fun qs =>
      ∃ news, qs = rs ++ news ∧ news.length = n ∧ ∀ q ∈ news, IsOfVocabulary q := by
  induction n generalizing rs with
  | zero => exact .pure ⟨[], by simp⟩
  | succ n ih =>
      refine .bind (always_newRule.mono fun q hq => (ih (rs ++ [q])).mono ?_)
      rintro _ ⟨news, rfl, hlength, hnews⟩
      refine ⟨q :: news, by simp, congrArg Nat.succ hlength, ?_⟩
      exact List.forall_mem_cons.2 ⟨hq, hnews⟩

/-! ## Mutated systems -/

/-- What is known of mutated rules before they are cut to their bound. -/
structure Regrows (σ : Type) [RandomSource σ] (rates : Rates) (rs qs : List Rule) : Prop where
  lineage : ∃ missing ≤ 1, Descends σ rates missing rs qs
  least : rates.atLeast ≤ qs.length
  most : qs.length ≤ max (rs.length + 1) rates.atLeast

section Systems

variable {rates : Rates} {s : RuleSystem} {rs : List Rule}

theorem always_refilled {missing : Nat} (hm : missing ≤ 1)
    (h : Descends σ rates missing s.rules rs) (hlength : rs.length ≤ s.rules.length + 1) :
    Draw.Always
      (do return ⟨(← filledUp (rates.atLeast - rs.length) rs).take rates.atMost⟩ :
        Draw σ RuleSystem)
      fun t => ∃ qs, Regrows σ rates s.rules qs ∧ t.rules = qs.take rates.atMost := by
  refine .bind ((always_filledUp _ _).mono ?_)
  rintro _ ⟨news, rfl, hnews, hvocabulary⟩
  refine .pure ⟨rs ++ news, ⟨⟨missing, hm, h.append hvocabulary⟩, ?_, ?_⟩, rfl⟩
  · rw [List.length_append]
    omega
  · rw [List.length_append]
    omega

theorem always_thinned (h : Descends σ rates 0 s.rules rs)
    (hlength : rs.length ≤ s.rules.length + 1) :
    Draw.Always
      (do
        let rs ← if ← Draw.chance rates.deletion then withoutOne rates.atLeast rs else pure rs
        let rs ← filledUp (rates.atLeast - rs.length) rs
        return ⟨rs.take rates.atMost⟩ : Draw σ RuleSystem)
      fun t => ∃ qs, Regrows σ rates s.rules qs ∧ t.rules = qs.take rates.atMost := by
  refine .perhaps (.bind ((always_withoutOne _ _).mono ?_)) (.bind (.pure ?_))
  · rintro _ (rfl | ⟨i, rfl⟩)
    · exact always_refilled (Nat.zero_le 1) h hlength
    · obtain ⟨missing, hle, hrest⟩ := h.eraseIdx i
      exact always_refilled hle hrest ((List.length_eraseIdx_le rs i).trans hlength)
  · exact always_refilled (Nat.zero_le 1) h hlength

theorem always_mutated (rates : Rates) (s : RuleSystem) :
    Draw.Always (mutated rates s : Draw σ RuleSystem) fun t =>
      ∃ qs, Regrows σ rates s.rules qs ∧ t.rules = qs.take rates.atMost := by
  refine .bind ((always_mutatedRules rates s.rules).mono ?_)
  rintro rs ⟨hlength, h⟩
  refine .perhaps (.bind ((always_withNewRule rs).mono ?_)) (.bind (.pure ?_))
  · rintro _ ⟨i, q, hq, rfl⟩
    refine always_thinned (h.insert hq i) ?_
    rw [List.length_append, List.length_cons, List.length_take, List.length_drop]
    omega
  · exact always_thinned h (by omega)

end Systems

/-- What is known of a mutated system. -/
structure IsDescendantOf (σ : Type) [RandomSource σ] (rates : Rates) (s t : RuleSystem) :
    Prop where
  /-- There are as many rules as asked for, as far as they are allowed. -/
  least : min (max 1 rates.leastRules) (max 1 rates.mostRules) ≤ (t.size : Int)
  /-- There are no more rules than allowed, and at most one more than there were or as many as
  asked for. -/
  most : (t.size : Int) ≤ min (max 1 rates.mostRules) (max (s.size + 1) (max 1 rates.leastRules))
  /-- There is at most one rule less, as far as they are allowed. -/
  one_less : min ((s.size : Int) - 1) (max 1 rates.mostRules) ≤ t.size
  each : ∀ q ∈ t.rules, ComesFrom σ rates s.rules q
  /-- Before the rules are cut to the bound, at most one is missing. -/
  lineage : ∃ qs, ∃ missing ≤ 1, Descends σ rates missing s.rules qs ∧
    t.rules = qs.take (max 1 rates.mostRules).toNat

/-- What a mutated system descends from, whatever is drawn. -/
theorem mutated_descends (rates : Rates) (s : RuleSystem) (source : σ) :
    IsDescendantOf σ rates s ((mutated rates s).run source).1 := by
  obtain ⟨qs, ⟨⟨missing, hm, hdescends⟩, least, most⟩, hcut⟩ := always_mutated rates s source
  have hsize : ((mutated rates s).run source).1.size = min rates.atMost qs.length := by
    rw [RuleSystem.size, hcut, List.length_take]
  have hlost := hdescends.length_le
  constructor
  case least =>
    rw [← rates.cast_atLeast, ← rates.cast_atMost, hsize]
    omega
  case most =>
    rw [← rates.cast_atLeast, ← rates.cast_atMost, hsize, RuleSystem.size]
    omega
  case one_less =>
    rw [← rates.cast_atMost, hsize, RuleSystem.size]
    omega
  case each =>
    intro q hq
    rw [hcut] at hq
    exact hdescends.comesFrom (List.mem_of_mem_take hq)
  case lineage => exact ⟨qs, missing, hm, hdescends, hcut⟩

end Mycelium.Breeding
