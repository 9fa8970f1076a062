import Mycelium.Breeding.Evolution
import Mycelium.Proofs.Crossings
import Mycelium.Proofs.Descent

/-!
# What comes out of breeding

One lemma for each step of breeding says what its results are, whatever is drawn; those for
crossover and mutation follow from what `Completes` and `Descends` say.  The rules of a system
that is bred come from its stock, which are the rules of the systems in the pool and those of
the vocabulary: each rule is one of the stock or a mutant of one (`IsBredFrom`).
`always_evolved` puts the steps together.
-/

namespace Mycelium

variable {σ : Type} [RandomSource σ]

/-! ## Pools -/

namespace Pool

theorem ofScored_eq_map (rates : Rates) (xs : List Scored) :
    ofScored rates xs = xs.map fun x => ⟨x.system, admissible (weight rates x.fitness)⟩ := by
  have hadded : ∀ pool : Pool,
      xs.foldl (fun pool x => pool.add x.system (weight rates x.fitness)) pool =
        pool ++ xs.map fun x => ⟨x.system, admissible (weight rates x.fitness)⟩ := by
    induction xs with
    | nil => exact fun pool => (List.append_nil pool).symm
    | cons x xs ih =>
        intro pool
        rw [List.foldl_cons, ih, add, List.map_cons, List.append_assoc]
        rfl
  exact hadded []

theorem system_ofScored (rates : Rates) (xs : List Scored) :
    (ofScored rates xs).map Candidate.system = xs.map Scored.system := by
  rw [ofScored_eq_map, List.map_map]
  rfl

theorem reach_mem (mark : Float) (last : RuleSystem) (sum : Float) (pool : Pool) :
    reach mark last sum pool ∈ last :: pool.map Candidate.system := by
  induction pool generalizing sum with
  | nil => exact List.mem_singleton_self last
  | cons c rest ih =>
      rw [reach]
      split
      · exact List.mem_cons_of_mem _ List.mem_cons_self
      · rcases List.mem_cons.1 (ih (sum + c.weight)) with heq | hm
        · rw [heq]
          exact List.mem_cons_self
        · exact List.mem_cons_of_mem _ (List.mem_cons_of_mem _ hm)

/-- Whatever the weights are, a parent is one of the pool. -/
theorem always_select (pool : Pool) (h : pool ≠ []) :
    Draw.Always (pool.select h : Draw σ RuleSystem) (· ∈ pool.map Candidate.system) := by
  rw [select]
  split
  · exact .bind (.pick fun c => .pure (List.mem_map_of_mem c.2))
  · refine .bind (.fraction fun x => .pure ?_)
    rcases List.mem_cons.1 (reach_mem (x * pool.total) (pool.getLast h).system 0.0 pool) with
      heq | hm
    · rw [heq]
      exact List.mem_map_of_mem (List.getLast_mem h)
    · exact hm

end Pool

namespace Breeding

/-! ## The stock -/

/-- The rules that breeding begins with are those of the parents and of the vocabulary. -/
def IsStock (parents : List RuleSystem) (r : Rule) : Prop :=
  (∃ s ∈ parents, r ∈ s.rules) ∨ IsOfVocabulary r

/-- A rule that is bred is one of the stock, or a mutant of one. -/
inductive IsBredFrom (parents : List RuleSystem) (q : Rule) : Prop where
  | kept (stock : IsStock parents q)
  | mutant {r : Rule} (stock : IsStock parents r) (mutant : IsMutantOf r q)

section Stock

variable {parents : List RuleSystem} {s : RuleSystem} {q : Rule}

theorem IsStock.trans (h : ∀ r ∈ s.rules, IsStock parents r) (hq : IsStock [s] q) :
    IsStock parents q := by
  rcases hq with ⟨t, ht, hqt⟩ | hnew
  · exact h q (List.mem_singleton.1 ht ▸ hqt)
  · exact .inr hnew

theorem IsBredFrom.trans (h : ∀ r ∈ s.rules, IsStock parents r) (hq : IsBredFrom [s] q) :
    IsBredFrom parents q := by
  cases hq with
  | kept stock => exact .kept (stock.trans h)
  | mutant stock hmutant => exact .mutant (stock.trans h) hmutant

theorem ComesFrom.isBredFrom {rates : Rates} (h : ComesFrom σ rates s.rules q) :
    IsBredFrom [s] q := by
  cases h with
  | kept mem => exact .kept (.inl ⟨s, List.mem_singleton_self s, mem⟩)
  | mutated mem image =>
      have hmutant := image.of_always (always_mutatedRule rates _)
      exact .mutant (.inl ⟨s, List.mem_singleton_self s, mem⟩) hmutant
  | new vocabulary => exact .kept (.inr vocabulary)

end Stock

/-! ## Children -/

/-- The rules of a child are of its parents or of the vocabulary. -/
theorem always_crossed (rates : Rates) (a b : RuleSystem) :
    Draw.Always (crossed rates a b : Draw σ RuleSystem) fun s =>
      ∀ r ∈ s.rules, IsStock [a, b] r := by
  intro source
  obtain ⟨added, hcompletes, hchild⟩ := exists_completes rates a b source
  intro r hr
  rcases hchild with ⟨-, q, hq, hchild⟩ | ⟨-, hchild⟩
  · rw [hchild, List.mem_singleton] at hr
    exact .inr (hr ▸ hq)
  · rw [hchild] at hr
    have hparents := (inTurn_perm _ _).subset (hcompletes.subset (List.mem_of_mem_take hr))
    rcases List.mem_append.1 hparents with ha | hb
    · exact .inl ⟨a, by simp, ha⟩
    · exact .inl ⟨b, by simp, hb⟩

/-- A mutated system has at least one rule and keeps to its bound. -/
theorem always_mutated_bred (rates : Rates) (s : RuleSystem) :
    Draw.Always (mutated rates s : Draw σ RuleSystem) fun t =>
      t.rules ≠ [] ∧ t.rules.length ≤ rates.atMost ∧ ∀ q ∈ t.rules, IsBredFrom [s] q := by
  refine (always_mutated rates s).mono ?_
  rintro t ⟨qs, ⟨⟨missing, -, hdescends⟩, least, -⟩, hcut⟩
  have hleast := rates.one_le_atLeast
  have hmost := rates.one_le_atMost
  refine ⟨?_, ?_, fun q hq => ?_⟩
  · rw [hcut, ← List.length_pos_iff, List.length_take]
    omega
  · rw [hcut]
    exact List.length_take_le _ _
  · rw [hcut] at hq
    exact (hdescends.comesFrom (List.mem_of_mem_take hq)).isBredFrom

/-! ## The budget -/

theorem withinBudget_prefix (rates : Rates) (s : RuleSystem) :
    (withinBudget rates s).rules <+: s.rules := by
  rw [withinBudget]
  split
  · exact List.prefix_refl _
  · exact List.take_prefix _ _

/-- A system within its budget has one rule, or a program that keeps to it. -/
theorem withinBudget_ne_nil (rates : Rates) {s : RuleSystem} (h : s.rules ≠ []) :
    (withinBudget rates s).rules ≠ [] ∧ (0 < rates.budget →
      (withinBudget rates s).rules.length = 1 ∨
        ((withinBudget rates s).program.length : Int) ≤ rates.budget) := by
  have hpos : 0 < s.rules.length := List.length_pos_iff.2 h
  have hfirst {k : Nat} (hk : 0 < k) : (s.first k).rules ≠ [] := by
    rw [RuleSystem.first, ← List.length_pos_iff, List.length_take]
    omega
  rw [withinBudget]
  split
  · next hfree => exact ⟨h, fun hbudget => absurd hfree (Int.not_le.2 hbudget)⟩
  · cases hlongest : s.longest? (keepsTo rates.budget) s.size with
    | none =>
        refine ⟨hfirst Nat.one_pos, fun _ => .inl ?_⟩
        rw [Option.getD_none, RuleSystem.first, List.length_take]
        omega
    | some k =>
        obtain ⟨hk, -, hfits, -⟩ := RuleSystem.longest?_eq_some hlongest
        exact ⟨hfirst hk, fun _ => .inr (of_decide_eq_true hfits)⟩

/-! ## Evolution -/

/-- What is known of a system that is bred from parents. -/
structure IsOffspringOf (rates : Rates) (parents : List RuleSystem) (s : RuleSystem) : Prop where
  /-- There is at least one rule. -/
  ne_nil : s.rules ≠ []
  /-- There are no more rules than allowed. -/
  length_le : s.rules.length ≤ rates.atMost
  /-- If there is a budget, there is only one rule or the program keeps to it. -/
  within : 0 < rates.budget → s.rules.length = 1 ∨ (s.program.length : Int) ≤ rates.budget
  /-- Every rule comes from the parents or from the vocabulary. -/
  bred : ∀ q ∈ s.rules, IsBredFrom parents q

theorem always_bred (rates : Rates) (pool : Pool) (h : pool ≠ []) :
    Draw.Always (bred rates pool h : Draw σ RuleSystem)
      (IsOffspringOf rates (pool.map Candidate.system)) := by
  refine .bind ((pool.always_select h).mono fun a ha => ?_)
  refine .bind ((pool.always_select h).mono fun b hb => ?_)
  refine .bind ((always_crossed rates a b).mono fun s hs => ?_)
  refine .bind ((always_mutated_bred rates s).mono fun t ht => .pure ?_)
  obtain ⟨hne, hlength, hbred⟩ := ht
  have hstock : ∀ r ∈ s.rules, IsStock (pool.map Candidate.system) r := by
    intro r hr
    rcases hs r hr with ⟨p, hp, hrp⟩ | hnew
    · rcases List.mem_pair.1 hp with rfl | rfl
      · exact .inl ⟨p, ha, hrp⟩
      · exact .inl ⟨p, hb, hrp⟩
    · exact .inr hnew
  have hstart := withinBudget_prefix rates t
  obtain ⟨hkept, hwithin⟩ := withinBudget_ne_nil rates hne
  exact {
    ne_nil := hkept
    length_le := Nat.le_trans hstart.length_le hlength
    within := hwithin
    bred := fun q hq => (hbred q (hstart.subset hq)).trans hstock }

/-- What is known of the system of the next cycle, whatever the pool holds and whatever is
drawn. -/
theorem always_evolved (rates : Rates) (current : Scored) (lineage others : List Scored) :
    Draw.Always (evolved rates current lineage others : Draw σ RuleSystem)
      (IsOffspringOf rates ((current :: lineage ++ others).map Scored.system)) := by
  rw [← Pool.system_ofScored rates]
  exact always_bred rates _ _

end Breeding

end Mycelium
