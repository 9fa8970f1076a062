import Mycelium.Proofs.Fitting
import Mycelium.Proofs.Offspring

/-!
# What a budget leaves

A system that is bred loses rules at its end until its program keeps to the budget, and one rule is
always kept.  `withinBudget_isGreatest` says that no more is lost than has to be.

The search stops at the first start that keeps to the budget, the longest ones tried first.  That
this decides about all starts is due to the programs: every rule makes a program longer
(`Publication.fits_first_iff`).
-/

namespace Mycelium.Breeding

open Publication (fittingSizes)

variable {rates : Rates} {s : RuleSystem}

/-- The program of a system is not longer than a budget. -/
def IsAffordable (budget : Int) (s : RuleSystem) : Prop := (s.program.length : Int) ≤ budget

theorem IsAffordable.of_length_le {budget : Int} (s t : RuleSystem) (h : IsAffordable budget s)
    (hle : t.program.length ≤ s.program.length) : IsAffordable budget t :=
  (Int.ofNat_le.2 hle).trans h

theorem keepsTo_iff {budget : Int} : keepsTo budget s = true ↔ IsAffordable budget s :=
  decide_eq_true_iff

/-- Either the longest start remains that keeps to the budget, or none does and one rule remains. -/
theorem withinBudget_eq_first (hb : 0 < rates.budget) :
    (∃ n, IsGreatest (fittingSizes (IsAffordable rates.budget) s) n ∧
      withinBudget rates s = s.first n) ∨
    (fittingSizes (IsAffordable rates.budget) s = ∅ ∧ withinBudget rates s = s.first 1) := by
  have hkeeps : (fun t => keepsTo rates.budget t = true) = IsAffordable rates.budget :=
    funext fun t => propext keepsTo_iff
  have hall : ∀ m ∈ fittingSizes (fun t => keepsTo rates.budget t = true) s, m ≤ s.size :=
    fun m hm => hm.2.1
  rw [withinBudget, if_neg (Int.not_le.2 hb), ← hkeeps]
  cases hlongest : s.longest? (keepsTo rates.budget) s.size with
  | none => exact .inr ⟨Publication.fittingSizes_of_longest hall hlongest, rfl⟩
  | some n => exact .inl ⟨n, Publication.isGreatest_of_longest hall le_rfl hlongest, rfl⟩

theorem size_first {n : Nat} (h : n ≤ s.size) : (s.first n).size = n := by
  rw [RuleSystem.size, RuleSystem.first, List.length_take]
  exact Nat.min_eq_left h

/-- A system that keeps to the budget stays as it is. -/
theorem withinBudget_of_isAffordable (hb : 0 < rates.budget) (hs : s.rules ≠ [])
    (h : IsAffordable rates.budget s) : withinBudget rates s = s := by
  have hall : s.size ∈ fittingSizes (IsAffordable rates.budget) s :=
    ⟨List.length_pos_iff.2 hs, le_rfl, s.first_size.symm ▸ h⟩
  rcases withinBudget_eq_first (s := s) hb with ⟨n, hgreatest, heq⟩ | ⟨hempty, -⟩
  · rw [heq, Nat.le_antisymm hgreatest.1.2.1 (hgreatest.2 hall), s.first_size]
  · exact absurd hall (Set.eq_empty_iff_forall_notMem.1 hempty s.size)

/-- One rule stays as it is. -/
theorem withinBudget_of_size (hb : 0 < rates.budget) (hs : s.size = 1) :
    withinBudget rates s = s := by
  have hone : s.first 1 = s := hs ▸ s.first_size
  rcases withinBudget_eq_first (s := s) hb with ⟨n, hgreatest, heq⟩ | ⟨-, heq⟩
  · obtain ⟨hpos, hle, -⟩ := hgreatest.1
    rw [heq, show n = 1 by omega, hone]
  · rw [heq, hone]

/-- A start of a system remains, and the longest one that keeps to the budget if there is any.  The
starts that keep to it are then those that are no longer than what remains.  Otherwise the first
rule remains alone.  To cut to the budget again changes nothing. -/
theorem withinBudget_isGreatest (hs : s.rules ≠ []) (hb : 0 < rates.budget) :
    let rest := withinBudget rates s
    rest.rules ≠ [] ∧ rest.rules <+: s.rules ∧
      ((fittingSizes (IsAffordable rates.budget) s).Nonempty →
        IsGreatest (fittingSizes (IsAffordable rates.budget) s) rest.size ∧
          ∀ k, 0 < k → k ≤ s.size → (IsAffordable rates.budget (s.first k) ↔ k ≤ rest.size)) ∧
      (fittingSizes (IsAffordable rates.budget) s = ∅ → rest.rules = [s.rules.head hs]) ∧
      withinBudget rates rest = rest := by
  have hkept := (withinBudget_ne_nil rates hs).1
  refine ⟨hkept, withinBudget_prefix rates s, ?_⟩
  rcases withinBudget_eq_first (s := s) hb with ⟨n, hgreatest, heq⟩ | ⟨hempty, heq⟩
  · have hsize : (withinBudget rates s).size = n := by rw [heq, size_first hgreatest.1.2.1]
    refine ⟨fun _ => ⟨hsize ▸ hgreatest, fun k hpos hk => ?_⟩, fun hempty => ?_, ?_⟩
    · rw [hsize]
      exact Publication.fits_first_iff IsAffordable.of_length_le hgreatest hpos hk
    · exact absurd hgreatest.1 (Set.eq_empty_iff_forall_notMem.1 hempty n)
    · exact withinBudget_of_isAffordable hb hkept (heq ▸ hgreatest.1.2.2)
  · refine ⟨fun hsome => absurd hempty hsome.ne_empty, fun _ => ?_, ?_⟩
    · rw [heq, RuleSystem.first, List.take_one, List.head?_eq_some_head hs]
      rfl
    · have hpos : 1 ≤ s.size := List.length_pos_iff.2 hs
      exact withinBudget_of_size hb (by rw [heq, size_first hpos])

/-- A budget of sixty characters leaves the first of two rules. -/
theorem withinBudget_isGreatest_twoRules : Publication.twoRules.rules ≠ [] ∧
    0 < ({ budget := 60 } : Rates).budget ∧
    (withinBudget { budget := 60 } Publication.twoRules).rules =
      Publication.twoRules.rules.take 1 := by
  have hs : Publication.twoRules.rules ≠ [] := by decide
  have hb : 0 < ({ budget := 60 } : Rates).budget := by decide
  obtain ⟨hne, hstart, hsome, -⟩ := withinBudget_isGreatest hs hb
  have hone : IsAffordable 60 (Publication.twoRules.first 1) := keepsTo_iff.1 (by decide +kernel)
  have hboth : ¬ IsAffordable 60 (Publication.twoRules.first 2) := fun h =>
    absurd (keepsTo_iff.2 h) (by decide +kernel)
  obtain ⟨-, hstarts⟩ := hsome ⟨1, Nat.one_pos, by decide, hone⟩
  have hlt := mt (hstarts 2 (by decide) (by decide)).2 hboth
  have hpos : 0 < (withinBudget { budget := 60 } Publication.twoRules).size :=
    List.length_pos_iff.2 hne
  have hsize : (withinBudget { budget := 60 } Publication.twoRules).size = 1 := by omega
  exact ⟨hs, hb, hsize ▸ List.prefix_iff_eq_take.1 hstart⟩

end Mycelium.Breeding
