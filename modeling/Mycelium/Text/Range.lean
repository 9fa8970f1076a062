/-!
# Ranges of code points

A class of characters is a sorted list of ranges of code points, each given by
its first and its last member.
-/

namespace Mycelium.Text

/-- A sorted list of disjoint ranges, each as its first and last member. -/
abbrev Ranges := List (Nat × Nat)

/-- Whether a number lies in one of the ranges.  As they are sorted, the search
ends at the first range above it. -/
def inRanges : Ranges → Nat → Bool
  | [], _ => false
  | (first, last) :: rest, n => if n < first then false else n ≤ last || inRanges rest n

/-- A number in one of the ranges lies between the ends of that range. -/
theorem exists_mem_of_inRanges {rs : Ranges} {n : Nat} (h : inRanges rs n = true) :
    ∃ r ∈ rs, r.1 ≤ n ∧ n ≤ r.2 := by
  induction rs with
  | nil => simp [inRanges] at h
  | cons r rest ih =>
      rw [inRanges] at h
      split at h
      · simp at h
      · next hlt =>
          simp only [Bool.or_eq_true, decide_eq_true_eq] at h
          rcases h with h | h
          · exact ⟨r, by simp, by omega, h⟩
          · obtain ⟨q, hq, hb⟩ := ih h
            exact ⟨q, by simp [hq], hb⟩

end Mycelium.Text
