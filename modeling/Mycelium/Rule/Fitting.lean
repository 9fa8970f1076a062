import Mycelium.Rule.System

/-!
# The longest start that fits

A system that is too long loses rules at its end.
-/

namespace Mycelium.RuleSystem

/-- The first rules of a system. -/
def first (s : RuleSystem) (n : Nat) : RuleSystem := ⟨s.rules.take n⟩

/-- The greatest number of rules, at most `n` and at least one, with which a system
fits. -/
def longest? (s : RuleSystem) (fits : RuleSystem → Bool) : Nat → Option Nat
  | 0 => none
  | n + 1 => if fits (s.first (n + 1)) then some (n + 1) else longest? s fits n

/-- The longest start that fits does fit, and has at least one rule. -/
theorem longest?_eq_some {s : RuleSystem} {fits : RuleSystem → Bool} {n k : Nat}
    (h : s.longest? fits n = some k) :
    0 < k ∧ k ≤ n ∧ fits (s.first k) = true ∧ ∀ m, k < m → m ≤ n → fits (s.first m) = false := by
  induction n with
  | zero => simp [longest?] at h
  | succ n ih =>
      rw [longest?] at h
      split at h
      · next hf =>
          cases h
          exact ⟨Nat.succ_pos n, Nat.le_refl _, hf, fun m h1 h2 => by omega⟩
      · next hf =>
          obtain ⟨h1, h2, h3, h4⟩ := ih h
          refine ⟨h1, by omega, h3, fun m hm hn => ?_⟩
          by_cases he : m = n + 1
          · subst he
            simpa using hf
          · exact h4 m hm (by omega)

/-- Where there is no longest start, no start of at least one rule fits. -/
theorem longest?_eq_none {s : RuleSystem} {fits : RuleSystem → Bool} {n : Nat}
    (h : s.longest? fits n = none) : ∀ m, 0 < m → m ≤ n → fits (s.first m) = false := by
  induction n with
  | zero => intro m h1 h2; omega
  | succ n ih =>
      intro m h1 h2
      rw [longest?] at h
      split at h
      · cases h
      · next hf =>
          by_cases he : m = n + 1
          · subst he
            simpa using hf
          · exact ih h m h1 (by omega)

end Mycelium.RuleSystem
