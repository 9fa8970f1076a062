import Mathlib

/-!
# Rounding to a double

The result of an operation on doubles is a natural number of units with two bits that say
where the exact result lies above it.  It is shifted until no more than 53 bits are left, and
then rounded to the nearest number of units, a tie to the even one.

*Units.*  `Stands` says what a number with its two bits stands for.  A shift halves it
(`Stands.shiftRight`), and what it is rounded to is the nearest number
(`Stands.isNearest`), of which there is only one (`IsNearest.unique`).

*Doubles.*  `RoundsTo` says which numbers lie nearest to a double, and
`roundWithAccuracy_of_roundsTo` that rounding gives that double for each of them.  Just below a
power of two the units are half as long, and rounding carries into the next power.
-/

namespace Mycelium.Binary64

open Float.Model Float.Model.UnpackedFloat

/-! ## Units -/

/-- A number with its two bits stands for a number of units: the first bit is a half, the
second one says that there is more. -/
def Stands : ExtendedMantissa → ℚ → Prop
  | ⟨m, false, false⟩, u => u = m
  | ⟨m, false, true⟩, u => m < u ∧ u < m + 1 / 2
  | ⟨m, true, false⟩, u => u = m + 1 / 2
  | ⟨m, true, true⟩, u => m + 1 / 2 < u ∧ u < m + 1

/-- The nearest number of units, the even one of two that are. -/
structure IsNearest (k : Nat) (u : ℚ) : Prop where
  low : (k : ℚ) - 1 / 2 ≤ u
  high : u ≤ k + 1 / 2
  even : u = k - 1 / 2 ∨ u = k + 1 / 2 → k % 2 = 0

theorem IsNearest.unique {k l : Nat} {u : ℚ} (hk : IsNearest k u) (hl : IsNearest l u) :
    k = l := by
  wlog hle : k ≤ l generalizing k l
  · exact (this hl hk (Nat.le_of_not_le hle)).symm
  by_contra hne
  have hlow := hl.low
  have hhigh := hk.high
  have hnext : (l : ℚ) ≤ k + 1 := by linarith
  have hl : l = k + 1 := by
    have : l ≤ k + 1 := by exact_mod_cast hnext
    omega
  subst hl
  push_cast at hlow
  have htie : u = k + 1 / 2 := by linarith
  have hk2 := hk.even (.inr htie)
  have hl2 := ‹IsNearest (k + 1) u›.even (.inl (by push_cast; linarith))
  omega

namespace Stands

variable {em : ExtendedMantissa} {u : ℚ}

theorem le (h : Stands em u) : (em.mantissa : ℚ) ≤ u := by
  obtain ⟨m, _ | _, _ | _⟩ := em <;> simp only [Stands] at h <;> linarith

theorem lt (h : Stands em u) : u < em.mantissa + 1 := by
  obtain ⟨m, _ | _, _ | _⟩ := em <;> simp only [Stands] at h <;> linarith

theorem shiftRightOne (h : Stands em u) : Stands em.shiftRightOne (u / 2) := by
  obtain ⟨m, roundBit, stickyBit⟩ := em
  have hm : (m : ℚ) = 2 * (m / 2 : Nat) + (m % 2 : Nat) := by
    exact_mod_cast (Nat.div_add_mod m 2).symm
  rcases Nat.mod_two_eq_zero_or_one m with h2 | h2 <;>
    cases roundBit <;> cases stickyBit <;>
    simp only [Stands, ExtendedMantissa.shiftRightOne, h2, bne_self_eq_false, Bool.or_false,
      Bool.or_true, Bool.or_self, Nat.reduceBNe, Nat.cast_zero, Nat.cast_one] at h hm ⊢
  all_goals first | linarith | constructor <;> linarith

theorem shiftRight (h : Stands em u) (k : Nat) : Stands (em >>> k) (u / 2 ^ k) := by
  induction k with
  | zero => rwa [pow_zero, div_one]
  | succ k ih =>
      have hstep := ih.shiftRightOne
      rwa [div_div, ← pow_succ] at hstep

theorem isNearest (h : Stands em u) : IsNearest em.roundedMantissa u := by
  obtain ⟨m, roundBit, stickyBit⟩ := em
  cases roundBit with
  | false =>
      have hround : ExtendedMantissa.roundedMantissa ⟨m, false, stickyBit⟩ = m := by
        cases stickyBit <;> rfl
      have hbounds : (m : ℚ) ≤ u ∧ u < m + 1 / 2 := by
        cases stickyBit <;> simp only [Stands] at h <;> constructor <;> linarith
      rw [hround]
      refine ⟨by linarith, hbounds.2.le, fun htie => ?_⟩
      rcases htie with htie | htie <;> linarith
  | true =>
      cases stickyBit with
      | false =>
          have hround : ExtendedMantissa.roundedMantissa ⟨m, true, false⟩ = m + m % 2 := rfl
          simp only [Stands] at h
          rw [hround, h]
          rcases Nat.mod_two_eq_zero_or_one m with h2 | h2
          · rw [h2]
            exact ⟨by simp; linarith, by simp, fun _ => h2⟩
          · rw [h2]
            exact ⟨by push_cast; linarith, by push_cast; linarith, fun _ => by omega⟩
      | true =>
          have hround : ExtendedMantissa.roundedMantissa ⟨m, true, true⟩ = m + 1 := rfl
          simp only [Stands] at h
          rw [hround]
          refine ⟨by push_cast; linarith, by push_cast; linarith, fun htie => ?_⟩
          push_cast at htie
          rcases htie with htie | htie <;> linarith

theorem roundedMantissa_eq (h : Stands em u) {k : Nat} (hk : IsNearest k u) :
    em.roundedMantissa = k :=
  h.isNearest.unique hk

end Stands

/-! ## Shifts -/

theorem targetExponent_eq (m : Nat) (e : Int) :
    Format.binary64.targetExponent (totalExponent m e) = max ((m.log2 : Int) + e - 52) (-1074) := by
  simp only [Format.targetExponent, totalExponent, Format.mantissaBits, Format.minExponent]
  norm_num
  omega

variable {m r : Nat} {a : Accuracy} {s : Sign}

/-- Where the exponent is not above its target, the shift leads to the target. -/
theorem shiftToTargetExponent_eq {e t : Int} (h : max ((m.log2 : Int) + e - 52) (-1074) = t)
    (he : e ≤ t) :
    shiftToTargetExponent .binary64 m e a =
      (ExtendedMantissa.ofMantissaAndAccuracy m a >>> (t - e).toNat, t) := by
  rw [shiftToTargetExponent, targetExponent_eq, h, shiftToExponent]
  exact Prod.ext rfl (by simp only; omega)

theorem mantissa_ofMantissaAndAccuracy (m : Nat) (a : Accuracy) :
    (ExtendedMantissa.ofMantissaAndAccuracy m a).mantissa = m := by
  rcases a with _ | o
  · rfl
  · cases o <;> rfl

theorem log2_le_of_lt {n : Nat} (h : m < 2 ^ (n + 1)) : m.log2 ≤ n := by
  rcases Nat.eq_zero_or_pos m with rfl | hpos
  · simp
  · exact Nat.lt_succ_iff.1 ((Nat.log2_lt hpos.ne').2 h)

/-- A number that has no more bits than fit stays as it is. -/
theorem shiftToTargetExponent_exact {t : Int} (hr : r < 2 ^ 53) (ht : -1074 ≤ t) :
    shiftToTargetExponent .binary64 r t .exact = (⟨r, false, false⟩, t) := by
  have hlog : r.log2 ≤ 52 := log2_le_of_lt hr
  have htarget : max ((r.log2 : Int) + t - 52) (-1074) ≤ t := by omega
  have hzero : (max ((r.log2 : Int) + t - 52) (-1074) - t).toNat = 0 := by omega
  rw [shiftToTargetExponent, targetExponent_eq, shiftToExponent, hzero]
  exact Prod.ext rfl (by simp)

theorem roundWithAccuracy_of_lt {em : ExtendedMantissa} {e t : Int}
    (h : shiftToTargetExponent .binary64 m e a = (em, t)) (hr : em.roundedMantissa = r)
    (hpos : 0 < r) (hlt : r < 2 ^ 53) (ht : -1074 ≤ t) :
    roundWithAccuracy .binary64 s m e a = .finite s r t hpos := by
  rw [roundWithAccuracy, h]
  simp only [hr, shiftToTargetExponent_exact hlt ht, hpos.ne', dite_false]

theorem roundWithAccuracy_of_eq {em : ExtendedMantissa} {e t : Int}
    (h : shiftToTargetExponent .binary64 m e a = (em, t)) (hr : em.roundedMantissa = 2 ^ 53)
    (ht : -1074 ≤ t) :
    roundWithAccuracy .binary64 s m e a = .finite s (2 ^ 52) (t + 1) (by decide) := by
  have hcarry : shiftToTargetExponent .binary64 (2 ^ 53) t .exact =
      (⟨2 ^ 52, false, false⟩, t + 1) := by
    rw [shiftToTargetExponent_eq (t := t + 1) (by rw [Nat.log2_two_pow]; omega) (by omega),
      add_sub_cancel_left]
    rfl
  rw [roundWithAccuracy, h]
  simp only [hr, hcarry]
  rfl

/-! ## Doubles -/

/-- The parts of a double that is not zero: fifty-three bits, or fewer at the least
exponent. -/
structure IsCanonical (m : Nat) (q : Int) : Prop where
  pos : 0 < m
  lt : m < 2 ^ 53
  least : -1074 ≤ q
  greatest : q ≤ 971
  full : 2 ^ 52 ≤ m ∨ q = -1074

/-- How far below a double the numbers reach that are rounded to it, in units.  Below a power
of two the next double is only half a unit away. -/
def reach (m : Nat) (q : Int) : ℚ := if m = 2 ^ 52 ∧ -1074 < q then 1 / 4 else 1 / 2

/-- A number is rounded to a double: no other double is nearer, and if one is as near, the
double is even. -/
structure RoundsTo (v : ℚ) (m : Nat) (q : Int) : Prop where
  low : m - reach m q ≤ v / 2 ^ q
  high : v / 2 ^ q ≤ m + 1 / 2
  odd : m % 2 = 1 → m - reach m q < v / 2 ^ q ∧ v / 2 ^ q < m + 1 / 2

theorem reach_le (m : Nat) (q : Int) : reach m q ≤ 1 / 2 := by
  unfold reach
  split <;> norm_num

theorem RoundsTo.isNearest {v : ℚ} {q : Int} (h : RoundsTo v m q) : IsNearest m (v / 2 ^ q) where
  low := by linarith [h.low, reach_le m q]
  high := h.high
  even htie := by
    by_contra hodd
    obtain ⟨hlow, hhigh⟩ := h.odd (by omega)
    have hreach := reach_le m q
    rcases htie with htie | htie <;> linarith

/-- The nearest number of units is the nearest double, if the units are not too long. -/
theorem IsNearest.roundsTo {v : ℚ} {k : Nat} {q : Int} (h : IsNearest k (v / 2 ^ q))
    (full : 2 ^ 52 ≤ v / 2 ^ q) : RoundsTo v k q where
  low := by
    unfold reach
    split
    · next hk =>
        rw [hk.1]
        push_cast
        linarith
    · exact h.low
  high := h.high
  odd hodd := by
    have hreach : reach k q = 1 / 2 := by
      rw [reach, if_neg]
      intro hk
      rw [hk.1] at hodd
      cases hodd
    have hlow : v / 2 ^ q ≠ k - 1 / 2 := fun htie => by have := h.even (.inl htie); omega
    have hhigh : v / 2 ^ q ≠ k + 1 / 2 := fun htie => by have := h.even (.inr htie); omega
    rw [hreach]
    exact ⟨lt_of_le_of_ne h.low hlow.symm, lt_of_le_of_ne h.high hhigh⟩

/-- A number of units that has one bit too many is a number of units twice as long. -/
theorem IsNearest.carried {v : ℚ} {q : Int} (h : IsNearest (2 ^ 53) (v / 2 ^ q)) (hq : -1074 ≤ q)
    (below : v / 2 ^ q < 2 ^ 53) : RoundsTo v (2 ^ 52) (q + 1) := by
  have hhalf : v / 2 ^ (q + 1) = v / 2 ^ q / 2 := by
    rw [zpow_add_one₀ two_ne_zero, div_div]
  have hlow := h.low
  push_cast at hlow
  refine ⟨?_, ?_, fun hodd => by cases hodd⟩
  · rw [reach, if_pos ⟨rfl, by omega⟩, hhalf]
    push_cast
    linarith
  · rw [hhalf]
    push_cast
    linarith

section Magnitude

variable {v : ℚ} {e : Int}

theorem lt_two_zpow (h : Stands (.ofMantissaAndAccuracy m a) (v / 2 ^ e)) :
    v < 2 ^ ((m.log2 : Int) + e + 1) := by
  have hpos : (0 : ℚ) < 2 ^ e := by positivity
  have hlog : (m : ℚ) + 1 ≤ 2 ^ (m.log2 + 1) := by exact_mod_cast Nat.lt_log2_self
  have hlt := h.lt
  rw [mantissa_ofMantissaAndAccuracy, div_lt_iff₀ hpos] at hlt
  calc v < (m + 1) * 2 ^ e := hlt
    _ ≤ 2 ^ (m.log2 + 1) * 2 ^ e := by gcongr
    _ = 2 ^ ((m.log2 : Int) + e + 1) := by
        rw [← zpow_natCast, ← zpow_add₀ two_ne_zero]
        congr 1
        omega

theorem two_zpow_le (h : Stands (.ofMantissaAndAccuracy m a) (v / 2 ^ e)) (hne : m ≠ 0) :
    2 ^ ((m.log2 : Int) + e) ≤ v := by
  have hpos : (0 : ℚ) < 2 ^ e := by positivity
  have hlog : (2 : ℚ) ^ m.log2 ≤ m := by exact_mod_cast Nat.log2_self_le hne
  have hle := h.le
  rw [mantissa_ofMantissaAndAccuracy, le_div_iff₀ hpos] at hle
  calc (2 : ℚ) ^ ((m.log2 : Int) + e) = 2 ^ m.log2 * 2 ^ e := by
        rw [zpow_add₀ two_ne_zero, zpow_natCast]
    _ ≤ m * 2 ^ e := by gcongr
    _ ≤ v := hle

theorem zpow_le_zpow_of_nonpos {a b : ℚ} (hb : 0 < b) (hab : b ≤ a) (he : e ≤ 0) :
    a ^ e ≤ b ^ e := by
  have hneg : b ^ (-e) ≤ a ^ (-e) := zpow_le_zpow_left₀ (by omega) hb.le hab
  have ha := hb.trans_le hab
  rw [zpow_neg, zpow_neg] at hneg
  exact (inv_le_inv₀ (by positivity) (by positivity)).1 hneg

/-- A shift to a greater exponent changes the units. -/
theorem Stands.shiftTo {em : ExtendedMantissa} {t : Int} (h : Stands em (v / 2 ^ e))
    (he : e ≤ t) : Stands (em >>> (t - e).toNat) (v / 2 ^ t) := by
  have hshift := h.shiftRight (t - e).toNat
  rw [div_div, ← zpow_natCast, ← zpow_add₀ two_ne_zero, Int.toNat_of_nonneg (by omega),
    add_sub_cancel] at hshift
  exact hshift

/-- The number of the first bit of a number that is rounded to a double with fifty-three
bits. -/
theorem log2_of_roundsTo {k : Nat} {q : Int} (hk : IsCanonical k q) (hfull : 2 ^ 52 ≤ k)
    (hstands : Stands (.ofMantissaAndAccuracy m a) (v / 2 ^ e))
    (he : e ≤ max ((m.log2 : Int) + e - 52) (-1074)) (hv : RoundsTo v k q) :
    m.log2 + e = 51 + q ∨ m.log2 + e = 52 + q := by
  have hpos : (0 : ℚ) < 2 ^ q := by positivity
  have hlow : (2 : ℚ) ^ (51 + q) ≤ v := by
    have hk52 : (2 : ℚ) ^ 52 ≤ k := by exact_mod_cast hfull
    have hunits : (2 : ℚ) ^ 51 ≤ v / 2 ^ q := by
      have hnear := hv.isNearest.low
      have hhalf : (2 : ℚ) ^ 51 + 1 / 2 ≤ 2 ^ 52 := by norm_num
      linarith
    rw [le_div_iff₀ hpos] at hunits
    rwa [zpow_add₀ two_ne_zero, show (2 : ℚ) ^ (51 : Int) = 2 ^ 51 by norm_cast]
  have hhigh : v < (2 : ℚ) ^ (53 + q) := by
    have hk53 : (k : ℚ) + 1 ≤ 2 ^ 53 := by exact_mod_cast hk.lt
    have hunits : v / 2 ^ q < 2 ^ 53 := by linarith [hv.high]
    rw [div_lt_iff₀ hpos] at hunits
    rwa [zpow_add₀ two_ne_zero, show (2 : ℚ) ^ (53 : Int) = 2 ^ 53 by norm_cast]
  have hlt := (zpow_lt_zpow_iff_right₀ one_lt_two).1 (hlow.trans_lt (lt_two_zpow hstands))
  have hne : m ≠ 0 := by
    rintro rfl
    have hleast := hk.least
    rw [Nat.log2_zero] at hlt he
    omega
  have hgt := (zpow_lt_zpow_iff_right₀ one_lt_two).1 ((two_zpow_le hstands hne).trans_lt hhigh)
  omega

/-- The exponent to which a number is shifted that is rounded to a double is that of the
double, unless the number lies below a power of two. -/
theorem target_of_roundsTo {k : Nat} {q : Int} (hk : IsCanonical k q)
    (hstands : Stands (.ofMantissaAndAccuracy m a) (v / 2 ^ e))
    (he : e ≤ max ((m.log2 : Int) + e - 52) (-1074)) (hv : RoundsTo v k q) :
    max ((m.log2 : Int) + e - 52) (-1074) = q ∨
      max ((m.log2 : Int) + e - 52) (-1074) = q - 1 ∧ k = 2 ^ 52 ∧ -1074 < q ∧
        v / 2 ^ q < 2 ^ 52 := by
  have hleast := hk.least
  have hpos : (0 : ℚ) < 2 ^ q := by positivity
  by_cases hfull : 2 ^ 52 ≤ k
  · rcases log2_of_roundsTo hk hfull hstands he hv with hlog | hlog
    · rcases eq_or_lt_of_le hleast with hq | hq
      · left
        omega
      · have hbelow : v / 2 ^ q < 2 ^ 52 := by
          have hv := lt_two_zpow hstands
          rw [hlog, show 51 + q + 1 = 52 + q by ring, zpow_add₀ two_ne_zero] at hv
          rw [div_lt_iff₀ hpos]
          exact_mod_cast hv
        have hk52 : k = 2 ^ 52 := by
          have hnear := hv.isNearest.low
          have hlt : (k : ℚ) < 2 ^ 52 + 1 := by linarith
          have hlt' : k < 2 ^ 52 + 1 := by exact_mod_cast hlt
          omega
        exact .inr ⟨by omega, hk52, hq, hbelow⟩
    · left
      omega
  · have hq : q = -1074 := hk.full.resolve_left hfull
    left
    rcases Nat.eq_zero_or_pos m with rfl | hm
    · rw [Nat.log2_zero] at he ⊢
      omega
    · have hhigh : v < (2 : ℚ) ^ (52 + q) := by
        have hk52 : (k : ℚ) + 1 ≤ 2 ^ 52 := by exact_mod_cast Nat.lt_of_not_le hfull
        have hunits : v / 2 ^ q < 2 ^ 52 := by linarith [hv.high]
        rw [div_lt_iff₀ hpos] at hunits
        rwa [zpow_add₀ two_ne_zero, show (2 : ℚ) ^ (52 : Int) = 2 ^ 52 by norm_cast]
      have hle := two_zpow_le hstands hm.ne'
      have hlt := (zpow_lt_zpow_iff_right₀ one_lt_two).1 (hle.trans_lt hhigh)
      omega

/-- Rounding gives the double to which a number is rounded. -/
theorem roundWithAccuracy_of_roundsTo {k : Nat} {q : Int} (hk : IsCanonical k q)
    (hstands : Stands (.ofMantissaAndAccuracy m a) (v / 2 ^ e))
    (he : e ≤ max ((m.log2 : Int) + e - 52) (-1074)) (hv : RoundsTo v k q) :
    roundWithAccuracy .binary64 s m e a = .finite s k q hk.pos := by
  rcases target_of_roundsTo hk hstands he hv with ht | ⟨ht, rfl, hq, hbelow⟩
  · rw [ht] at he
    exact roundWithAccuracy_of_lt (shiftToTargetExponent_eq ht he)
      ((hstands.shiftTo he).roundedMantissa_eq hv.isNearest) hk.pos hk.lt hk.least
  · rw [ht] at he
    have hhalf : v / 2 ^ (q - 1) = 2 * (v / 2 ^ q) := by
      rw [zpow_sub_one₀ two_ne_zero]
      field_simp
    have hlow := hv.low
    rw [reach, if_pos ⟨rfl, hq⟩] at hlow
    have hnear : IsNearest (2 ^ 53) (v / 2 ^ (q - 1)) := by
      rw [hhalf]
      refine ⟨?_, ?_, fun _ => by decide⟩ <;> push_cast at hlow ⊢ <;> linarith
    have hround := roundWithAccuracy_of_eq (s := s) (shiftToTargetExponent_eq ht he)
      ((hstands.shiftTo he).roundedMantissa_eq hnear) (by omega)
    simpa using hround

/-- A number with a first bit above the least exponent is rounded to fifty-three bits. -/
theorem exists_roundWithAccuracy (hstands : Stands (.ofMantissaAndAccuracy m a) (v / 2 ^ e))
    (hm : m ≠ 0) (he : 52 ≤ m.log2) (hleast : -1022 ≤ m.log2 + e) :
    ∃ k q, ∃ hpos : 0 < k, roundWithAccuracy .binary64 s m e a = .finite s k q hpos ∧
      2 ^ 52 ≤ k ∧ k < 2 ^ 53 ∧ -1074 ≤ q ∧ RoundsTo v k q := by
  let t : Int := m.log2 + e - 52
  have ht : max ((m.log2 : Int) + e - 52) (-1074) = t := by omega
  have hshift := shiftToTargetExponent_eq (a := a) ht (by omega)
  have hstands' := hstands.shiftTo (show e ≤ t by omega)
  let r := (ExtendedMantissa.ofMantissaAndAccuracy m a >>> (t - e).toNat).roundedMantissa
  have hnear : IsNearest r (v / 2 ^ t) := hstands'.isNearest
  have hpos : (0 : ℚ) < 2 ^ t := by positivity
  have hlow : (2 : ℚ) ^ 52 ≤ v / 2 ^ t := by
    have hle := two_zpow_le hstands hm
    rw [show (m.log2 : Int) + e = 52 + t by omega, zpow_add₀ two_ne_zero] at hle
    rw [le_div_iff₀ hpos]
    exact_mod_cast hle
  have hhigh : v / 2 ^ t < (2 : ℚ) ^ 53 := by
    have hlt := lt_two_zpow hstands
    rw [show (m.log2 : Int) + e + 1 = 53 + t by omega, zpow_add₀ two_ne_zero] at hlt
    rw [div_lt_iff₀ hpos]
    exact_mod_cast hlt
  have hr52 : 2 ^ 52 ≤ r := by
    have hlt : (2 : ℚ) ^ 52 < r + 1 := by linarith [hnear.high]
    have hlt' : 2 ^ 52 < r + 1 := by exact_mod_cast hlt
    omega
  have hr53 : r ≤ 2 ^ 53 := by
    have hlt : (r : ℚ) < 2 ^ 53 + 1 := by linarith [hnear.low]
    have hlt' : r < 2 ^ 53 + 1 := by exact_mod_cast hlt
    omega
  rcases Nat.eq_or_lt_of_le hr53 with hr | hr
  · exact ⟨2 ^ 52, t + 1, by decide, roundWithAccuracy_of_eq hshift hr (by omega), le_rfl,
      by decide, by omega, (hr ▸ hnear).carried (by omega) hhigh⟩
  · exact ⟨r, t, by omega, roundWithAccuracy_of_lt hshift rfl (by omega) hr (by omega), hr52, hr,
      by omega, hnear.roundsTo hlow⟩

end Magnitude

/-! ## Exact results -/

theorem log2_shiftLeft (hm : m ≠ 0) (k : Nat) : (m <<< k).log2 = m.log2 + k := by
  rw [Nat.shiftLeft_eq]
  refine (Nat.log2_eq_iff (Nat.mul_ne_zero hm (by positivity))).2 ⟨?_, ?_⟩
  · rw [Nat.pow_add]
    exact Nat.mul_le_mul_right _ (Nat.log2_self_le hm)
  · rw [Nat.add_right_comm, Nat.pow_add]
    exact Nat.mul_lt_mul_of_pos_right Nat.lt_log2_self (by positivity)

/-- A natural number of units is rounded to fifty-three bits, if its first bit stands above the
least exponent. -/
theorem exists_round {e : Int} (hm : m ≠ 0) (hleast : -1022 ≤ m.log2 + e) :
    ∃ k q, ∃ hpos : 0 < k, UnpackedFloat.round .binary64 s m e = .finite s k q hpos ∧
      2 ^ 52 ≤ k ∧ k < 2 ^ 53 ∧ -1074 ≤ q := by
  let t : Int := m.log2 + e - 52
  have ht : Format.binary64.targetExponent (totalExponent m e) = t := by
    rw [targetExponent_eq]
    omega
  let k := (e - t).toNat
  have hlog := log2_shiftLeft hm k
  have hstands : Stands (.ofMantissaAndAccuracy (m <<< k) .exact)
      ((m <<< k : Nat) * 2 ^ (e - k) / 2 ^ (e - k)) :=
    mul_div_cancel_right₀ _ (by positivity)
  have hne : m <<< k ≠ 0 := by
    rw [Nat.shiftLeft_eq]
    positivity
  obtain ⟨k, q, hpos, hround, hlow, hhigh, hleast, -⟩ :=
    exists_roundWithAccuracy (s := s) hstands hne (by omega) (by omega)
  rw [UnpackedFloat.round, ht]
  exact ⟨k, q, hpos, hround, hlow, hhigh, hleast⟩

end Mycelium.Binary64
