import Mycelium.Number.Shortest
import Mycelium.Proofs.Rounding

/-!
# The shortest decimal of a double is rounded to it

A decimal is taken as the shortest one if it lies in the interval of the numbers that are
rounded to the double (`has_around_iff`).  If there is none with up to seventeen digits, the
nearest one with eighteen is taken, which lies in the interval too, as the first digit is not
found too far up (`zpow_leading_le`).  So the shortest decimal is always rounded to the double
(`roundsTo_shortest`).
-/

namespace Mycelium.Binary64

variable {m num den : Nat} {q : Int}

/-! ## Quotients -/

theorem zpow_eq_div {b : ℚ} (hb : b ≠ 0) (p : Int) : b ^ p = b ^ p.toNat / b ^ (-p).toNat := by
  rw [← zpow_natCast, ← zpow_natCast, ← zpow_sub₀ hb]
  congr 1
  omega

theorem ratio_eq (m : Nat) (q : Int) : ((ratio m q).1 : ℚ) / (ratio m q).2 = m * 2 ^ q := by
  rw [zpow_eq_div two_ne_zero, ratio]
  simp only [Nat.pow_eq]
  push_cast
  rw [mul_div_assoc]

/-! ## The interval -/

theorem low_around (hm : 0 < m) (q : Int) :
    ((Interval.around m q).low : ℚ) = 4 * (m - reach m q) * 2 ^ q.toNat := by
  have hle : (if m = 2 ^ 52 && -1074 < q then 1 else 2) * 2 ^ q.toNat ≤ 4 * m * 2 ^ q.toNat :=
    Nat.mul_le_mul_right _ (by split <;> omega)
  simp only [Interval.around, Nat.pow_eq]
  rw [Nat.cast_sub hle, reach]
  simp only [Bool.and_eq_true, decide_eq_true_eq]
  split <;> push_cast <;> ring

theorem high_around (m : Nat) (q : Int) :
    ((Interval.around m q).high : ℚ) = 4 * (m + 1 / 2) * 2 ^ q.toNat := by
  simp only [Interval.around, Nat.pow_eq]
  push_cast
  ring

theorem den_around (m : Nat) (q : Int) :
    ((Interval.around m q).den : ℚ) = 4 * 2 ^ (-q).toNat := by
  simp only [Interval.around, Nat.pow_eq]
  push_cast
  rfl

/-- An end of the interval is compared with a quotient in units. -/
theorem le_around_iff (num : Nat) {x : ℚ} {n : Nat} (hn : (n : ℚ) = 4 * x * 2 ^ q.toNat)
    (hden : 0 < den) :
    (n * den ≤ num * (Interval.around m q).den ↔ x ≤ (num : ℚ) / den / 2 ^ q) ∧
      (num * (Interval.around m q).den ≤ n * den ↔ (num : ℚ) / den / 2 ^ q ≤ x) := by
  have hpos : (0 : ℚ) < den := by exact_mod_cast hden
  have hunit : (num : ℚ) / den / 2 ^ q = num * 2 ^ (-q).toNat / (den * 2 ^ q.toNat) := by
    rw [zpow_eq_div two_ne_zero q]
    field_simp
  rw [hunit, le_div_iff₀ (by positivity), div_le_iff₀ (by positivity), ← Nat.cast_le (α := ℚ),
    ← Nat.cast_le (α := ℚ), Nat.cast_mul, Nat.cast_mul, den_around, hn]
  constructor <;> constructor <;> intro h <;> linarith

/-- A quotient lies in the interval around a double if it is rounded to it. -/
theorem has_around_iff (hm : 0 < m) (hden : 0 < den) :
    (Interval.around m q).has num den = true ↔ RoundsTo (num / den) m q := by
  obtain ⟨hlow, hlow'⟩ := le_around_iff (m := m) num (low_around hm q) hden
  obtain ⟨hhigh', hhigh⟩ := le_around_iff (m := m) num (high_around m q) hden
  have hclosed : (Interval.around m q).closed = (m % 2 == 0) := rfl
  rw [Interval.has, hclosed]
  rcases Nat.mod_two_eq_zero_or_one m with h2 | h2
  · simp only [h2, beq_self_eq_true, if_true, Bool.and_eq_true, decide_eq_true_eq, hlow, hhigh]
    exact ⟨fun ⟨low, high⟩ => ⟨low, high, by omega⟩, fun h => ⟨h.low, h.high⟩⟩
  · have hopen : (1 == 0) = false := rfl
    simp only [h2, hopen, Bool.false_eq_true, if_false, Bool.and_eq_true, decide_eq_true_eq,
      lt_iff_lt_of_le_iff_le hlow', lt_iff_lt_of_le_iff_le hhigh']
    exact ⟨fun ⟨low, high⟩ => ⟨low.le, high.le, fun _ => ⟨low, high⟩⟩, fun h => h.odd h2⟩

/-! ## The first digit -/

theorem powerAtMost_iff {p : Int} (hden : 0 < den) :
    powerAtMost p num den = true ↔ (10 : ℚ) ^ p ≤ num / den := by
  have hpos : (0 : ℚ) < den := by exact_mod_cast hden
  rw [powerAtMost, decide_eq_true_eq, zpow_eq_div (by norm_num) p, div_le_div_iff₀ (by positivity)
    hpos]
  simp only [Nat.pow_eq]
  exact_mod_cast Iff.rfl

theorem zpow_leadingFrom_le (hden : 0 < den) (fuel : Nat) {p : Int}
    (h : (10 : ℚ) ^ p ≤ num / den) : (10 : ℚ) ^ leadingFrom num den fuel p ≤ num / den := by
  induction fuel generalizing p with
  | zero => exact h
  | succ fuel ih =>
      rw [leadingFrom]
      split
      · next hp => exact ih ((powerAtMost_iff hden).1 hp)
      · exact h

/-- Powers of ten and of two are compared by a fraction that is near the logarithm of two. -/
theorem zpow_ten_le_of_mul_le {p x : Int} {i j : Nat} (hj : j ≠ 0) (h : j * p ≤ i * x)
    (hx : ((10 : ℚ) ^ i) ^ x ≤ ((2 : ℚ) ^ j) ^ x) : (10 : ℚ) ^ p ≤ 2 ^ x := by
  refine (pow_le_pow_iff_left₀ (by positivity) (by positivity) hj).1 ?_
  calc ((10 : ℚ) ^ p) ^ j = 10 ^ (j * p) := by rw [mul_comm, zpow_mul, zpow_natCast]
    _ ≤ 10 ^ (i * x) := zpow_le_zpow_right₀ (by norm_num) h
    _ = ((10 : ℚ) ^ i) ^ x := by rw [zpow_mul, zpow_natCast]
    _ ≤ ((2 : ℚ) ^ j) ^ x := hx
    _ = (2 ^ x) ^ j := by rw [← zpow_natCast, ← zpow_mul, mul_comm, zpow_mul, zpow_natCast]

/-- The exponent at which the first digit is looked for is not too great. -/
theorem zpow_ten_le {x : Int} (hleast : -1074 ≤ x) (hgreatest : x ≤ 1023) :
    (10 : ℚ) ^ (Int.fdiv (x * 30103) 100000 - 2) ≤ 2 ^ x := by
  rw [Int.fdiv_eq_ediv_of_nonneg _ (by norm_num)]
  rcases le_total 0 x with hx | hx
  · refine zpow_ten_le_of_mul_le (i := 3) (j := 10) (by decide) (by omega) ?_
    exact zpow_le_zpow_left₀ hx (by norm_num) (by norm_num)
  · refine zpow_ten_le_of_mul_le (i := 28) (j := 93) (by decide) (by omega) ?_
    exact zpow_le_zpow_of_nonpos (by norm_num) (by norm_num) hx

theorem den_ratio_pos (m : Nat) (q : Int) : 0 < (ratio m q).2 := Nat.pow_pos two_pos

/-- The first digit of a double is not found too far up. -/
theorem zpow_leading_le (h : IsCanonical m q) : (10 : ℚ) ^ leading m q ≤ m * 2 ^ q := by
  have hlog : m.log2 ≤ 52 := log2_le_of_lt h.lt
  have hleast := h.least
  have hgreatest := h.greatest
  have hstart : (10 : ℚ) ^ (Int.fdiv ((m.log2 + q) * 30103) 100000 - 2) ≤ m * 2 ^ q := by
    calc (10 : ℚ) ^ (Int.fdiv ((m.log2 + q) * 30103) 100000 - 2) ≤ 2 ^ ((m.log2 : Int) + q) :=
          zpow_ten_le (by omega) (by omega)
      _ = 2 ^ m.log2 * 2 ^ q := by rw [zpow_add₀ two_ne_zero, zpow_natCast]
      _ ≤ m * 2 ^ q := by
          have hself : (2 : ℚ) ^ m.log2 ≤ m := by exact_mod_cast Nat.log2_self_le h.pos.ne'
          gcongr
  rw [← ratio_eq] at hstart ⊢
  exact zpow_leadingFrom_le (den_ratio_pos m q) 4 hstart

/-! ## The shortest decimal -/

/-- A decimal as a quotient. -/
theorem decimal_eq_div (n : Nat) (p : Int) :
    (n : ℚ) * 10 ^ p = (n * Nat.pow 10 p.toNat : Nat) / (Nat.pow 10 (-p).toNat : Nat) := by
  rw [zpow_eq_div (by norm_num) p]
  simp only [Nat.pow_eq]
  push_cast
  rw [mul_div_assoc]

/-- A decimal that lies in the interval around a double is rounded to it. -/
theorem roundsTo_of_has (hm : 0 < m) {n : Nat} {p : Int}
    (h : (Interval.around m q).has (n * Nat.pow 10 p.toNat) (Nat.pow 10 (-p).toNat) = true) :
    RoundsTo (n * 10 ^ p) m q := by
  rw [decimal_eq_div]
  exact (has_around_iff hm (Nat.pow_pos (by decide))).1 h

/-- The decimal that is taken lies in the interval, or is the nearest one with the most
digits. -/
theorem has_shortestFrom {i : Interval} {first : Int} {fuel digits : Nat} {d : Nat × Int}
    (hd : shortestFrom i first fuel digits = d) :
    i.has (d.1 * Nat.pow 10 d.2.toNat) (Nat.pow 10 (-d.2).toNat) = true ∨
      d = shortestFrom i first 0 (digits + fuel) := by
  induction fuel generalizing digits with
  | zero => exact .inr hd.symm
  | succ fuel ih =>
      let p : Int := first + 1 - digits
      have hother (n : Nat) (hd : (if i.has (n * Nat.pow 10 p.toNat) (Nat.pow 10 (-p).toNat) then
          (n, p) else shortestFrom i first fuel (digits + 1)) = d) :
          i.has (d.1 * Nat.pow 10 d.2.toNat) (Nat.pow 10 (-d.2).toNat) = true ∨
            d = shortestFrom i first 0 (digits + (fuel + 1)) := by
        split at hd
        · next hhas =>
            rw [← hd]
            exact .inl hhas
        · rw [Nat.add_comm fuel, ← Nat.add_assoc]
          exact ih hd
      rw [shortestFrom] at hd
      split at hd
      · next hhas =>
          rw [← hd]
          exact .inl hhas
      · exact hother _ hd

/-- A number that is nearer to a double than a quarter of a unit is rounded to it. -/
theorem roundsTo_of_near {v : ℚ} (hlow : m - 1 / 4 < v / 2 ^ q) (hhigh : v / 2 ^ q < m + 1 / 4) :
    RoundsTo v m q := by
  have hreach : 1 / 4 ≤ reach m q := by
    unfold reach
    split <;> norm_num
  exact ⟨by linarith, by linarith, fun _ => ⟨by linarith, by linarith⟩⟩

theorem roundDiv_bounds (num : Nat) (hden : 0 < den) :
    (num : ℚ) / den - 1 / 2 ≤ roundDiv num den ∧ (roundDiv num den : ℚ) ≤ num / den + 1 / 2 := by
  have hpos : (0 : ℚ) < den := by exact_mod_cast hden
  obtain ⟨hle, hge⟩ := roundDiv_near num hden
  have hle : 2 * ((roundDiv num den : ℚ) * den) ≤ 2 * num + den := by exact_mod_cast hle
  have hge : 2 * (num : ℚ) ≤ 2 * (roundDiv num den * den) + den := by exact_mod_cast hge
  have hnum : (num : ℚ) / den * den = num := div_mul_cancel₀ _ hpos.ne'
  constructor <;> refine le_of_mul_le_mul_right ?_ hpos <;> linarith

/-- The quotient that is rounded is the double in units of the last digit. -/
theorem value_around (m : Nat) (q p : Int) :
    (((Interval.around m q).value * Nat.pow 10 (-p).toNat : Nat) : ℚ) /
      ((Interval.around m q).den * Nat.pow 10 p.toNat : Nat) = m * 2 ^ q / 10 ^ p := by
  simp only [Interval.around, Nat.pow_eq]
  rw [zpow_eq_div two_ne_zero q, zpow_eq_div (by norm_num) p]
  push_cast
  field_simp

/-- Half a unit of the eighteenth digit is less than a quarter of a unit of the double. -/
theorem digit_lt_half (h : IsCanonical m q) {first : Int} (hfirst : (10 : ℚ) ^ first ≤ m * 2 ^ q) :
    (10 : ℚ) ^ (first - 17) / 2 ^ q < 1 / 2 := by
  have htwo : (0 : ℚ) < 2 ^ q := by positivity
  have hlt : (m : ℚ) < 2 ^ 53 := by exact_mod_cast h.lt
  rw [div_lt_iff₀ htwo, zpow_sub₀ (by norm_num)]
  calc (10 : ℚ) ^ first / 10 ^ (17 : Int) ≤ m * 2 ^ q / 10 ^ (17 : Int) := by gcongr
    _ < 2 ^ 53 * 2 ^ q / 10 ^ (17 : Int) := by gcongr
    _ ≤ 1 / 2 * 2 ^ q := by
        rw [mul_div_right_comm]
        exact mul_le_mul_of_nonneg_right (by norm_num) htwo.le

/-- The nearest decimal of eighteen digits is rounded to the double. -/
theorem roundsTo_nearest (h : IsCanonical m q) {first p : Int} (hp : p = first - 17)
    (hfirst : (10 : ℚ) ^ first ≤ m * 2 ^ q) :
    RoundsTo (roundDiv ((Interval.around m q).value * Nat.pow 10 (-p).toNat)
      ((Interval.around m q).den * Nat.pow 10 p.toNat) * 10 ^ p) m q := by
  have hden : 0 < (Interval.around m q).den * Nat.pow 10 p.toNat := by
    simp only [Interval.around, Nat.pow_eq]
    positivity
  obtain ⟨hlow, hhigh⟩ :=
    roundDiv_bounds ((Interval.around m q).value * Nat.pow 10 (-p).toNat) hden
  rw [value_around] at hlow hhigh
  generalize (roundDiv _ _ : Nat) = r at hlow hhigh ⊢
  have hunit : (10 : ℚ) ^ p / 2 ^ q < 1 / 2 := hp ▸ digit_lt_half h hfirst
  have hm : (m : ℚ) = m * 2 ^ q / 10 ^ p * (10 ^ p / 2 ^ q) := by field_simp
  have hv : (r : ℚ) * 10 ^ p / 2 ^ q = r * (10 ^ p / 2 ^ q) := mul_div_assoc _ _ _
  have hpos : (0 : ℚ) < 10 ^ p / 2 ^ q := by positivity
  refine roundsTo_of_near ?_ ?_
  · rw [hv]
    have := mul_le_mul_of_nonneg_right hlow hpos.le
    linarith
  · rw [hv]
    have := mul_le_mul_of_nonneg_right hhigh hpos.le
    linarith

/-- The shortest decimal of a double is rounded to it. -/
theorem roundsTo_shortest (h : IsCanonical m q) :
    RoundsTo ((shortest m q).1 * 10 ^ (shortest m q).2) m q := by
  rcases has_shortestFrom (d := shortest m q) rfl with hhas | hlast
  · exact roundsTo_of_has h.pos hhas
  · rw [hlast]
    exact roundsTo_nearest h (by norm_num; ring) (zpow_leading_le h)

end Mycelium.Binary64
