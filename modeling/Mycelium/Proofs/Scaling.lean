import Mycelium.Number.Reading
import Mycelium.Proofs.Doubles

/-!
# Decimals are read to the nearest double

A decimal `n * 10 ^ e` is read by one multiplication or division.  If `n` and the power of
ten are doubles these are operations on doubles (`scaled_of_small`), and otherwise on natural
numbers (`ofScientific_of_roundsTo`).  Either way the exact result is rounded once: a product
is a natural number of units (`mul_of_roundsTo`), and a quotient is cut off with its two bits
(`stands_div`, `div_of_roundsTo`).  So a decimal that lies nearest to a double is read as that
double (`scaled_of_roundsTo`).
-/

namespace Mycelium.Binary64

open Float.Model Float.Model.UnpackedFloat

variable {k m m₁ m₂ n : Nat} {e e₁ e₂ q : Int} {s : Sign} {v : ℚ}

/-! ## Rounding what is exact -/

theorem roundsTo_self (k : Nat) (q : Int) : RoundsTo (k * 2 ^ q) k q := by
  have hv : (k : ℚ) * 2 ^ q / 2 ^ q = k := mul_div_cancel_right₀ _ (by positivity)
  have hreach : 0 < reach k q := by
    unfold reach
    split <;> norm_num
  refine ⟨?_, ?_, fun _ => ⟨?_, ?_⟩⟩ <;> rw [hv] <;> linarith

theorem stands_exact (m : Nat) (e : Int) :
    Stands (.ofMantissaAndAccuracy m .exact) (m * 2 ^ e / 2 ^ e) :=
  mul_div_cancel_right₀ _ (by positivity)

/-- A natural number of units is rounded to the nearest double. -/
theorem round_of_roundsTo (h : IsCanonical k q) (hv : RoundsTo (n * 2 ^ e) k q) :
    UnpackedFloat.round .binary64 s n e = .finite s k q h.pos := by
  have hn : n ≠ 0 := by
    rintro rfl
    have hlow := hv.isNearest.low
    have hk : (1 : ℚ) ≤ k := by exact_mod_cast h.pos
    rw [Nat.cast_zero, zero_mul, zero_div] at hlow
    linarith
  let t := max ((n.log2 : Int) + e - 52) (-1074)
  let j := (e - t).toNat
  have hvalue : (n : ℚ) * 2 ^ e = (n <<< j : Nat) * 2 ^ (e - j) := by
    rw [Nat.shiftLeft_eq, zpow_sub₀ two_ne_zero]
    push_cast
    field_simp
    rw [zpow_natCast]
  rw [UnpackedFloat.round, targetExponent_eq]
  refine roundWithAccuracy_of_roundsTo h (v := n * 2 ^ e) ?_ ?_ hv
  · rw [hvalue]
    exact stands_exact _ _
  · rw [log2_shiftLeft hn]
    omega

/-- A number of at most fifty-three bits times a power of two is a double. -/
theorem exists_isCanonical (pos : 0 < n) (lt : n < 2 ^ 53) (j : Nat) (hj : j ≤ 900) :
    ∃ k q, IsCanonical k q ∧ 2 ^ 52 ≤ k ∧ (k : ℚ) * 2 ^ q = n * 2 ^ j := by
  have hlog : n.log2 ≤ 52 := log2_le_of_lt lt
  have hself := Nat.log2_self_le pos.ne'
  have hnext := Nat.lt_log2_self (n := n)
  let i := 52 - n.log2
  have hlow : 2 ^ 52 ≤ n * 2 ^ i := by
    calc 2 ^ 52 = 2 ^ n.log2 * 2 ^ i := by rw [← Nat.pow_add]; congr 1; omega
      _ ≤ n * 2 ^ i := Nat.mul_le_mul_right _ hself
  have hhigh : n * 2 ^ i < 2 ^ 53 := by
    calc n * 2 ^ i < 2 ^ (n.log2 + 1) * 2 ^ i := Nat.mul_lt_mul_of_pos_right hnext (by positivity)
      _ = 2 ^ 53 := by rw [← Nat.pow_add]; congr 1; omega
  refine ⟨n * 2 ^ i, j - i, ⟨by positivity, hhigh, by omega, by omega, .inl hlow⟩, hlow, ?_⟩
  rw [zpow_sub₀ two_ne_zero, zpow_natCast, zpow_natCast]
  push_cast
  field_simp

/-- A natural number that is a double. -/
theorem unpack_ofNat (h : IsCanonical k q) (hn : (k : ℚ) * 2 ^ q = n) :
    (Float.Model.ofNat n).unpack = .finite .positive k q h.pos := by
  have hpos : 0 < n := by
    have hk : (0 : ℚ) < k := by exact_mod_cast h.pos
    have : (0 : ℚ) < n := hn ▸ by positivity
    exact_mod_cast this
  have hcompare : compare (n : Int) 0 = .gt := Int.compare_eq_gt.2 (by omega)
  have hround : UnpackedFloat.round .binary64 .positive n 0 = .finite .positive k q h.pos := by
    refine round_of_roundsTo h ?_
    rw [zpow_zero, mul_one, ← hn]
    exact roundsTo_self k q
  rw [Float.Model.ofNat, UnpackedFloat.ofNat, UnpackedFloat.ofInt,
    UnpackedFloat.normalize, hcompare]
  dsimp only
  rw [Int.toNat_natCast, hround]
  exact unpack_pack h .positive

/-! ## Products -/

theorem mul_of_roundsTo {h₁ : 0 < m₁} {h₂ : 0 < m₂} (full : 2 ^ 52 ≤ m₁ * m₂)
    (h : IsCanonical k q) (hv : RoundsTo (m₁ * 2 ^ e₁ * (m₂ * 2 ^ e₂)) k q) :
    UnpackedFloat.mul .binary64 (.finite .positive m₁ e₁ h₁) (.finite .positive m₂ e₂ h₂) =
      .finite .positive k q h.pos := by
  have hlog : 52 ≤ (m₁ * m₂).log2 := (Nat.le_log2 (by positivity)).2 full
  have hvalue : (m₁ : ℚ) * 2 ^ e₁ * (m₂ * 2 ^ e₂) = (m₁ * m₂ : Nat) * 2 ^ (e₁ + e₂) := by
    rw [zpow_add₀ two_ne_zero]
    push_cast
    ring
  rw [hvalue] at hv
  exact roundWithAccuracy_of_roundsTo h (stands_exact _ _) (by omega) hv

/-! ## Quotients -/

/-- A quotient that is cut off stands for the exact one. -/
theorem stands_div (m : Nat) {d : Nat} (hd : 0 < d) :
    Stands (.ofMantissaAndAccuracy (m / d) (accuracyOfFraction (m % d) d)) (m / d : ℚ) := by
  have hpos : (0 : ℚ) < d := by exact_mod_cast hd
  have hu : (m : ℚ) / d = (m / d : Nat) + (m % d : Nat) / d := by
    rw [eq_comm, ← mul_div_cancel_right₀ ((m / d : Nat) : ℚ) hpos.ne', ← add_div]
    congr 1
    exact_mod_cast Nat.div_add_mod' m d
  have hlt : (m % d : Nat) < (d : ℚ) := by exact_mod_cast Nat.mod_lt m hd
  have hone : ((m % d : Nat) : ℚ) / d < 1 := (div_lt_one hpos).2 hlt
  rw [hu, accuracyOfFraction]
  split
  · next hr => simp [Stands, ExtendedMantissa.ofMantissaAndAccuracy, hr]
  · next hr =>
      have hzero : (0 : ℚ) < (m % d : Nat) / d := by
        have : (0 : ℚ) < (m % d : Nat) := by exact_mod_cast Nat.pos_of_ne_zero hr
        positivity
      rcases h : compare (2 * (m % d)) d with _ | _ | _
      · have hhalf : ((m % d : Nat) : ℚ) / d < 1 / 2 := by
          have : 2 * ((m % d : Nat) : ℚ) < d := by exact_mod_cast Nat.compare_eq_lt.1 h
          rw [div_lt_iff₀ hpos]
          linarith
        exact ⟨by linarith, by linarith⟩
      · have hhalf : ((m % d : Nat) : ℚ) / d = 1 / 2 := by
          have : 2 * ((m % d : Nat) : ℚ) = d := by exact_mod_cast Nat.compare_eq_eq.1 h
          rw [div_eq_iff hpos.ne']
          linarith
        exact congrArg _ hhalf
      · have hhalf : 1 / 2 < ((m % d : Nat) : ℚ) / d := by
          have : (d : ℚ) < 2 * ((m % d : Nat) : ℚ) := by exact_mod_cast Nat.compare_eq_gt.1 h
          rw [lt_div_iff₀ hpos]
          linarith
        exact ⟨by linarith, by linarith⟩

theorem div_of_roundsTo {h₁ : 0 < m₁} {h₂ : 0 < m₂} (h : IsCanonical k q)
    (hv : RoundsTo (m₁ * 2 ^ e₁ / (m₂ * 2 ^ e₂)) k q) :
    UnpackedFloat.div .binary64 (.finite .positive m₁ e₁ h₁) (.finite .positive m₂ e₂ h₂) =
      .finite .positive k q h.pos := by
  let t := min (e₁ - e₂)
    (Format.binary64.targetExponent (totalExponent m₁ e₁ - totalExponent m₂ e₂))
  let j := (e₁ - e₂ - t).toNat
  have hj : (j : Int) = e₁ - e₂ - t := Int.toNat_of_nonneg (by omega)
  have hvalue : (m₁ : ℚ) * 2 ^ e₁ / (m₂ * 2 ^ e₂) / 2 ^ t = (m₁ <<< j : Nat) / m₂ := by
    have hpow : (2 : ℚ) ^ e₁ = 2 ^ j * 2 ^ e₂ * 2 ^ t := by
      rw [← zpow_natCast, ← zpow_add₀ two_ne_zero, ← zpow_add₀ two_ne_zero]
      congr 1
      omega
    have hne : (m₂ : ℚ) ≠ 0 := by exact_mod_cast h₂.ne'
    rw [hpow, Nat.shiftLeft_eq]
    push_cast
    field_simp
  have hstands := stands_div (m₁ <<< j) h₂
  rw [← hvalue] at hstands
  refine roundWithAccuracy_of_roundsTo h hstands ?_ hv
  show t ≤ max (((m₁ <<< j) / m₂).log2 + t - 52 : Int) (-1074)
  -- the quotient has fifty-three bits, unless it lies at the least exponent
  have htarget : t ≤ max ((m₁.log2 : Int) + e₁ - (m₂.log2 + e₂) - 53) (-1074) := by
    have ht : t ≤ Format.binary64.targetExponent (totalExponent m₁ e₁ - totalExponent m₂ e₂) :=
      min_le_right _ _
    simp only [Format.targetExponent, totalExponent, Format.mantissaBits, Format.minExponent] at ht
    norm_num at ht
    omega
  rcases le_max_iff.1 htarget with ht | ht
  · have hfull : 2 ^ 52 ≤ (m₁ <<< j) / m₂ := by
      rw [Nat.le_div_iff_mul_le h₂, Nat.shiftLeft_eq]
      calc 2 ^ 52 * m₂ ≤ 2 ^ 52 * 2 ^ (m₂.log2 + 1) := Nat.mul_le_mul_left _ Nat.lt_log2_self.le
        _ = 2 ^ (m₂.log2 + 53) := by rw [← Nat.pow_add]; congr 1; omega
        _ ≤ 2 ^ (m₁.log2 + j) := Nat.pow_le_pow_right (by decide) (by omega)
        _ = 2 ^ m₁.log2 * 2 ^ j := Nat.pow_add _ _ _
        _ ≤ m₁ * 2 ^ j := Nat.mul_le_mul_right _ (Nat.log2_self_le h₁.ne')
    have hlog : 52 ≤ ((m₁ <<< j) / m₂).log2 := (Nat.le_log2 (by omega)).2 hfull
    omega
  · omega

/-! ## Powers of ten -/

theorem exactlyRepresentablePowersOfTen_eq (i : Fin 23) :
    Float.exactlyRepresentablePowersOfTen[i] = .ofModel (.ofNat (10 ^ i.val)) := by
  revert i
  decide +kernel

/-- The magnitude of a number that is rounded to a double. -/
theorem RoundsTo.magnitude (hv : RoundsTo v k q) (h : IsCanonical k q) :
    (2 : ℚ) ^ (-1075 : Int) ≤ v ∧ v < 2 ^ (1024 : Int) := by
  have hpos : (0 : ℚ) < 2 ^ q := by positivity
  have hk : (1 : ℚ) ≤ k := by exact_mod_cast h.pos
  have hk53 : (k : ℚ) + 1 ≤ 2 ^ 53 := by exact_mod_cast h.lt
  have hleast := h.least
  have hgreatest := h.greatest
  constructor
  · have hlow : (1 : ℚ) / 2 ≤ v / 2 ^ q := by linarith [hv.isNearest.low]
    rw [le_div_iff₀ hpos] at hlow
    calc (2 : ℚ) ^ (-1075 : Int) ≤ 2 ^ (q - 1) := zpow_le_zpow_right₀ one_le_two (by omega)
      _ = 1 / 2 * 2 ^ q := by rw [zpow_sub_one₀ two_ne_zero]; ring
      _ ≤ v := hlow
  · have hhigh : v / 2 ^ q < 2 ^ 53 := by linarith [hv.high]
    rw [div_lt_iff₀ hpos] at hhigh
    calc v < 2 ^ 53 * 2 ^ q := hhigh
      _ = 2 ^ (53 + q) := by rw [zpow_add₀ two_ne_zero]; norm_cast
      _ ≤ 2 ^ (1024 : Int) := zpow_le_zpow_right₀ one_le_two (by omega)

/-- A decimal that is rounded to a double has an exponent that is neither too great nor too
small. -/
theorem RoundsTo.exponent (hv : RoundsTo (n * 10 ^ e) k q) (h : IsCanonical k q) :
    n ≠ 0 ∧ e ≤ 2048 ∧ -(2048 + n.log2 : Int) ≤ e := by
  obtain ⟨hlow, hhigh⟩ := hv.magnitude h
  have hn : n ≠ 0 := by
    rintro rfl
    rw [Nat.cast_zero, zero_mul] at hlow
    exact absurd hlow (not_le.2 (by positivity))
  have hone : (1 : ℚ) ≤ n := by exact_mod_cast Nat.pos_of_ne_zero hn
  refine ⟨hn, ?_, ?_⟩
  · by_contra hgt
    have hpow : (2 : ℚ) ^ e ≤ 10 ^ e := zpow_le_zpow_left₀ (by omega) (by norm_num) (by norm_num)
    have hle : (2 : ℚ) ^ e ≤ n * 10 ^ e := hpow.trans (le_mul_of_one_le_left (by positivity) hone)
    have := (zpow_lt_zpow_iff_right₀ one_lt_two).1 (hle.trans_lt hhigh)
    omega
  · by_contra hlt
    have hpow : (10 : ℚ) ^ e ≤ 2 ^ e :=
      zpow_le_zpow_of_nonpos two_pos (by norm_num) (by omega)
    have hlog : (n : ℚ) < 2 ^ (n.log2 + 1) := by exact_mod_cast Nat.lt_log2_self
    have hle : (n : ℚ) * 10 ^ e < 2 ^ ((n.log2 : Int) + 1 + e) := by
      calc (n : ℚ) * 10 ^ e ≤ n * 2 ^ e := by gcongr
        _ < 2 ^ (n.log2 + 1) * 2 ^ e := by gcongr
        _ = 2 ^ ((n.log2 : Int) + 1 + e) := by rw [zpow_add₀ two_ne_zero]; norm_cast
    have := (zpow_lt_zpow_iff_right₀ one_lt_two).1 (hlow.trans_lt hle)
    omega

/-- A power of ten that is a double. -/
theorem unpack_powerOfTen {i : Nat} (hi : i < Float.exactlyRepresentablePowersOfTen.size) :
    ∃ k q, ∃ h : IsCanonical k q, 2 ^ 52 ≤ k ∧ (k : ℚ) * 2 ^ q = 10 ^ i ∧
      Float.exactlyRepresentablePowersOfTen[i].toModel.unpack = .finite .positive k q h.pos := by
  have hentry : Float.exactlyRepresentablePowersOfTen[i] = .ofModel (.ofNat (10 ^ i)) :=
    exactlyRepresentablePowersOfTen_eq ⟨i, hi⟩
  have hi23 : i < 23 := hi
  have hlt : 5 ^ i < 2 ^ 53 :=
    (Nat.pow_le_pow_right (by decide) (Nat.le_of_lt_succ hi23)).trans_lt (by norm_num)
  obtain ⟨k, q, h, hfull, hvalue⟩ := exists_isCanonical (by positivity) hlt i (by omega)
  have hten : (k : ℚ) * 2 ^ q = (10 ^ i : Nat) := by
    rw [hvalue]
    push_cast
    rw [← mul_pow]
    norm_num
  refine ⟨k, q, h, hfull, by rw [hten]; push_cast; rfl, ?_⟩
  rw [hentry]
  exact unpack_ofNat h hten

/-! ## Decimals -/

/-- A small natural number as a double. -/
theorem unpack_toFloat (hn : n ≠ 0) (hlt : n < 2 ^ 53) : ∃ k q, ∃ h : IsCanonical k q, 2 ^ 52 ≤ k ∧
    (k : ℚ) * 2 ^ q = n ∧ n.toUInt64.toFloat.toModel.unpack = .finite .positive k q h.pos := by
  obtain ⟨k, q, h, hfull, hvalue⟩ := exists_isCanonical (Nat.pos_of_ne_zero hn) hlt 0 (by omega)
  rw [pow_zero, mul_one] at hvalue
  have hsize : n < UInt64.size := hlt.trans (by decide)
  have hself : n.toUInt64.toNat = n := UInt64.toNat_ofNat_of_lt' hsize
  refine ⟨k, q, h, hfull, hvalue, ?_⟩
  show (Float.Model.ofNat n.toUInt64.toNat).unpack = _
  rw [hself]
  exact unpack_ofNat h hvalue

/-- A decimal whose digits and power of ten are doubles is read by an operation on doubles. -/
theorem scaled_of_small (hsmall : n < 2 ^ 53 ∧ e.natAbs ≤ 22) (hn : n ≠ 0)
    (hv : RoundsTo (n * 10 ^ e) k q) (h : IsCanonical k q) :
    Number.scaled n e = .ofModel (.pack (.finite .positive k q h.pos)) := by
  obtain ⟨k₁, q₁, h₁, hfull₁, hvalue₁, hunpack₁⟩ := unpack_toFloat hn hsmall.1
  have hsize : e.natAbs < Float.exactlyRepresentablePowersOfTen.size := Nat.lt_succ_of_le hsmall.2
  obtain ⟨k₂, q₂, h₂, hfull₂, hvalue₂, hunpack₂⟩ := unpack_powerOfTen hsize
  rw [Number.scaled, Float.ofScientific, dif_pos hsmall]
  by_cases he : e < 0
  · have hpow : (10 : ℚ) ^ e = (10 ^ e.natAbs)⁻¹ := by
      rw [← zpow_natCast, ← zpow_neg]
      congr 1
      omega
    rw [hpow, ← div_eq_mul_inv, ← hvalue₁, ← hvalue₂] at hv
    rw [if_pos (decide_eq_true he)]
    show Float.ofModel (.pack (UnpackedFloat.div .binary64 _ _)) = _
    rw [hunpack₁, hunpack₂, div_of_roundsTo h hv]
  · have hpow : (10 : ℚ) ^ e = 10 ^ e.natAbs := by
      rw [← zpow_natCast]
      congr 1
      omega
    rw [hpow, ← hvalue₁, ← hvalue₂] at hv
    have hfull : 2 ^ 52 ≤ k₁ * k₂ := hfull₁.trans (Nat.le_mul_of_pos_right k₁ h₂.pos)
    rw [if_neg (by simpa using he)]
    show Float.ofModel (.pack (UnpackedFloat.mul .binary64 _ _)) = _
    rw [hunpack₁, hunpack₂, mul_of_roundsTo hfull h hv]

/-- Any other decimal is read by an operation on natural numbers, unless it is much too great or
much too small. -/
theorem ofScientific_of_roundsTo (hv : RoundsTo (n * 10 ^ e) k q) (h : IsCanonical k q) :
    UnpackedFloat.ofScientific .binary64 n e = .finite .positive k q h.pos := by
  obtain ⟨hn, hgreatest, hleast⟩ := hv.exponent h
  have hbits : (2 : Int) ^ Format.binary64.exponentBits = 2048 := rfl
  have hmantissa : Format.binary64.mantissaBits = 53 := rfl
  rw [UnpackedFloat.ofScientific, dif_neg hn, hbits, if_neg (by omega), if_neg (by omega)]
  split
  · next he =>
      refine mul_of_roundsTo ?_ h ?_
      · rw [hmantissa, Nat.shiftLeft_eq]
        calc 2 ^ 52 ≤ n * 2 ^ 53 := by omega
          _ ≤ n * 2 ^ 53 * 10 ^ e.toNat := Nat.le_mul_of_pos_right _ (by positivity)
      · have hpow : (10 : ℚ) ^ e = 10 ^ e.toNat := by
          rw [← zpow_natCast, Int.toNat_of_nonneg he]
        rw [hmantissa, Nat.shiftLeft_eq, zpow_zero, mul_one, zpow_neg, zpow_natCast, Nat.cast_mul,
          Nat.cast_pow, Nat.cast_pow, Nat.cast_ofNat, Nat.cast_ofNat, ← hpow,
          mul_inv_cancel_right₀ (by positivity)]
        exact hv
  · next he =>
      refine div_of_roundsTo h ?_
      have hpow : (10 : ℚ) ^ e = (10 ^ (-e).toNat)⁻¹ := by
        rw [← zpow_natCast, ← zpow_neg, Int.toNat_of_nonneg (by omega), neg_neg]
      rw [zpow_zero, mul_one, mul_one]
      push_cast
      rwa [div_eq_mul_inv, ← hpow]

/-- A decimal is read as the double that lies nearest to it. -/
theorem scaled_of_roundsTo (hv : RoundsTo (n * 10 ^ e) k q) (h : IsCanonical k q) :
    Number.scaled n e = .ofModel (.pack (.finite .positive k q h.pos)) := by
  by_cases hsmall : n < 2 ^ 53 ∧ e.natAbs ≤ 22
  · exact scaled_of_small hsmall (hv.exponent h).1 hv h
  have hexponent : (if decide (e < 0) = true then Int.negOfNat e.natAbs else Int.ofNat e.natAbs) =
      e := by
    split
    · next he =>
        have he := of_decide_eq_true he
        rw [Int.negOfNat_eq, Int.ofNat_eq_natCast]
        omega
    · next he => exact Int.natAbs_of_nonneg (by simpa using he)
  rw [Number.scaled, Float.ofScientific, dif_neg hsmall]
  dsimp only
  rw [hexponent, Float.Model.ofScientific, ofScientific_of_roundsTo hv h]

end Mycelium.Binary64
