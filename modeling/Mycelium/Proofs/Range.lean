import Mycelium.Json.Coercion
import Mycelium.Proofs.Scaling

/-!
# Which integers have a double

An integer is taken as the double nearest to it, unless that is infinite.  The greatest double
is `(2 ^ 53 - 1) * 2 ^ 971`, and an integer is still nearest to it that lies less than half a
unit above it.  So there is a double for an integer if and only if the integer without its
sign is below `beyondDoubles`.
-/

namespace Mycelium.Binary64

open Float.Model Float.Model.UnpackedFloat

variable {k n : Nat} {q : Int} {s : Sign} {v : ℚ}

/-- The least natural number that is too large for a double: it lies half a unit above the
greatest one. -/
def beyondDoubles : Nat := (2 ^ 54 - 1) * 2 ^ 970

theorem cast_beyondDoubles : (beyondDoubles : ℚ) = (2 ^ 53 - 1 / 2) * 2 ^ (971 : Int) := by
  have hunit : (2 : ℚ) ^ (971 : Int) = 2 * 2 ^ 970 := by
    rw [show (971 : Int) = 1 + (970 : Nat) from rfl, zpow_add₀ two_ne_zero, zpow_one, zpow_natCast]
  have hmantissa : ((2 ^ 54 - 1 : Nat) : ℚ) = 2 * (2 ^ 53 - 1 / 2) := by norm_num
  rw [beyondDoubles, Nat.cast_mul, Nat.cast_pow, Nat.cast_ofNat, hmantissa, hunit,
    mul_comm 2 ((2 : ℚ) ^ 53 - 1 / 2), mul_assoc]

/-- How far below a double of fifty-three bits a number may lie that is rounded to it. -/
theorem RoundsTo.ge (hv : RoundsTo v k q) (full : 2 ^ 52 ≤ k) (least : -1074 < q) :
    (2 ^ 53 - 1 / 2) * 2 ^ (q - 1) ≤ v := by
  have hpos : (0 : ℚ) < 2 ^ q := by positivity
  have hreach : (2 : ℚ) ^ 52 - 1 / 4 ≤ k - reach k q := by
    unfold reach
    split
    · next hk =>
        rw [hk.1]
        push_cast
        rfl
    · next hk =>
        have hnext : 2 ^ 52 + 1 ≤ k := by omega
        have hnext : (2 : ℚ) ^ 52 + 1 ≤ k := by exact_mod_cast hnext
        linarith
  have hlow := hreach.trans hv.low
  rw [le_div_iff₀ hpos] at hlow
  rw [zpow_sub_one₀ two_ne_zero]
  linarith

/-- How far above a double of fifty-three bits a number may lie that is rounded to it: the
greatest mantissa is odd. -/
theorem RoundsTo.lt (hv : RoundsTo v k q) (lt : k < 2 ^ 53) : v < (2 ^ 53 - 1 / 2) * 2 ^ q := by
  have hpos : (0 : ℚ) < 2 ^ q := by positivity
  rw [← div_lt_iff₀ hpos]
  rcases Nat.mod_two_eq_zero_or_one k with heven | hodd
  · have hk : k + 2 ≤ 2 ^ 53 := by omega
    have hk : (k : ℚ) + 2 ≤ 2 ^ 53 := by exact_mod_cast hk
    linarith [hv.high]
  · have hk : (k : ℚ) + 1 ≤ 2 ^ 53 := by exact_mod_cast lt
    linarith [(hv.odd hodd).2]

/-- A number is rounded to a double if and only if it is small enough. -/
theorem RoundsTo.lt_iff (hv : RoundsTo v k q) (full : 2 ^ 52 ≤ k) (lt : k < 2 ^ 53) :
    v < beyondDoubles ↔ q ≤ 971 := by
  rw [cast_beyondDoubles]
  constructor
  · intro hlt
    by_contra hq
    have hge := hv.ge full (by omega)
    have hle : (2 : ℚ) ^ (971 : Int) ≤ 2 ^ (q - 1) := zpow_le_zpow_right₀ one_le_two (by omega)
    linarith
  · intro hq
    have hlt := hv.lt lt
    have hle : (2 : ℚ) ^ q ≤ 2 ^ (971 : Int) := zpow_le_zpow_right₀ one_le_two hq
    linarith

/-! ## The range of what is packed -/

theorem isFinite_ofModel_pack {m : Nat} (hm : 0 < m) (full : 2 ^ 52 ≤ m) (lt : m < 2 ^ 53)
    (least : -1074 ≤ q) :
    isFinite (.ofModel (.pack (.finite s m q hm))) = decide (q ≤ 971) := by
  have hmodel (x : Float.Model) : (Float.ofModel x).toModel = x := rfl
  rw [isFinite, ofFloat_eq, hmodel]
  by_cases hq : q ≤ 971
  · rw [unpack_pack ⟨hm, lt, least, hq, .inl full⟩, ofUnpacked, decide_eq_true hq]
  · rw [pack_of_large (Int.lt_of_not_ge hq), ofUnpacked, decide_eq_false hq]

/-- A small natural number is a double. -/
theorem isFinite_ofNat_of_small (hn : n < 2 ^ 53) : isFinite (Float.ofNat n) = true := by
  by_cases hzero : n = 0
  · subst hzero
    decide
  obtain ⟨k, q, h, hfull, hvalue⟩ := exists_isCanonical (Nat.pos_of_ne_zero hzero) hn 0 (by omega)
  have hround : RoundsTo (n * 10 ^ (0 : Int)) k q := by
    rw [zpow_zero, mul_one, ← mul_one (n : ℚ), ← pow_zero 2, ← hvalue]
    exact roundsTo_self k q
  have hofNat : Float.ofNat n = Number.scaled n 0 := rfl
  rw [hofNat, scaled_of_roundsTo hround h, isFinite_ofModel_pack h.pos hfull h.lt h.least]
  exact decide_eq_true h.greatest

theorem two_pow_le_beyondDoubles : 2 ^ 53 ≤ beyondDoubles := by
  have hmantissa : 2 ^ 53 ≤ 2 ^ 54 - 1 := by decide
  rw [beyondDoubles]
  exact hmantissa.trans (Nat.le_mul_of_pos_right (2 ^ 54 - 1) (by positivity))

/-- A large natural number is rounded once. -/
theorem ofNat_of_large (hn : 2 ^ 53 ≤ n) : Float.ofNat n =
    .ofModel (.pack (roundWithAccuracy .binary64 .positive (n <<< 53) (-53) .exact)) := by
  have hlarge : ¬(n < 2 ^ 53 ∧ 0 ≤ 22) := by omega
  have hround : UnpackedFloat.ofScientific .binary64 n 0 =
      roundWithAccuracy .binary64 .positive (n <<< 53) (-53) .exact := by
    have hbits : (2 : Int) ^ Format.binary64.exponentBits = 2048 := rfl
    rw [UnpackedFloat.ofScientific, dif_neg (by omega), hbits, if_neg (by omega),
      if_neg (by omega), if_pos le_rfl, UnpackedFloat.mul, Int.toNat_zero, pow_zero, Nat.mul_one]
    rfl
  show Float.ofScientific n false 0 = _
  rw [Float.ofScientific, dif_neg hlarge]
  show Float.ofModel (.pack (UnpackedFloat.ofScientific .binary64 n 0)) = _
  rw [hround]

/-- A natural number has a double if and only if it is small enough. -/
theorem isFinite_ofNat_iff (n : Nat) : isFinite (Float.ofNat n) = true ↔ n < beyondDoubles := by
  by_cases hsmall : n < 2 ^ 53
  · exact iff_of_true (isFinite_ofNat_of_small hsmall) (hsmall.trans_le two_pow_le_beyondDoubles)
  · have hn : n ≠ 0 := by omega
    have hlarge : 2 ^ 53 ≤ n := Nat.le_of_not_lt hsmall
    have hlog : (n <<< 53).log2 = n.log2 + 53 := log2_shiftLeft hn 53
    have hne : n <<< 53 ≠ 0 := by
      rw [Nat.shiftLeft_eq]
      positivity
    have hvalue : ((n <<< 53 : Nat) : ℚ) * 2 ^ (-53 : Int) = n := by
      rw [Nat.shiftLeft_eq, Nat.cast_mul, Nat.cast_pow, Nat.cast_ofNat, zpow_neg, zpow_ofNat,
        mul_inv_cancel_right₀ (by positivity)]
    obtain ⟨k, q, hk, hround, hfull, hlt, hleast, hrounds⟩ :=
      exists_roundWithAccuracy (s := .positive) (stands_exact (n <<< 53) (-53)) hne (by omega)
        (by omega)
    rw [hvalue] at hrounds
    rw [ofNat_of_large hlarge, hround, isFinite_ofModel_pack hk hfull hlt hleast,
      decide_eq_true_iff, ← hrounds.lt_iff hfull hlt]
    exact Nat.cast_lt

theorem isFinite_neg (x : Float) : isFinite (Float.neg x) = isFinite x := by
  have hneg : (Float.neg x).toModel = .pack x.toModel.unpack.neg := rfl
  rw [isFinite, isFinite, ofFloat_eq, ofFloat_eq, hneg]
  cases hx : x.toModel.unpack with
  | notANumber => rfl
  | infinity s => cases s <;> rfl
  | zero s => cases s <;> rfl
  | finite s m q hm =>
      rw [UnpackedFloat.neg, unpack_pack (isCanonical_unpack hx)]
      rfl

/-- An integer has a double if and only if it is small enough without its sign. -/
theorem isFinite_ofInt_iff (n : Int) :
    isFinite (Float.ofInt n) = true ↔ n.natAbs < beyondDoubles := by
  cases n with
  | ofNat n => exact isFinite_ofNat_iff n
  | negSucc n =>
      rw [Float.ofInt, isFinite_neg]
      exact isFinite_ofNat_iff (n + 1)

end Mycelium.Binary64

namespace Mycelium.Json

/-- An integer is taken as a double unless it is too large. -/
theorem floatOfInt_eq (n : Int) : floatOfInt n =
    if n.natAbs < Binary64.beyondDoubles then .ok (Float.ofInt n) else .error .tooLarge := by
  have hfinite := Binary64.isFinite_ofInt_iff n
  rw [floatOfInt]
  by_cases h : n.natAbs < Binary64.beyondDoubles
  · rw [if_pos h, if_pos (hfinite.2 h)]
  · rw [if_neg h, if_neg (mt hfinite.1 h)]

/-- A value that is taken as no double is an integer that is too large, or no number. -/
theorem toFloat_eq_error {v : Json} {m : Mismatch} (h : v.toFloat = .error m) :
    (m = .tooLarge ∧ ∃ n, v = .int n ∧ Binary64.beyondDoubles ≤ n.natAbs) ∨
    (∃ s, m = .decimal s) ∨ ∃ kind, m = .notDouble kind := by
  cases v with
  | int n =>
      rw [toFloat, floatOfInt_eq] at h
      split at h
      · cases h
      · next hlarge =>
          cases h
          exact .inl ⟨rfl, n, rfl, Nat.le_of_not_lt hlarge⟩
  | str s =>
      rw [toFloat] at h
      split at h
      · cases h
      · cases h
        exact .inr (.inl ⟨s, rfl⟩)
  | bool b => cases h
  | float x => cases h
  | null => cases h; exact .inr (.inr ⟨_, rfl⟩)
  | arr vs => cases h; exact .inr (.inr ⟨_, rfl⟩)
  | obj ms => cases h; exact .inr (.inr ⟨_, rfl⟩)

end Mycelium.Json
