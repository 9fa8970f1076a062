import Mycelium.Number.Binary64
import Mycelium.Proofs.Rounding

/-!
# The bits of a double

A double is packed into a sign, eleven bits of an exponent and fifty-two bits of a mantissa.
`Unpacks` says what is unpacked from them, and everything else about packing is read off
there: the parts that this library takes from the bits are those of the unpacked double
(`ofFloat_eq`), what is unpacked is canonical (`isCanonical_unpack`), and canonical doubles
survive packing (`pack_unpack`, `unpack_pack`).
-/

namespace Mycelium.Binary64

open Float.Model Float.Model.UnpackedFloat

/-! ## Signs -/

/-- Whether a sign is a minus. -/
def isMinus : Sign → Bool
  | .negative => true
  | .positive => false

theorem isMinus_ofBitVec (b : BitVec 1) : isMinus (Sign.ofBitVec b) = (b.toNat == 1) := by
  revert b
  decide

/-! ## Components -/

variable (b : BitVec Format.binary64.numBits)

theorem toNat_unpackMantissa : (unpackMantissa b).toNat = b.toNat % 2 ^ 52 := by
  simp [unpackMantissa]

theorem toNat_unpackExponent : (unpackExponent b).toNat = b.toNat / 2 ^ 52 % 2 ^ 11 := by
  simp [unpackExponent, Nat.shiftRight_eq_div_pow]

theorem toNat_unpackSign : (unpackSign b).toNat = b.toNat / 2 ^ 63 := by
  have hb : b.toNat < 2 ^ 64 := b.isLt
  have hsign : (unpackSign b).toNat = b.toNat / 2 ^ 63 % 2 := by
    simp [unpackSign, Nat.shiftRight_eq_div_pow]
  omega

theorem toNat_implicitBit (m : BitVec 52) : (1#1 ++ m).toNat = 2 ^ 52 + m.toNat := by
  rw [BitVec.toNat_append, ← Nat.shiftLeft_add_eq_or_of_lt m.isLt]
  rfl

/-! ## What is unpacked -/

/-- What is unpacked, by the numbers that the bits hold. -/
inductive Unpacks : UnpackedFloat → Prop where
  | infinity (top : (unpackExponent b).toNat = 2047) (none : (unpackMantissa b).toNat = 0) :
      Unpacks (.infinity (.ofBitVec (unpackSign b)))
  | notANumber (top : (unpackExponent b).toNat = 2047) (some : (unpackMantissa b).toNat ≠ 0) :
      Unpacks .notANumber
  | zero (least : (unpackExponent b).toNat = 0) (none : (unpackMantissa b).toNat = 0) :
      Unpacks (.zero (.ofBitVec (unpackSign b)))
  | subnormal (least : (unpackExponent b).toNat = 0) (pos : 0 < (unpackMantissa b).toNat) :
      Unpacks (.finite (.ofBitVec (unpackSign b)) (unpackMantissa b).toNat (-1074) pos)
  | normal (top : (unpackExponent b).toNat ≠ 2047) (least : (unpackExponent b).toNat ≠ 0)
      (pos : 0 < 2 ^ 52 + (unpackMantissa b).toNat) :
      Unpacks (.finite (.ofBitVec (unpackSign b)) (2 ^ 52 + (unpackMantissa b).toNat)
        ((unpackExponent b).toNat - 1075) pos)

theorem unpacks : Unpacks b (UnpackedFloat.unpack .binary64 b) := by
  have htop : unpackExponent b = -1#11 ↔ (unpackExponent b).toNat = 2047 := BitVec.toNat_inj.symm
  have hleast : unpackExponent b = 0#11 ↔ (unpackExponent b).toNat = 0 := BitVec.toNat_inj.symm
  have hnone : unpackMantissa b = 0#52 ↔ (unpackMantissa b).toNat = 0 := BitVec.toNat_inj.symm
  rw [UnpackedFloat.unpack]
  dsimp only
  split_ifs with h1 h2 h3 h4
  · exact .infinity (htop.1 h1) (hnone.1 h2)
  · exact .notANumber (htop.1 h1) (mt hnone.2 h2)
  · exact .zero (hleast.1 h3) (hnone.1 h4)
  · simp only [hleast.1 h3]
    exact .subnormal (hleast.1 h3) (Nat.pos_of_ne_zero (mt hnone.2 h4))
  · simp only [toNat_implicitBit]
    exact .normal (mt htop.2 h1) (mt hleast.2 h3) (by omega)

/-- The parts of a double that is not packed. -/
def ofUnpacked : UnpackedFloat → Binary64
  | .notANumber => .nan
  | .infinity s => .infinite (isMinus s)
  | .zero s => .finite (isMinus s) 0 (-1074)
  | .finite s m q _ => .finite (isMinus s) m q

theorem ofFloat_toBits (x : Float) :
    ofFloat x =
      if x.toBits.toNat / 2 ^ 52 % 2 ^ 11 = 2047 then
        if x.toBits.toNat % 2 ^ 52 = 0 then .infinite (x.toBits.toNat / 2 ^ 63 == 1) else .nan
      else if x.toBits.toNat / 2 ^ 52 % 2 ^ 11 = 0 then
        .finite (x.toBits.toNat / 2 ^ 63 == 1) (x.toBits.toNat % 2 ^ 52) (-1074)
      else .finite (x.toBits.toNat / 2 ^ 63 == 1) (2 ^ 52 + x.toBits.toNat % 2 ^ 52)
        ((x.toBits.toNat / 2 ^ 52 % 2 ^ 11 : Nat) - 1075) := rfl

/-- The parts of a double are those of the unpacked double. -/
theorem ofFloat_eq (x : Float) : ofFloat x = ofUnpacked x.toModel.unpack := by
  let b : BitVec Format.binary64.numBits := x.toModel.toBits.toBitVec
  have hmantissa : (unpackMantissa b).toNat = x.toBits.toNat % 2 ^ 52 := toNat_unpackMantissa b
  have hexponent : (unpackExponent b).toNat = x.toBits.toNat / 2 ^ 52 % 2 ^ 11 :=
    toNat_unpackExponent b
  have hsign : isMinus (.ofBitVec (unpackSign b)) = (x.toBits.toNat / 2 ^ 63 == 1) := by
    rw [isMinus_ofBitVec, toNat_unpackSign]
    rfl
  have hunpack := unpacks b
  rw [ofFloat_toBits, ← hmantissa, ← hexponent, ← hsign]
  change _ = ofUnpacked (UnpackedFloat.unpack .binary64 b)
  generalize UnpackedFloat.unpack .binary64 b = u at hunpack
  cases hunpack with
  | infinity top none => rw [if_pos top, if_pos none, ofUnpacked]
  | notANumber top some => rw [if_pos top, if_neg some, ofUnpacked]
  | zero least none => rw [if_neg (by omega), if_pos least, none, ofUnpacked]
  | subnormal least pos => rw [if_neg (by omega), if_pos least, ofUnpacked]
  | normal top least pos => rw [if_neg top, if_neg least, ofUnpacked]

/-! ## Canonical doubles -/

/-- A double that is unpacked is canonical. -/
theorem isCanonical_unpack {f : Float.Model} {s : Sign} {m : Nat} {q : Int} {hm : 0 < m}
    (h : f.unpack = .finite s m q hm) : IsCanonical m q := by
  let b : BitVec Format.binary64.numBits := f.toBits.toBitVec
  have hmantissa : (unpackMantissa b).toNat < 2 ^ 52 := (unpackMantissa b).isLt
  have hexponent : (unpackExponent b).toNat < 2 ^ 11 := (unpackExponent b).isLt
  have hunpack := unpacks b
  rw [show UnpackedFloat.unpack .binary64 b = _ from h] at hunpack
  cases hunpack with
  | subnormal least pos => exact ⟨hm, by omega, by omega, by omega, .inr (by omega)⟩
  | normal top least pos => exact ⟨hm, by omega, by omega, by omega, .inl (by omega)⟩

/-- The exponent of a canonical double as it is packed: zero stands for the least one
without the first bit. -/
def packedExponent (m : Nat) (q : Int) : Nat := if 2 ^ 52 ≤ m then (q + 1075).toNat else 0

theorem add_exponentBias (q : Int) :
    q + Format.binary64.exponentBias + (52 : Nat) = q + 1075 := by
  rw [Int.add_assoc]
  rfl

theorem pack_eq {m : Nat} {q : Int} (h : IsCanonical m q) (s : Sign) :
    UnpackedFloat.pack .binary64 (.finite s m q h.pos) =
      packComponents .binary64 s (.ofNat 11 (packedExponent m q)) (.ofNat 52 m) := by
  have hleast := h.least
  have hgreatest := h.greatest
  have hsmall : ¬ 2 ^ 11 ≤ (q + 1075).toNat + 1 := by omega
  rw [UnpackedFloat.pack]
  dsimp only
  rw [add_exponentBias, if_neg hsmall, packedExponent]
  by_cases hfull : 2 ^ 52 ≤ m
  · have hlog : m.log2 = 52 := (Nat.log2_eq_iff h.pos.ne').2 ⟨hfull, h.lt⟩
    rw [if_pos hfull, if_pos (by rw [hlog]; rfl)]
  · have hlog : m.log2 ≤ 51 := log2_le_of_lt (Nat.lt_of_not_le hfull)
    have hbits : Format.binary64.mantissaBits = 53 := rfl
    rw [if_neg hfull, if_neg (by omega)]

/-- What is greater than all doubles is packed as an infinity. -/
theorem pack_of_large {m : Nat} {q : Int} {hm : 0 < m} (hq : 971 < q) (s : Sign) :
    (Float.Model.pack (.finite s m q hm)).unpack = .infinity s := by
  have hpack : UnpackedFloat.pack .binary64 (.finite s m q hm) = packedInfinity .binary64 s := by
    rw [UnpackedFloat.pack]
    dsimp only
    rw [add_exponentBias, if_pos (by omega)]
  have hinfinite : Float.Model.pack (.finite s m q hm) = .pack (.infinity s) := by
    rw [Float.Model.pack, Float.Model.mk.injEq, hpack]
    rfl
  rw [hinfinite]
  cases s <;> rfl

/-- A double that is packed again is the same. -/
theorem pack_unpack (f : Float.Model) : Float.Model.pack f.unpack = f := by
  rw [Float.Model.pack, Float.Model.mk.injEq]
  exact congrArg UInt64.ofBitVec (pack_unpack_of_valid f.valid)

/-- A canonical double that is unpacked again is the same. -/
theorem unpack_pack {m : Nat} {q : Int} (h : IsCanonical m q) (s : Sign) :
    (Float.Model.pack (.finite s m q h.pos)).unpack = .finite s m q h.pos := by
  obtain ⟨hpos, hlt, hleast, hgreatest, hfull⟩ := id h
  let b := packComponents .binary64 s (.ofNat 11 (packedExponent m q)) (.ofNat 52 m)
  have hexponent : (unpackExponent b).toNat = packedExponent m q := by
    rw [unpackExponent_packComponents]
    refine (BitVec.toNat_ofNat (packedExponent m q) 11).trans ?_
    rw [packedExponent]
    split <;> omega
  have hmantissa : (unpackMantissa b).toNat = m % 2 ^ 52 := by
    rw [unpackMantissa_packComponents, BitVec.toNat_ofNat]
  have hsign : Sign.ofBitVec (unpackSign b) = s := by
    rw [unpackSign_packComponents, Sign.ofBitVec_toBitVec]
  have hunpack := unpacks b
  change UnpackedFloat.unpack .binary64 (UnpackedFloat.pack .binary64 _) = _
  rw [pack_eq h]
  change UnpackedFloat.unpack .binary64 b = _
  generalize UnpackedFloat.unpack .binary64 b = u at hunpack
  rw [packedExponent] at hexponent
  split at hexponent
  · cases hunpack with
    | infinity top none => omega
    | notANumber top some => omega
    | zero least none => omega
    | subnormal least pos => omega
    | normal top least pos =>
        simp only [UnpackedFloat.finite.injEq]
        exact ⟨hsign, by omega, by omega⟩
  · cases hunpack with
    | infinity top none => omega
    | notANumber top some => omega
    | zero least none => omega
    | subnormal least pos =>
        simp only [UnpackedFloat.finite.injEq]
        exact ⟨hsign, by omega, by omega⟩
    | normal top least pos => omega

end Mycelium.Binary64
