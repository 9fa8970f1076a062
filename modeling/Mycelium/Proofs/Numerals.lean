import Mycelium.Bot.Mark
import Mycelium.Proofs.Cutting

/-!
# Ids that are numbers

The ids that a channel gives are positive numbers in decimal digits, without zeros in
front and short enough to be read (`Text.IsNumeral`).  A mark is compared with such an
id by numbers (`isNewer_of_isNumeral`).
-/

namespace Mycelium

namespace Text

/-- The shortest decimal digits of a positive number, few enough to be read. -/
def IsNumeral (id : Text) : Prop :=
  ∃ n, 0 < n ∧ id = Layout.digits n ∧ id.length ≤ Number.digitLimit

theorem digitValue?_of_isDigit {c : Char} (h : c.isDigit = true) :
    digitValue? c = some (c.toNat - '0'.toNat) := by
  have hrange : 0x30 ≤ c.toNat ∧ c.toNat < 0x30 + 10 := by
    simp only [Char.isDigit, Bool.and_eq_true, decide_eq_true_eq, UInt32.le_iff_toNat_le] at h
    exact ⟨h.1, Nat.lt_succ_of_le h.2⟩
  simp [digitValue?, zeros, hrange]

theorem isBlank_of_isDigit {c : Char} (h : c.isDigit = true) : isBlank c = false := by
  have hrange : 0x30 ≤ c.toNat ∧ c.toNat ≤ 0x39 := by
    simp only [Char.isDigit, Bool.and_eq_true, decide_eq_true_eq, UInt32.le_iff_toNat_le] at h
    exact h
  simp only [isBlank, Bool.or_eq_false_iff, Bool.and_eq_false_iff, decide_eq_false_iff_not,
    beq_eq_false_iff_ne]
  omega

theorem isSpace_of_isDigit {c : Char} (h : c.isDigit = true) : Number.isSpace c = false := by
  rw [Number.isSpace, isBlank_of_isDigit h, Bool.false_and]

end Text

namespace Number

theorem ofDigits_digits (n : Nat) : ofDigits (Layout.digits n) = n := by
  have hvalue : ∀ s : Text, (∀ c ∈ s, c.isDigit = true) → ∀ m,
      s.foldl (fun n c => 10 * n + (Text.digitValue? c).getD 0) m = Nat.ofDigitChars 10 s m := by
    intro s
    induction s with
    | nil => exact fun _ m => rfl
    | cons c s ih =>
        intro h m
        rw [List.foldl_cons, Nat.ofDigitChars_cons, ih fun d hd => h d (List.mem_cons_of_mem c hd),
          Text.digitValue?_of_isDigit (h c List.mem_cons_self), Option.getD_some]
  calc
    ofDigits (Layout.digits n) = Nat.ofDigitChars 10 (Nat.toDigits 10 n) 0 :=
      hvalue _ (fun _ hc => Nat.isDigit_of_mem_toDigits (by omega) (Nat.le_refl 10) hc) 0
    _ = n := Nat.ofDigitChars_ten_toDigits

theorem takeSign_of_isDigit {c : Char} {s : Text} (h : c.isDigit = true) :
    takeSign (c :: s) = (false, c :: s) := by
  have hminus : c ≠ '-' := by
    rintro rfl
    cases h
  have hplus : c ≠ '+' := by
    rintro rfl
    cases h
  simp [takeSign, hminus, hplus]

section Digits

variable {s : Text} (nonempty : s ≠ []) (digits : ∀ c ∈ s, c.isDigit = true)
include nonempty digits

theorem wellGrouped_of_isDigit : wellGrouped s = true := by
  obtain ⟨c, r, rfl⟩ := List.exists_cons_of_ne_nil nonempty
  have hnone : ('_' : Char) ∉ c :: r := fun h => nomatch digits '_' h
  have hcut : Text.cut ['_'] (c :: r) = none := Text.cut_char_eq_none hnone
  rw [wellGrouped, Text.pieces_of_cut_eq_none hcut]
  rfl

/-- Digits behind spaces and a sign are read, if they are few enough. -/
theorem readInt_of_takeSign {source : Text} {negative : Bool}
    (signed : takeSign (source.dropWhile isSpace) = (negative, s))
    (short : s.length ≤ digitLimit) :
    readInt source = .ok (if negative then -(ofDigits s : Int) else ofDigits s) := by
  have hrun : ∀ d ∈ s, (Text.isDigit d || d == '_') = true := by
    intro d hd
    simp [Text.isDigit, Text.digitValue?_of_isDigit (digits d hd)]
  have hfilter : s.filter (· != '_') = s := by
    refine List.filter_eq_self.2 fun d hd => ?_
    have hne : d ≠ '_' := by
      rintro rfl
      exact nomatch digits '_' hd
    simpa using hne
  rw [readInt, signed]
  simp only [List.takeWhile_eq_self_iff.2 hrun, List.dropWhile_eq_nil_iff.2 hrun, hfilter,
    wellGrouped_of_isDigit nonempty digits, Nat.not_lt.2 short, Bool.not_true, Bool.false_eq_true,
    if_false, List.all_nil, if_true]

theorem readInt_of_isDigit (short : s.length ≤ digitLimit) : readInt s = .ok (ofDigits s) := by
  obtain ⟨c, r, rfl⟩ := List.exists_cons_of_ne_nil nonempty
  have hc : c.isDigit = true := digits c List.mem_cons_self
  have hsigned : takeSign ((c :: r).dropWhile isSpace) = (false, c :: r) := by
    rw [List.dropWhile_cons_of_neg (by simp [Text.isSpace_of_isDigit hc]), takeSign_of_isDigit hc]
  exact readInt_of_takeSign nonempty digits hsigned short

end Digits

theorem readInt_digits {n : Nat} (h : (Layout.digits n).length ≤ digitLimit) :
    readInt (Layout.digits n) = .ok n := by
  have hdigit : ∀ c ∈ Layout.digits n, c.isDigit = true := fun c hc =>
    Nat.isDigit_of_mem_toDigits (by omega) (Nat.le_refl 10) hc
  have hnonempty : Layout.digits n ≠ [] := Nat.toDigits_ne_nil
  rw [readInt_of_isDigit hnonempty hdigit h, ofDigits_digits]

end Number

namespace Text.IsNumeral

variable {id : Text}

theorem readInt (h : id.IsNumeral) : Number.readInt id = .ok (Number.ofDigits id) := by
  obtain ⟨n, -, rfl, hlength⟩ := h
  rw [Number.readInt_digits hlength, Number.ofDigits_digits]

theorem ne_nil (h : id.IsNumeral) : id ≠ [] := by
  obtain ⟨n, -, rfl, -⟩ := h
  exact Nat.toDigits_ne_nil

end Text.IsNumeral

namespace Bot

/-- A mark as a bot sets it: none, or an id that is a number. -/
def IsMark (mark : Json) : Prop := mark = .null ∨ ∃ id, mark = .str id ∧ id.IsNumeral

/-- The number that a mark stands at, zero for none. -/
def markNumber : Json → Nat
  | .str id => Number.ofDigits id
  | _ => 0

theorem isAfter_iff {id other : Text} (h : id.IsNumeral) (hother : other.IsNumeral) :
    isAfter id other = true ↔ Number.ofDigits other < Number.ofDigits id := by
  simp [isAfter, h.readInt, hother.readInt]

theorem isNewer_of_isNumeral {id : Text} {mark : Json} (h : id.IsNumeral) (hmark : IsMark mark)
    (hlt : markNumber mark < Number.ofDigits id) : isNewer id mark = .ok true := by
  rcases hmark with rfl | ⟨other, rfl, hother⟩
  · rfl
  · rw [isNewer, (isAfter_iff h hother).2 hlt]

end Bot

end Mycelium
