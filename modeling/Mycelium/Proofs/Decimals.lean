import Mycelium.Program.Fitness
import Mycelium.Proofs.Numerals
import Mycelium.Proofs.Scaling
import Mycelium.Proofs.Shortest

/-!
# Written decimals

A decimal is written as digits that a point and more digits may follow, and an exponent with a
sign.  Such a text is found where it stands, whatever follows it behind a blank
(`numberText?_text`), and it is read as the number that it denotes (`readFloat?_text`).

Every layout of the shortest decimal of a double is one of these (`writes_positional`,
`writes_scientific`).  So the text of a finite double is read as that double
(`readFloat?_of_isFinite`).
-/

namespace Mycelium

/-! ## Digits -/

/-- All characters are ASCII digits. -/
def Text.IsDigits (s : Text) : Prop := ∀ c ∈ s, c.isDigit = true

namespace Text.IsDigits

variable {s t : Text}

theorem append (hs : s.IsDigits) (ht : t.IsDigits) : IsDigits (s ++ t) := by
  intro c hc
  exact (List.mem_append.1 hc).elim (hs c) (ht c)

theorem subset (hs : s.IsDigits) (h : t ⊆ s) : t.IsDigits := fun c hc => hs c (h hc)

theorem zeros (k : Nat) : IsDigits (List.replicate k '0') := by
  intro c hc
  rw [List.eq_of_mem_replicate hc]
  rfl

theorem digits (n : Nat) : IsDigits (Layout.digits n) := fun _ hc =>
  Nat.isDigit_of_mem_toDigits (by omega) (Nat.le_refl 10) hc

theorem isDigit (hs : s.IsDigits) {c : Char} (hc : c ∈ s) : Text.isDigit c = true := by
  rw [Text.isDigit, Text.digitValue?_of_isDigit (hs c hc)]
  rfl

/-- Digits are taken from a text up to the first character that is none. -/
theorem takeWhile_append (hs : s.IsDigits) (ht : t.takeWhile Text.isDigit = []) :
    (s ++ t).takeWhile Text.isDigit = s := by
  rw [List.takeWhile_append_of_pos fun c hc => hs.isDigit hc, ht, List.append_nil]

theorem dropWhile_append (hs : s.IsDigits) (ht : t.takeWhile Text.isDigit = []) :
    (s ++ t).dropWhile Text.isDigit = t := by
  rw [List.dropWhile_append_of_pos fun c hc => hs.isDigit hc]
  cases t with
  | nil => rfl
  | cons c t =>
      rw [List.dropWhile_cons_of_neg]
      intro hc
      simp [hc] at ht

end Text.IsDigits

namespace Number

theorem ofDigits_append (s t : Text) :
    ofDigits (s ++ t) = ofDigits s * 10 ^ t.length + ofDigits t := by
  have hfold : ∀ m, t.foldl (fun n c => 10 * n + (Text.digitValue? c).getD 0) m =
      m * 10 ^ t.length + ofDigits t := by
    induction t with
    | nil => simp [ofDigits]
    | cons c t ih =>
        intro m
        rw [ofDigits, List.foldl_cons, List.foldl_cons, ih, ih, List.length_cons]
        ring
  rw [ofDigits, List.foldl_append, hfold]
  rfl

theorem ofDigits_zeros (k : Nat) : ofDigits (List.replicate k '0') = 0 := by
  induction k with
  | zero => rfl
  | succ k ih =>
      rw [List.replicate_succ', ofDigits_append, ih, zero_mul]
      rfl

end Number

/-! ## Decimals -/

/-- A decimal as it is written. -/
structure Decimal where
  /-- Whether there is a minus sign in front. -/
  negative : Bool
  /-- The digits in front of the point. -/
  whole : Text
  /-- The digits behind the point; without any there is no point. -/
  fraction : Text
  /-- Whether the exponent is negative, and its digits. -/
  exponent : Option (Bool × Text)
  /-- There is a digit in front of the point. -/
  whole_ne_nil : whole ≠ []
  isDigits_whole : whole.IsDigits
  isDigits_fraction : fraction.IsDigits
  /-- An exponent has a digit. -/
  isDigits_exponent : ∀ x ∈ exponent, x.2 ≠ [] ∧ x.2.IsDigits

namespace Decimal

/-- The point and what stands behind it. -/
def point (d : Decimal) : Text := if d.fraction = [] then [] else '.' :: d.fraction

/-- The exponent as it is written. -/
def power (d : Decimal) : Text :=
  match d.exponent with
  | none => []
  | some (negative, ds) => 'e' :: (if negative then '-' else '+') :: ds

/-- The text behind the sign. -/
def unsigned (d : Decimal) : Text := d.whole ++ (d.point ++ d.power)

/-- The text of a decimal. -/
def text (d : Decimal) : Text := (if d.negative then ['-'] else []) ++ d.unsigned

/-- The exponent. -/
def shift (d : Decimal) : Int :=
  match d.exponent with
  | none => 0
  | some (negative, ds) => if negative then -(Number.ofDigits ds : Int) else Number.ofDigits ds

/-- The exponent of the last digit. -/
def scale (d : Decimal) : Int := d.shift - d.fraction.length

/-- The number that is denoted, without its sign. -/
def value (d : Decimal) : ℚ := Number.ofDigits (d.whole ++ d.fraction) * 10 ^ d.scale

variable (d : Decimal) {rest : Text}

/-- What does not go on with a number: nothing, or a blank. -/
def Ends (rest : Text) : Prop := rest = [] ∨ ∃ r, rest = ' ' :: r

theorem takeWhile_of_ends (h : Ends rest) : rest.takeWhile Text.isDigit = [] := by
  rcases h with rfl | ⟨r, rfl⟩
  · rfl
  · rfl

theorem takeWhile_power (h : Ends rest) : (d.power ++ rest).takeWhile Text.isDigit = [] := by
  rw [power]
  split
  · exact takeWhile_of_ends h
  · rfl

theorem takeWhile_point (h : Ends rest) :
    (d.point ++ (d.power ++ rest)).takeWhile Text.isDigit = [] := by
  rw [point]
  split
  · exact d.takeWhile_power h
  · rfl

/-! ## Finding a decimal -/

theorem digitsAfter_point (h : Ends rest) :
    Program.digitsAfter '.' (d.point ++ (d.power ++ rest)) = d.point := by
  rw [point]
  split
  · rw [List.nil_append, power]
    split
    · rcases h with rfl | ⟨r, rfl⟩
      · rfl
      · rfl
    · rfl
  · next hne =>
      rw [List.cons_append, Program.digitsAfter]
      simp only [d.isDigits_fraction.takeWhile_append (d.takeWhile_power h)]
      simp [hne]

theorem exponentText_power (h : Ends rest) : Program.exponentText (d.power ++ rest) = d.power := by
  rw [power]
  split
  · rcases h with rfl | ⟨r, rfl⟩
    · rfl
    · rfl
  · next negative ds hexponent =>
      obtain ⟨hne, hds⟩ := d.isDigits_exponent _ hexponent
      have htake := hds.takeWhile_append (takeWhile_of_ends h)
      cases negative <;> simp [Program.exponentText, htake, hne]

/-- The text behind the sign starts with a digit. -/
theorem exists_unsigned : ∃ c r, d.unsigned = c :: r ∧ c.isDigit = true := by
  obtain ⟨c, r, hwhole⟩ := List.exists_cons_of_ne_nil d.whole_ne_nil
  refine ⟨c, r ++ (d.point ++ d.power), by rw [unsigned, hwhole, List.cons_append], ?_⟩
  exact d.isDigits_whole c (by simp [hwhole])

theorem text_ne_nil : d.text ≠ [] := by
  obtain ⟨c, r, hunsigned, -⟩ := d.exists_unsigned
  simp [text, hunsigned]

/-- The sign in front of a text, as it is looked for in front of a fitness. -/
theorem sign_text (rest : Text) :
    (if (d.text ++ rest).head? = some '-' then ['-'] else []) =
      if d.negative then ['-'] else [] := by
  obtain ⟨c, r, hunsigned, hc⟩ := d.exists_unsigned
  have hminus : c ≠ '-' := by
    rintro rfl
    cases hc
  cases hnegative : d.negative with
  | true => simp [text, hnegative]
  | false => simp [text, hnegative, hunsigned, hminus]

/-- The number at the start of a text is the decimal that stands there. -/
theorem numberText?_text (h : Ends rest) : Program.numberText? (d.text ++ rest) = some d.text := by
  have hrest : (d.text ++ rest).drop (if d.negative then ['-'] else [] : Text).length =
      d.whole ++ (d.point ++ (d.power ++ rest)) := by
    rw [text, unsigned, List.append_assoc, List.drop_left]
    simp only [List.append_assoc]
  have hwhole := d.isDigits_whole.takeWhile_append (d.takeWhile_point h)
  have hne : d.whole.isEmpty = false := by simpa using d.whole_ne_nil
  rw [Program.numberText?, d.sign_text rest]
  simp only [hrest, hwhole, hne, Bool.false_eq_true, if_false, List.drop_left,
    d.digitsAfter_point h]
  rw [← List.append_assoc d.whole, ← List.length_append, List.drop_left, d.exponentText_power h,
    text, unsigned]
  simp only [List.append_assoc]

/-! ## Reading a decimal -/

/-- What a decimal is written with. -/
theorem mem_text {c : Char} (hc : c ∈ d.text) : c.isDigit = true ∨ c ∈ ['-', '.', 'e', '+'] := by
  have hpoint : c ∈ d.point → c.isDigit = true ∨ c ∈ ['-', '.', 'e', '+'] := by
    intro hc
    rw [point] at hc
    split at hc
    · cases hc
    · rcases List.mem_cons.1 hc with rfl | hc
      · exact .inr (by decide)
      · exact .inl (d.isDigits_fraction c hc)
  have hpower : c ∈ d.power → c.isDigit = true ∨ c ∈ ['-', '.', 'e', '+'] := by
    intro hc
    rw [power] at hc
    split at hc
    · cases hc
    · next negative ds hexponent =>
        rcases List.mem_cons.1 hc with rfl | hc
        · exact .inr (by decide)
        · rcases List.mem_cons.1 hc with rfl | hc
          · exact .inr (by cases negative <;> decide)
          · exact .inl ((d.isDigits_exponent _ hexponent).2 c hc)
  rw [text, unsigned] at hc
  rcases List.mem_append.1 hc with hc | hc
  · split at hc
    · exact .inr (by simp_all)
    · cases hc
  · rcases List.mem_append.1 hc with hc | hc
    · exact .inl (d.isDigits_whole c hc)
    · exact (List.mem_append.1 hc).elim hpoint hpower

theorem isBlank_of_mem {c : Char} (hc : c ∈ d.text) : Text.isBlank c = false := by
  rcases d.mem_text hc with hc | hc
  · exact Text.isBlank_of_isDigit hc
  · simp only [List.mem_cons, List.not_mem_nil, or_false] at hc
    rcases hc with rfl | rfl | rfl | rfl <;> rfl

theorem isSpace_of_mem {c : Char} (hc : c ∈ d.text) : Number.isSpace c = false := by
  rw [Number.isSpace, d.isBlank_of_mem hc, Bool.false_and]

theorem ne_underscore_of_mem {c : Char} (hc : c ∈ d.text) : c ≠ '_' := by
  rintro rfl
  rcases d.mem_text hc with hc | hc
  · cases hc
  · exact absurd hc (by decide)

theorem readExponent?_power : Number.readExponent? d.power = some d.shift := by
  rw [power, shift]
  split
  · rfl
  · next negative ds hexponent =>
      obtain ⟨hne, hds⟩ := d.isDigits_exponent _ hexponent
      have htake := hds.takeWhile_append (t := []) rfl
      have hdrop := hds.dropWhile_append (t := []) rfl
      rw [List.append_nil] at htake hdrop
      cases negative <;>
        simp [Number.readExponent?, Number.takeSign, Number.takeDigits, htake, hdrop, hne]

theorem takeDigits_unsigned :
    Number.takeDigits d.unsigned = (d.whole, d.point ++ d.power) := by
  have hpoint := d.takeWhile_point (.inl rfl)
  rw [List.append_nil] at hpoint
  rw [Number.takeDigits, unsigned, d.isDigits_whole.takeWhile_append hpoint,
    d.isDigits_whole.dropWhile_append hpoint]

theorem readUnsigned?_unsigned :
    Number.readUnsigned? d.unsigned =
      some (Number.scaled (Number.ofDigits (d.whole ++ d.fraction)) d.scale) := by
  have hne : d.whole.isEmpty = false := by simpa using d.whole_ne_nil
  rw [Number.readUnsigned?, d.takeDigits_unsigned]
  dsimp only
  by_cases hfraction : d.fraction = []
  · have hread := d.readExponent?_power
    have hpower : d.power = [] ∨ ∃ r, d.power = 'e' :: r := by
      rw [power]
      split
      · exact .inl rfl
      · exact .inr ⟨_, rfl⟩
    rw [point, if_pos hfraction, List.nil_append, scale, hfraction]
    rcases hpower with hpower | ⟨r, hpower⟩
    · rw [hpower] at hread ⊢
      simp [hne, hread]
    · rw [hpower] at hread ⊢
      simp [hne, hread]
  · have hpower := d.takeWhile_power (.inl rfl)
    rw [List.append_nil] at hpower
    rw [point, if_neg hfraction, List.cons_append]
    simp only [Number.takeDigits, d.isDigits_fraction.takeWhile_append hpower,
      d.isDigits_fraction.dropWhile_append hpower, hne, Bool.false_and, Bool.false_eq_true,
      if_false, d.readExponent?_power, Option.map_some, scale]

/-- The double that a decimal is read as. -/
def double (d : Decimal) : Float :=
  let x := Number.scaled (Number.ofDigits (d.whole ++ d.fraction)) d.scale
  if d.negative then -x else x

theorem takeSign_text : Number.takeSign d.text = (d.negative, d.unsigned) := by
  obtain ⟨c, r, hunsigned, hc⟩ := d.exists_unsigned
  rw [text]
  cases d.negative with
  | true => rfl
  | false =>
      rw [hunsigned]
      exact Number.takeSign_of_isDigit hc

theorem underscoresBetweenDigits_of_not_mem {s : Text} (h : '_' ∉ s) (last : Bool) :
    Number.underscoresBetweenDigits last s = true := by
  induction s generalizing last with
  | nil => rfl
  | cons c s ih =>
      have hc : c ≠ '_' := fun heq => h (heq ▸ List.mem_cons_self)
      have hs : '_' ∉ s := fun hm => h (List.mem_cons_of_mem c hm)
      simp [Number.underscoresBetweenDigits, hc, ih hs]

theorem smallLetter_of_isDigit {c : Char} (hc : c.isDigit = true) : Number.smallLetter c = c := by
  have hlt : ¬ 'A' ≤ c := by
    simp only [Char.isDigit, Bool.and_eq_true, decide_eq_true_eq, UInt32.le_iff_toNat_le] at hc
    rw [Char.le_def, UInt32.le_iff_toNat_le, Nat.not_le]
    exact hc.2.trans_lt (by decide)
  simp [Number.smallLetter, hlt]

/-- A decimal is none of the words that are read as doubles, as it starts with a digit. -/
theorem smallLetters_ne {w : Text} (hw : w.head?.map Char.isDigit = some false) :
    d.unsigned.map Number.smallLetter ≠ w := by
  obtain ⟨c, r, hunsigned, hc⟩ := d.exists_unsigned
  rw [hunsigned, List.map_cons, smallLetter_of_isDigit hc]
  rintro rfl
  rw [List.head?_cons, Option.map_some, hc] at hw
  cases hw

/-- A decimal is read as what it denotes. -/
theorem readFloat?_text : Number.readFloat? d.text = some d.double := by
  have htrim : Text.trim Number.isSpace d.text = d.text := by
    refine Text.trim_eq_self_iff.2 ⟨fun c hc => ?_, fun c hc => ?_⟩
    · exact d.isSpace_of_mem (List.mem_of_mem_head? hc)
    · exact d.isSpace_of_mem (List.mem_of_mem_getLast? hc)
  have hunderscores : Number.underscoresBetweenDigits false d.text = true :=
    underscoresBetweenDigits_of_not_mem (fun hm => d.ne_underscore_of_mem hm rfl) false
  have hfilter : d.text.filter (· != '_') = d.text :=
    List.filter_eq_self.2 fun c hc => bne_iff_ne.2 (d.ne_underscore_of_mem hc)
  rw [Number.readFloat?, htrim]
  simp only [hunderscores, hfilter, d.takeSign_text, Bool.not_true, Bool.false_eq_true, if_false,
    d.smallLetters_ne (w := "inf".toList) rfl, d.smallLetters_ne (w := "infinity".toList) rfl,
    d.smallLetters_ne (w := "nan".toList) rfl, decide_false, Bool.or_self,
    d.readUnsigned?_unsigned, Option.map_some, double]

/-! ## Layouts -/

/-- With either sign in front, a text is that of a decimal which denotes a number. -/
def Writes (t : Text) (v : ℚ) : Prop :=
  ∀ negative, ∃ d : Decimal, d.negative = negative ∧ d.unsigned = t ∧ d.value = v

variable {ds : Text}

/-- A number below one has zeros behind the point. -/
theorem writes_below_one (hds : ds.IsDigits) (hne : ds ≠ []) (k : Nat) :
    Writes (['0', '.'] ++ List.replicate k '0' ++ ds)
      (Number.ofDigits ds * 10 ^ (-(k + ds.length) : Int)) := by
  intro negative
  have hfraction : List.replicate k '0' ++ ds ≠ [] := by simp [hne]
  let d : Decimal := {
    negative, whole := ['0'], fraction := List.replicate k '0' ++ ds, exponent := none
    whole_ne_nil := by decide
    isDigits_whole := .zeros 1
    isDigits_fraction := (Text.IsDigits.zeros k).append hds
    isDigits_exponent := nofun }
  refine ⟨d, rfl, ?_, ?_⟩
  · simp [d, unsigned, point, power, hfraction]
  · have hdigits : Number.ofDigits (d.whole ++ d.fraction) = Number.ofDigits ds := by
      rw [Number.ofDigits_append, Number.ofDigits_append, Number.ofDigits_zeros,
        show Number.ofDigits d.whole = 0 from rfl, zero_mul, zero_mul, zero_add, zero_add]
    have hscale : d.scale = -(k + ds.length) := by simp [d, scale, shift]
    rw [value, hdigits, hscale]

/-- A number without a fraction has zeros up to the point, and one behind it. -/
theorem writes_whole (hds : ds.IsDigits) (hne : ds ≠ []) (k : Nat) :
    Writes (ds ++ List.replicate k '0' ++ ['.', '0']) (Number.ofDigits ds * 10 ^ (k : Int)) := by
  intro negative
  let d : Decimal := {
    negative, whole := ds ++ List.replicate k '0', fraction := ['0'], exponent := none
    whole_ne_nil := by simp [hne]
    isDigits_whole := hds.append (.zeros k)
    isDigits_fraction := .zeros 1
    isDigits_exponent := nofun }
  refine ⟨d, rfl, ?_, ?_⟩
  · simp [d, unsigned, point, power]
  · have hdigits : Number.ofDigits (d.whole ++ d.fraction) = Number.ofDigits ds * 10 ^ k * 10 := by
      rw [Number.ofDigits_append, Number.ofDigits_append, Number.ofDigits_zeros,
        List.length_replicate]
      rfl
    have hscale : d.scale = -1 := rfl
    rw [value, hdigits, hscale, zpow_neg_one, zpow_natCast]
    push_cast
    field_simp

/-- Digits on both sides of the point. -/
theorem writes_pointed (hds : ds.IsDigits) {k : Nat} (hpos : 0 < k) (hlt : k < ds.length) :
    Writes (ds.take k ++ ['.'] ++ ds.drop k) (Number.ofDigits ds * 10 ^ (k - ds.length : Int)) := by
  intro negative
  have hfraction : ds.drop k ≠ [] := by simpa using hlt
  let d : Decimal := {
    negative, whole := ds.take k, fraction := ds.drop k, exponent := none
    whole_ne_nil := by
      rw [← List.length_pos_iff, List.length_take]
      omega
    isDigits_whole := hds.subset (List.take_subset k ds)
    isDigits_fraction := hds.subset (List.drop_subset k ds)
    isDigits_exponent := nofun }
  refine ⟨d, rfl, ?_, ?_⟩
  · simp [d, unsigned, point, power, hfraction]
  · have hdigits : d.whole ++ d.fraction = ds := List.take_append_drop k ds
    have hscale : d.scale = k - ds.length := by
      simp only [d, scale, shift, List.length_drop]
      omega
    rw [value, hdigits, hscale]

theorem writes_positional (hds : ds.IsDigits) (hne : ds ≠ []) (e : Int) :
    Writes (Layout.positional ds e) (Number.ofDigits ds * 10 ^ (e + 1 - ds.length)) := by
  rw [Layout.positional]
  split
  · next he =>
      have hexponent : e + 1 - ds.length = -((e.natAbs - 1 : Nat) + ds.length) := by omega
      rw [hexponent]
      exact writes_below_one hds hne _
  · next he =>
      dsimp only
      split
      · next hle =>
          have hexponent : e + 1 - ds.length = (e.toNat + 1 - ds.length : Nat) := by omega
          rw [hexponent]
          exact writes_whole hds hne _
      · next hlt =>
          have hexponent : e + 1 - ds.length = (e.toNat + 1 : Nat) - ds.length := by omega
          rw [hexponent]
          exact writes_pointed hds (by omega) (by omega)

theorem writes_scientific (hds : ds.IsDigits) (hne : ds ≠ []) (width : Nat) (e : Int) :
    Writes (Layout.scientific width ds e) (Number.ofDigits ds * 10 ^ (e + 1 - ds.length)) := by
  intro negative
  have hlength : 0 < ds.length := List.length_pos_iff.2 hne
  let ex := List.replicate (width - (Layout.digits e.natAbs).length) '0' ++ Layout.digits e.natAbs
  let d : Decimal := {
    negative, whole := ds.take 1, fraction := ds.drop 1, exponent := some (decide (e < 0), ex)
    whole_ne_nil := by
      rw [← List.length_pos_iff, List.length_take]
      omega
    isDigits_whole := hds.subset (List.take_subset 1 ds)
    isDigits_fraction := hds.subset (List.drop_subset 1 ds)
    isDigits_exponent := by
      rintro _ ⟨⟩
      have hex : Layout.digits e.natAbs ≠ [] := Nat.toDigits_ne_nil
      exact ⟨by simp [ex, hex], (Text.IsDigits.zeros _).append (.digits _)⟩ }
  refine ⟨d, rfl, ?_, ?_⟩
  · have hfraction : ds.length ≤ 1 ↔ ds.drop 1 = [] := List.drop_eq_nil_iff.symm
    rw [Layout.scientific]
    simp only [hfraction]
    simp [d, ex, unsigned, point, power]
  · have hdigits : d.whole ++ d.fraction = ds := List.take_append_drop 1 ds
    have hex : Number.ofDigits ex = e.natAbs := by
      rw [Number.ofDigits_append, Number.ofDigits_zeros, Number.ofDigits_digits, zero_mul, zero_add]
    have hscale : d.scale = e + 1 - ds.length := by
      simp only [d, scale, shift, hex, List.length_drop, decide_eq_true_eq]
      split <;> omega
    rw [value, hdigits, hscale]

/-! ## The text of a double -/

/-- Only zeros are dropped at the end of digits. -/
theorem exists_trimEnd (s : Text) : ∃ k, s = Text.trimEnd (· == '0') s ++ List.replicate k '0' := by
  let zeros := s.reverse.takeWhile (· == '0')
  have hzeros : zeros.reverse = List.replicate zeros.length '0' := by
    refine List.eq_replicate_iff.2 ⟨List.length_reverse, fun c hc => ?_⟩
    exact beq_iff_eq.1 (List.mem_takeWhile_imp (p := (· == '0')) (List.mem_reverse.1 hc))
  refine ⟨zeros.length, ?_⟩
  rw [← hzeros, Text.trimEnd, ← List.reverse_append, List.takeWhile_append_dropWhile,
    List.reverse_reverse]

/-- The digits of a number, laid out in any way, are those of a decimal. -/
theorem writes_layout (l : Layout) {n : Nat} (hn : n ≠ 0) (p : Int) :
    let ds := Layout.digits n
    let e := p + ds.length - 1
    Writes (if l.least ≤ e && e ≤ l.greatest then
        Layout.positional (Text.trimEnd (· == '0') ds) e
      else Layout.scientific l.exponentWidth (Text.trimEnd (· == '0') ds) e) (n * 10 ^ p) := by
  intro ds e
  obtain ⟨k, hk⟩ := exists_trimEnd ds
  generalize Text.trimEnd (· == '0') ds = short at hk ⊢
  have hvalue : n = Number.ofDigits short * 10 ^ k := by
    have hdigits := Number.ofDigits_digits n
    rw [show Layout.digits n = _ from hk, Number.ofDigits_append, Number.ofDigits_zeros,
      List.length_replicate, Nat.add_zero] at hdigits
    exact hdigits.symm
  have hne : short ≠ [] := by
    rintro rfl
    exact hn (hvalue.trans (Nat.zero_mul _))
  have hshort : short.IsDigits := (Text.IsDigits.digits n).subset fun c hc => by
    show c ∈ ds
    rw [hk]
    exact List.mem_append_left _ hc
  have hexponent : e + 1 - short.length = p + k := by
    have hlength := congrArg List.length hk
    rw [List.length_append, List.length_replicate] at hlength
    omega
  have hnumber : (n : ℚ) * 10 ^ p = Number.ofDigits short * 10 ^ (e + 1 - short.length) := by
    rw [hexponent, hvalue, zpow_add₀ (by norm_num), zpow_natCast]
    push_cast
    ring
  rw [hnumber]
  split
  · exact writes_positional hshort hne e
  · exact writes_scientific hshort hne l.exponentWidth e

open Float.Model Float.Model.UnpackedFloat in
/-- A decimal that is rounded to a double is read as that double. -/
theorem double_of_roundsTo {m : Nat} {q : Int} (h : Binary64.IsCanonical m q) (s : Sign)
    (hsign : d.negative = Binary64.isMinus s) (hv : Binary64.RoundsTo d.value m q) :
    d.double = .ofModel (.pack (.finite s m q h.pos)) := by
  have hscaled := Binary64.scaled_of_roundsTo hv h
  rw [double, hscaled, hsign]
  cases s with
  | positive => rfl
  | negative =>
      show Float.ofModel (.pack (UnpackedFloat.neg (Float.Model.unpack (.pack _)))) = _
      rw [Binary64.unpack_pack h]
      rfl

/-- How zero is written. -/
def zero (negative : Bool) : Decimal where
  negative := negative
  whole := ['0']
  fraction := ['0']
  exponent := none
  whole_ne_nil := List.cons_ne_nil _ _
  isDigits_whole := .zeros 1
  isDigits_fraction := .zeros 1
  isDigits_exponent := nofun

open Float.Model Float.Model.UnpackedFloat in
theorem double_zero (s : Sign) :
    (zero (Binary64.isMinus s)).double = .ofModel (.pack (.zero s)) := by
  have hscaled : Number.scaled 0 (-1) = .ofModel (.pack (.zero .positive)) := by
    rw [Number.scaled, Float.ofScientific, dif_pos (by decide)]
    rfl
  cases s with
  | positive => exact hscaled
  | negative => exact congrArg Neg.neg hscaled

open Float.Model Float.Model.UnpackedFloat in
/-- A finite double is written as a decimal that is read as this double. -/
theorem exists_text (l : Layout) {f : Float} (h : Binary64.isFinite f = true) :
    ∃ d : Decimal, l.text f = d.text ∧ d.double = f := by
  have hparts := Binary64.ofFloat_eq f
  have hpack := Binary64.pack_unpack f.toModel
  rw [Binary64.isFinite, hparts] at h
  rw [Layout.text, hparts]
  cases hunpack : f.toModel.unpack with
  | notANumber =>
      rw [hunpack] at h
      cases h
  | infinity s =>
      rw [hunpack] at h
      cases h
  | zero s =>
      refine ⟨zero (Binary64.isMinus s), rfl, ?_⟩
      rw [double_zero, ← hunpack, hpack]
  | finite s m q hm =>
      have hcanonical := Binary64.isCanonical_unpack hunpack
      have hshortest := Binary64.roundsTo_shortest hcanonical
      have hn := (hshortest.exponent hcanonical).1
      obtain ⟨d, hsign, htext, hvalue⟩ :=
        writes_layout l hn (Binary64.shortest m q).2 (Binary64.isMinus s)
      rw [← hvalue] at hshortest
      refine ⟨d, ?_, ?_⟩
      · rw [text, hsign, htext]
        simp only [Binary64.ofUnpacked, hm.ne', if_false]
      · rw [d.double_of_roundsTo hcanonical s hsign hshortest, ← hunpack, hpack]

/-- The text of a finite double is read as this double. -/
theorem readFloat?_of_isFinite (l : Layout) {f : Float} (h : Binary64.isFinite f = true) :
    Number.readFloat? (l.text f) = some f := by
  obtain ⟨d, htext, hdouble⟩ := exists_text l h
  rw [htext, d.readFloat?_text, hdouble]

end Decimal

end Mycelium
