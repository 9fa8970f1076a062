import Mycelium.Text.Case

/-!
# What changing the case may give

The image of a character in the other case is made of letters: ASCII letters, or
characters beyond ASCII.  So changing the case of a text puts no mark into it that was not
there before (`mem_swapCase`).
-/

namespace Mycelium.Text

/-- Whether a code point is that of an ASCII letter or lies beyond ASCII. -/
def isLetterCode (n : Nat) : Bool :=
  (0x41 ≤ n && n ≤ 0x5A) || (0x61 ≤ n && n ≤ 0x7A) || (0x80 ≤ n && n < 0xD800) ||
    (0xE000 ≤ n && n < 0x110000)

theorem isLetterCode_toNat_ofNat {n : Nat} (h : isLetterCode n = true) :
    isLetterCode (Char.ofNat n).toNat = true := by
  have hvalid : n.isValidChar := by
    simp only [isLetterCode, Bool.or_eq_true, Bool.and_eq_true, decide_eq_true_eq] at h
    rw [Nat.isValidChar]
    omega
  rw [Char.ofNat, dif_pos hvalid]
  exact h

namespace Case

/-- Whether the images of a run lie on one side of every gap between the letters. -/
def Run.isOfLetters : Run → Bool
  | (first, last, _, image) =>
      let top := image + (last - first)
      (0x41 ≤ image && top ≤ 0x5A) || (0x61 ≤ image && top ≤ 0x7A) ||
        (0x80 ≤ image && top < 0xD800) || (0xE000 ≤ image && top < 0x110000)

theorem isOfLetters_lowerRuns : ∀ run ∈ lowerRuns, Run.isOfLetters run = true := by
  decide +kernel

theorem isOfLetters_upperRuns : ∀ run ∈ upperRuns, Run.isOfLetters run = true := by
  decide +kernel

theorem isLetterCode_lowerLong : ∀ row ∈ lowerLong, ∀ n ∈ row.2, isLetterCode n = true := by
  decide

theorem isLetterCode_upperLong : ∀ row ∈ upperLong, ∀ n ∈ row.2, isLetterCode n = true := by
  decide

/-- The images under runs of letters are letters. -/
theorem isLetterCode_of_image? {runs : List Run} (h : ∀ run ∈ runs, Run.isOfLetters run = true)
    {n m : Nat} (hm : image? runs n = some m) : isLetterCode m = true := by
  induction runs with
  | nil => cases hm
  | cons run runs ih =>
      obtain ⟨first, last, step, image⟩ := run
      rw [image?] at hm
      split at hm
      · cases hm
      · split at hm
        · next hlow hhigh =>
            cases hm
            have hrun := h _ List.mem_cons_self
            simp only [Run.isOfLetters, isLetterCode, Bool.or_eq_true, Bool.and_eq_true,
              decide_eq_true_eq] at hrun hhigh ⊢
            omega
        · exact ih (fun run hr => h run (List.mem_cons_of_mem _ hr)) hm

end Case

/-- The image of a character that a list of longer images and a table of runs give. -/
theorem isLetterCode_of_mem_image {long : List (Nat × List Nat)} {runs : List Case.Run}
    (hlong : ∀ row ∈ long, ∀ n ∈ row.2, isLetterCode n = true)
    (hruns : ∀ run ∈ runs, Case.Run.isOfLetters run = true) {c d : Char}
    (h : d ∈ (match long.find? (·.1 == c.toNat) with
      | some row => row.2.map Char.ofNat
      | none => [((Case.image? runs c.toNat).map Char.ofNat).getD c])) :
    d = c ∨ isLetterCode d.toNat = true := by
  split at h
  · next row hrow =>
      obtain ⟨n, hn, rfl⟩ := List.mem_map.1 h
      exact .inr (isLetterCode_toNat_ofNat (hlong row (List.mem_of_find?_eq_some hrow) n hn))
  · rw [List.mem_singleton] at h
    cases himage : Case.image? runs c.toNat with
    | none => exact .inl (by rw [h, himage]; rfl)
    | some m =>
        refine .inr ?_
        rw [h, himage]
        exact isLetterCode_toNat_ofNat (Case.isLetterCode_of_image? hruns himage)

/-- Changing the case of a character gives the character or letters. -/
theorem mem_swapCase {c d : Char} (h : d ∈ swapCase c) : d = c ∨ isLetterCode d.toNat = true := by
  have hlower : d ∈ (if c = 'Σ' then ['σ'] else lowerChar c) →
      d = c ∨ isLetterCode d.toNat = true := by
    intro h
    split at h
    · exact .inr (List.mem_singleton.1 h ▸ rfl)
    · exact isLetterCode_of_mem_image Case.isLetterCode_lowerLong Case.isOfLetters_lowerRuns h
  rw [swapCase] at h
  split at h
  · exact .inl (List.mem_singleton.1 h)
  · by_cases hlow : (if c = 'Σ' then ['σ'] else lowerChar c) ≠ [c]
    · exact hlower (by simpa only [if_pos hlow] using h)
    · rw [if_neg hlow] at h
      exact isLetterCode_of_mem_image Case.isLetterCode_upperLong Case.isOfLetters_upperRuns h

end Mycelium.Text
