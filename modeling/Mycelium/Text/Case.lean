import Mycelium.Text.Basic
import Mycelium.Text.Case.Mapping
import Mycelium.Text.Case.Context

/-!
# Lower case and swapped case

* `lower` maps every character to its lower-case image, which may be longer than
  one character.  A capital sigma becomes the final form `ς` where it ends a
  word: a cased character stands before it and none after it, both times when
  ignorable characters are passed over.
* `swapCase` maps an upper-case character to its lower case and a lower-case one
  to its upper case; title-case characters stay as they are.

`length_le_length_lower` says that lower-casing never shortens a text.
-/

namespace Mycelium.Text

open Case

/-- The lower-case image of a character outside any word. -/
def lowerChar (c : Char) : Text :=
  match lowerLong.find? (·.1 == c.toNat) with
  | some row => row.2.map Char.ofNat
  | none => [((image? lowerRuns c.toNat).map Char.ofNat).getD c]

/-- Whether a character is passed over when a word is looked for. -/
def isCaseIgnorable (c : Char) : Bool := inRanges ignorableRanges c.toNat

/-- Whether a character makes a word. -/
def isCased (c : Char) : Bool := inRanges casedRanges c.toNat

/-- Whether the first character that is not ignorable is cased. -/
def goesOn (s : Text) : Bool := ((s.dropWhile isCaseIgnorable).head?.map isCased).getD false

/-- The lower case of a text, `inWord` telling whether the last character before
it that is not ignorable is cased. -/
def lowerFrom : Bool → Text → Text
  | _, [] => []
  | inWord, c :: r =>
      (if c = 'Σ' then [if inWord && !goesOn r then 'ς' else 'σ'] else lowerChar c) ++
        lowerFrom (if isCaseIgnorable c then inWord else isCased c) r

/-- The lower case of a text. -/
def lower (s : Text) : Text := lowerFrom false s

/-- The upper-case image of a lower-case character. -/
def upperChar (c : Char) : Text :=
  match upperLong.find? (·.1 == c.toNat) with
  | some row => row.2.map Char.ofNat
  | none => [((image? upperRuns c.toNat).map Char.ofNat).getD c]

/-- The image of a character in the other case. -/
def swapCase (c : Char) : Text :=
  if inRanges titleRanges c.toNat then [c]
  else
    let low := if c = 'Σ' then ['σ'] else lowerChar c
    if low ≠ [c] then low else upperChar c

/-! ## Lengths -/

theorem lowerChar_ne_nil (c : Char) : lowerChar c ≠ [] := by
  rw [lowerChar]
  split
  · next row h =>
      have hm := List.mem_of_find?_eq_some h
      intro he
      have : row.2 = [] := by simpa using he
      simp [lowerLong] at hm
      simp [hm] at this
  · simp

/-- Lower-casing never shortens a text. -/
theorem length_le_length_lower (s : Text) : s.length ≤ (lower s).length := by
  rw [lower]
  generalize false = b
  induction s generalizing b with
  | nil => simp
  | cons c r ih =>
      rw [lowerFrom]
      have h := ih (if isCaseIgnorable c then b else isCased c)
      have hc : 1 ≤ (if c = 'Σ' then [if b && !goesOn r then 'ς' else 'σ']
          else lowerChar c).length := by
        split
        · simp
        · exact List.length_pos_iff.2 (lowerChar_ne_nil c)
      simp only [List.length_append, List.length_cons]
      omega

/-- Only the empty text has an empty lower case. -/
theorem lower_eq_nil_iff {s : Text} : lower s = [] ↔ s = [] := by
  constructor
  · intro h
    have := length_le_length_lower s
    rw [h] at this
    exact List.eq_nil_of_length_eq_zero (Nat.le_zero.1 this)
  · rintro rfl
    rfl

end Mycelium.Text
