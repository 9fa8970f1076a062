/-!
# Texts

A text is the list of its characters, so that every reader and printer of this
library is a recursion on a list.  This module cuts texts.

* `cut`: the first occurrence of a pattern, as the text before and the text
  after it.
* `occursIn`: whether there is one.
* `pieces`: the parts between the occurrences of a separator, found from the
  left without overlap.
* `join`: the inverse of `pieces`.
* `trimStart`, `trimEnd`, `trim`: characters of a class dropped at the ends.
* `strip`: blank characters dropped at both ends.

`cut_eq_some` says what a cut is, `cut_eq_none_iff` when there is none, and
`join_pieces` that no character is lost by taking a text to pieces.
-/

namespace Mycelium

/-- A text is a list of characters.

A surrogate without its partner is no character, so no text holds one.  Where an escape in a JSON
file gives one, the reader puts U+FFFD in its place.  So two names of members that differ in such a
surrogate alone are one name here. -/
abbrev Text := List Char

namespace Text

/-! ## The first occurrence of a pattern -/

/-- The text before and the text after the first occurrence of a pattern. -/
def cut (pat : Text) : Text → Option (Text × Text)
  | [] => if pat.isEmpty then some ([], []) else none
  | c :: r =>
      if pat.isPrefixOf (c :: r) then some ([], (c :: r).drop pat.length)
      else (cut pat r).map fun p => (c :: p.1, p.2)

/-- A cut splits the text around the pattern. -/
theorem cut_eq_some {pat s a b : Text} (h : cut pat s = some (a, b)) : s = a ++ pat ++ b := by
  induction s generalizing a b with
  | nil =>
      cases pat with
      | nil => simp_all [cut]
      | cons d q => simp [cut] at h
  | cons c r ih =>
      rw [cut] at h
      split at h
      · next hp =>
          obtain ⟨t, ht⟩ := List.isPrefixOf_iff_prefix.1 hp
          simp only [Option.some.injEq, Prod.mk.injEq] at h
          rw [← h.1, ← h.2, ← ht]
          simp
      · next hp =>
          obtain ⟨p, hp', he⟩ := Option.map_eq_some_iff.1 h
          have := ih (a := p.1) (b := p.2) hp'
          simp only [Prod.mk.injEq] at he
          rw [← he.1, ← he.2, this]
          simp

/-- There is no cut exactly where the pattern does not occur. -/
theorem cut_eq_none_iff {pat s : Text} : cut pat s = none ↔ ¬ pat <:+: s := by
  induction s with
  | nil => cases pat <;> simp [cut]
  | cons c r ih =>
      rw [cut]
      split
      · next hp =>
          have := (List.isPrefixOf_iff_prefix.1 hp).isInfix
          simp [this]
      · next hp =>
          have : ¬ pat <+: c :: r := fun h => hp (List.isPrefixOf_iff_prefix.2 h)
          simp [List.infix_cons_iff, this, ih]

/-- Whether a pattern occurs in a text. -/
def occursIn (pat s : Text) : Bool := (cut pat s).isSome

/-- A pattern occurs in a text exactly when it is an infix of it. -/
theorem occursIn_iff {pat s : Text} : occursIn pat s = true ↔ pat <:+: s := by
  rw [occursIn, ← Decidable.not_iff_not, ← cut_eq_none_iff]
  simp

/-! ## Pieces between separators -/

/-- The pieces of a text, the first `skip` characters of which belong to a
separator that was already found. -/
def piecesFrom (sep : Text) : Nat → Text → List Text
  | _, [] => [[]]
  | skip + 1, _ :: r => piecesFrom sep skip r
  | 0, c :: r =>
      if !sep.isEmpty && sep.isPrefixOf (c :: r) then
        [] :: piecesFrom sep (sep.length - 1) r
      else
        match piecesFrom sep 0 r with
        | [] => [[c]]
        | p :: ps => (c :: p) :: ps

/-- The pieces of a text between the occurrences of a separator, which are
found from the left and do not overlap.  There is always at least one piece. -/
def pieces (sep s : Text) : List Text := piecesFrom sep 0 s

/-- The texts of a list with a separator between neighbours. -/
def join (sep : Text) : List Text → Text
  | [] => []
  | [t] => t
  | t :: u :: ts => t ++ sep ++ join sep (u :: ts)

theorem piecesFrom_ne_nil (sep : Text) (k : Nat) (s : Text) : piecesFrom sep k s ≠ [] := by
  induction s generalizing k with
  | nil => simp [piecesFrom]
  | cons c r ih =>
      cases k with
      | zero =>
          rw [piecesFrom]
          split
          · simp
          · split <;> simp
      | succ k => rw [piecesFrom]; exact ih k

theorem piecesFrom_eq_drop (sep : Text) (k : Nat) (s : Text) :
    piecesFrom sep k s = pieces sep (s.drop k) := by
  induction s generalizing k with
  | nil => simp [piecesFrom, pieces]
  | cons c r ih =>
      cases k with
      | zero => simp [pieces]
      | succ k => rw [piecesFrom, ih]; simp

/-- The pieces of a text, joined again, are the text. -/
theorem join_pieces (sep s : Text) : join sep (pieces sep s) = s := by
  suffices h : ∀ n, ∀ s : Text, s.length ≤ n → join sep (pieces sep s) = s from
    h _ s (Nat.le_refl _)
  intro n
  induction n with
  | zero =>
      intro s hs
      have : s = [] := List.eq_nil_of_length_eq_zero (Nat.le_zero.1 hs)
      subst this
      simp [pieces, piecesFrom, join]
  | succ n ih =>
      intro s hs
      cases s with
      | nil => simp [pieces, piecesFrom, join]
      | cons c r =>
          have hr : r.length ≤ n := by simpa using hs
          rw [pieces, piecesFrom]
          split
          · next hp =>
              simp only [Bool.and_eq_true] at hp
              obtain ⟨t, ht⟩ := List.isPrefixOf_iff_prefix.1 hp.2
              rw [piecesFrom_eq_drop]
              have hpos : sep ≠ [] := by
                intro h; simp [h] at hp
              obtain ⟨d, q, rfl⟩ := List.exists_cons_of_ne_nil hpos
              have hcr : c = d ∧ r = q ++ t := by
                simp only [List.cons_append, List.cons.injEq] at ht
                exact ⟨ht.1.symm, ht.2.symm⟩
              have hd : r.drop ((d :: q).length - 1) = t := by
                rw [hcr.2]; simp
              rw [hd]
              have hlt : t.length ≤ n := by
                rw [hcr.2] at hr
                simp only [List.length_append] at hr
                omega
              have := ih t hlt
              obtain ⟨p, ps, hps⟩ := List.exists_cons_of_ne_nil
                (show pieces (d :: q) t ≠ [] from piecesFrom_ne_nil _ _ _)
              rw [hps] at this ⊢
              rw [join, this]
              simpa using ht
          · have := ih r hr
            rw [pieces] at this
            split
            · next h => exact absurd h (piecesFrom_ne_nil _ _ _)
            · next p ps h =>
                rw [h] at this
                cases ps with
                | nil => simpa [join] using this
                | cons u us => simpa [join] using this

/-! ## Trimming -/

/-- The text without the characters of a class at its start. -/
def trimStart (p : Char → Bool) (s : Text) : Text := s.dropWhile p

/-- The text without the characters of a class at its end. -/
def trimEnd (p : Char → Bool) (s : Text) : Text := (s.reverse.dropWhile p).reverse

/-- The text without the characters of a class at both ends. -/
def trim (p : Char → Bool) (s : Text) : Text := trimEnd p (trimStart p s)

/-! ## Slices -/

/-- The items that remain when those from an index on are dropped.  A negative
index counts from the end. -/
def takeTo {α : Type} (n : Int) (xs : List α) : List α :=
  if n < 0 then xs.take (xs.length - n.natAbs) else xs.take n.toNat

/-- The last `n` items of a list; a negative count drops that many from the
front, and zero keeps all. -/
def keepLast {α : Type} (n : Int) (xs : List α) : List α :=
  if n < 0 then xs.drop n.natAbs else if n = 0 then xs else xs.drop (xs.length - n.toNat)

/-! ## Blank characters

Blank are the characters that Unicode calls white space and the four information separators
U+001C to U+001F. -/

/-- Whether a character is blank. -/
def isBlank (c : Char) : Bool :=
  let n := c.toNat
  (0x09 ≤ n && n ≤ 0x0D) || (0x1C ≤ n && n ≤ 0x20) || n == 0x85 || n == 0xA0 || n == 0x1680 ||
    (0x2000 ≤ n && n ≤ 0x200A) || n == 0x2028 || n == 0x2029 || n == 0x202F || n == 0x205F ||
    n == 0x3000

/-- What core calls white space is blank. -/
theorem isBlank_of_isWhitespace {c : Char} (h : c.isWhitespace = true) : isBlank c = true := by
  simp only [Char.isWhitespace, Bool.or_eq_true, decide_eq_true_eq] at h
  rcases h with ((rfl | rfl) | rfl) | rfl <;> decide

/-- The text without the blank characters at both ends. -/
def strip (s : Text) : Text := trim isBlank s

/-- Whether a text holds blank characters only. -/
def isBlankText (s : Text) : Bool := s.all isBlank

end Text

end Mycelium
