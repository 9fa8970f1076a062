import Mathlib.Data.List.TakeWhile
import Mycelium.Content

/-!
# Which contents can be read

There is one reason why a marked-up text has no plain text: without its tags it has a decimal
reference with more digits than are read (`Markup.plainText_eq_error_iff`).

Such a reference is found wherever it stands.  The text is looked through from left to right, and
what a reference in front of it covers is passed over, but no reference reaches over an ampersand
(`Markup.not_mem_take_reference?`).
-/

namespace Mycelium

namespace Markup

/-- A text has a decimal reference with more digits than are read. -/
def HasOverlong (s : Text) : Prop :=
  ∃ digits : Text, Number.digitLimit < digits.length ∧
    (∀ c ∈ digits, Text.isAsciiDigit c = true) ∧ '&' :: '#' :: digits <:+: s

theorem HasOverlong.cons {s : Text} (h : HasOverlong s) (c : Char) : HasOverlong (c :: s) := by
  obtain ⟨digits, long, hdigits, hmem⟩ := h
  exact ⟨digits, long, hdigits, List.infix_cons hmem⟩

/-! ## How far a reference reaches -/

theorem not_mem_take_semicolon {s : Text} {n : Nat} (h : '&' ∉ s.take n) :
    '&' ∉ s.take (n + semicolon (s.drop n)) := by
  rw [semicolon]
  split
  · next hend =>
      rw [List.head?_drop] at hend
      rw [List.take_add_one, hend, List.mem_append, not_or]
      exact ⟨h, by decide⟩
  · exact h

theorem not_mem_takeWhile {s : Text} {p : Char → Bool} (h : p '&' = false) :
    '&' ∉ s.takeWhile p := by
  intro hmem
  rw [List.mem_takeWhile_imp hmem] at h
  cases h

theorem take_takeWhile (p : Char → Bool) (s : Text) :
    s.take (s.takeWhile p).length = s.takeWhile p :=
  (List.prefix_iff_eq_take.1 (List.takeWhile_prefix p)).symm

/-- No reference reaches over an ampersand. -/
theorem not_mem_take_reference? {s : Text} {size : Nat} {meaning : Except Number.Fault Text}
    (h : reference? s = some (size, meaning)) : '&' ∉ s.take size := by
  unfold reference? at h
  split at h
  · next r =>
      dsimp only at h
      split at h
      · next hdigits =>
          have hn : '&' ∉ r.take (r.takeWhile Text.isAsciiDigit).length := by
            rw [take_takeWhile]
            exact not_mem_takeWhile (by decide)
          have hsize : size = 1 + (r.takeWhile Text.isAsciiDigit).length +
              semicolon (r.drop (r.takeWhile Text.isAsciiDigit).length) := by
            split at h <;> cases h <;> rfl
          rw [hsize, Nat.add_assoc, Nat.add_comm 1, List.take_succ_cons, List.mem_cons, not_or]
          exact ⟨by decide, not_mem_take_semicolon hn⟩
      · split at h
        · next hx =>
            simp only [Bool.and_eq_true, Bool.or_eq_true, decide_eq_true_eq] at hx
            obtain ⟨x, t, rfl⟩ : ∃ x t, r = x :: t := by
              cases r with
              | nil => exact absurd hx.1 (by simp)
              | cons x t => exact ⟨x, t, rfl⟩
            have hletter : '&' ≠ x := by
              rintro rfl
              exact absurd hx.1 (by simp)
            have hn : '&' ∉ t.take (t.takeWhile fun c => (Text.hexValue? c).isSome).length := by
              rw [take_takeWhile]
              exact not_mem_takeWhile (by decide)
            cases h
            rw [List.drop_succ_cons, List.drop_zero, Nat.add_comm 1, List.drop_succ_cons,
              Nat.add_assoc, Nat.add_comm 2, List.take_succ_cons, List.take_succ_cons]
            simp only [List.mem_cons, not_or]
            exact ⟨by decide, hletter, not_mem_take_semicolon hn⟩
        · cases h
  · dsimp only at h
    split at h
    · cases h
    · cases h
      refine not_mem_take_semicolon ?_
      have hname : (s.takeWhile isNameChar).take 32 <+: s :=
        (List.take_prefix _ _).trans (List.takeWhile_prefix isNameChar)
      rw [← List.prefix_iff_eq_take.1 hname]
      exact fun hmem => not_mem_takeWhile (by decide) (List.mem_of_mem_take hmem)

/-! ## References that are too long -/

section Overlong

variable {digits : Text} (long : Number.digitLimit < digits.length)
  (hdigits : ∀ c ∈ digits, Text.isAsciiDigit c = true)
include long hdigits

theorem reference?_of_overlong (after : Text) :
    ∃ size n, reference? ('#' :: (digits ++ after)) = some (size, .error (.tooLong n)) := by
  have hrun : (digits ++ after).takeWhile Text.isAsciiDigit =
      digits ++ after.takeWhile Text.isAsciiDigit := List.takeWhile_append_of_pos hdigits
  have hne : (!(digits ++ after.takeWhile Text.isAsciiDigit).isEmpty) = true := by
    cases digits with
    | nil => exact absurd long (by simp)
    | cons d ds => rfl
  rw [reference?, hrun]
  dsimp only
  rw [if_pos hne, if_pos (by rw [List.length_append]; omega)]
  exact ⟨_, _, rfl⟩

/-- What has an overlong reference in front of which nothing is left out cannot be resolved. -/
theorem exists_error_of_overlong (before after : Text) {skip : Nat}
    (hskip : skip ≤ before.length) :
    ∃ e, resolveFrom skip (before ++ '&' :: '#' :: (digits ++ after)) = .error e := by
  induction before generalizing skip with
  | nil =>
      obtain rfl : skip = 0 := Nat.le_zero.1 hskip
      obtain ⟨size, n, href⟩ := reference?_of_overlong long hdigits after
      rw [List.nil_append, resolveFrom, if_pos rfl, href]
      exact ⟨_, rfl⟩
  | cons c before ih =>
      cases skip with
      | succ skip => exact ih (Nat.le_of_succ_le_succ hskip)
      | zero =>
          have hrest : ∃ e, (resolveFrom 0 (before ++ '&' :: '#' :: (digits ++ after))).map
              (c :: ·) = .error e := by
            obtain ⟨e, he⟩ := ih (Nat.zero_le _)
            exact ⟨e, by rw [he]; rfl⟩
          rw [List.cons_append, resolveFrom]
          split
          · cases href : reference? (before ++ '&' :: '#' :: (digits ++ after)) with
            | none => exact hrest
            | some found =>
                obtain ⟨size, meaning⟩ := found
                -- the reference found here ends in front of the overlong one
                have hsize : size ≤ before.length := by
                  by_contra hlt
                  refine not_mem_take_reference? href ?_
                  rw [List.take_append, List.mem_append]
                  right
                  rw [show size - before.length = size - before.length - 1 + 1 by omega,
                    List.take_succ_cons]
                  exact List.mem_cons_self
                obtain ⟨e, he⟩ := ih hsize
                cases meaning with
                | error f => exact ⟨f, rfl⟩
                | ok t =>
                    refine ⟨e, ?_⟩
                    dsimp only
                    rw [he]
                    rfl
          · exact hrest

end Overlong

theorem overlong_of_reference? {s : Text} {size : Nat} {e : Number.Fault}
    (h : reference? s = some (size, .error e)) : HasOverlong ('&' :: s) := by
  unfold reference? at h
  split at h
  · next r =>
      dsimp only at h
      split at h
      · split at h
        · next hlong =>
            obtain ⟨after, hr⟩ := List.takeWhile_prefix Text.isAsciiDigit (l := r)
            refine ⟨r.takeWhile Text.isAsciiDigit, hlong, fun c hc => List.mem_takeWhile_imp hc,
              [], after, ?_⟩
            rw [List.nil_append, List.cons_append, List.cons_append, hr]
        · cases h
      · split at h
        · cases h
        · cases h
  · dsimp only at h
    split at h
    · cases h
    · cases h

/-- What cannot be resolved has an overlong reference. -/
theorem hasOverlong_of_error {skip : Nat} {s : Text} {e : Number.Fault}
    (h : resolveFrom skip s = .error e) : HasOverlong s := by
  induction s generalizing skip e with
  | nil => cases skip <;> cases h
  | cons c r ih =>
      cases skip with
      | succ skip => exact (ih h).cons c
      | zero =>
          have hmap {e : Number.Fault} (h : (resolveFrom 0 r).map (c :: ·) = .error e) :
              HasOverlong (c :: r) := by
            cases hr : resolveFrom 0 r with
            | ok t =>
                rw [hr] at h
                cases h
            | error f => exact (ih hr).cons c
          rw [resolveFrom] at h
          split at h
          · next hc =>
              subst hc
              cases href : reference? r with
              | none =>
                  rw [href] at h
                  exact hmap h
              | some found =>
                  obtain ⟨size, meaning⟩ := found
                  rw [href] at h
                  cases meaning with
                  | error f => exact overlong_of_reference? href
                  | ok t =>
                      cases hr : resolveFrom size r with
                      | error f => exact (ih hr).cons '&'
                      | ok u =>
                          dsimp only at h
                          rw [hr] at h
                          cases h
          · exact hmap h

/-- A text cannot be resolved exactly if it has an overlong reference. -/
theorem resolve_eq_error_iff {s : Text} : (∃ e, resolve s = .error e) ↔ HasOverlong s := by
  constructor
  · rintro ⟨e, he⟩
    exact hasOverlong_of_error he
  · rintro ⟨digits, long, hdigits, before, after, rfl⟩
    rw [resolve, List.append_assoc, List.cons_append, List.cons_append]
    exact exists_error_of_overlong long hdigits before after (Nat.zero_le _)

/-- A marked-up text has no plain text exactly if it has an overlong reference once its line breaks
and tags are gone. -/
theorem plainText_eq_error_iff {s : Text} :
    (∃ e, plainText s = .error e) ↔ HasOverlong (dropTags (breakLines s)) :=
  resolve_eq_error_iff

end Markup

end Mycelium
