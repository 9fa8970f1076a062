import Mycelium.Bot.Cycle
import Mycelium.Proofs.RoundTrip

/-!
# What posts give

A text without tags and character references is its own plain text
(`Markup.plainText_of_not_mem`).

The posts that a cycle finds under its hashtag are looked at one by one.  Each of them gives
a scored system or nothing (`Post.observed?`), and what all of them give does not depend on
what else happens (`observations_eq`).
-/

namespace Mycelium

namespace Markup

theorem startsWith_of_ne {word s : Text} {c : Char} (h : c ≠ '<') :
    startsWith ('<' :: word) (c :: s) = false := by
  have hlower : (if 'A' ≤ c && c ≤ 'Z' then Char.ofNat (c.toNat + 32) else c) ≠ '<' := by
    split
    · next hletter =>
        simp only [Bool.and_eq_true, decide_eq_true_eq] at hletter
        have hlow : 65 ≤ c.toNat := hletter.1
        have hhigh : c.toNat ≤ 90 := hletter.2
        have hvalid : (c.toNat + 32).isValidChar := .inl (by omega)
        have hlower : (Char.ofNat (c.toNat + 32)).toNat = c.toNat + 32 := by
          rw [Char.ofNat, dif_pos hvalid]
          rfl
        intro heq
        rw [heq, show '<'.toNat = 60 from rfl] at hlower
        omega
    · exact h
  rw [startsWith, List.length_cons, List.take_succ_cons, List.map_cons, List.isPrefixOf,
    beq_eq_false_iff_ne.2 (Ne.symm hlower), Bool.false_and]

theorem lineBreak?_of_ne {s : Text} {c : Char} (h : c ≠ '<') : lineBreak? (c :: s) = none := by
  have hbreak : startsWith "<br".toList (c :: s) = false := startsWith_of_ne h
  have hend : startsWith "</p>".toList (c :: s) = false := startsWith_of_ne h
  rw [lineBreak?, hbreak, hend]
  rfl

theorem breakLines_of_not_mem {s : Text} (h : '<' ∉ s) : breakLines s = s := by
  rw [breakLines]
  induction s with
  | nil => rfl
  | cons c r ih =>
      simp only [List.mem_cons, not_or] at h
      simp [breakLinesFrom, lineBreak?_of_ne (Ne.symm h.1), ih h.2]

theorem dropTags_of_not_mem {s : Text} (h : '<' ∉ s) : dropTags s = s := by
  rw [dropTags]
  induction s with
  | nil => rfl
  | cons c r ih =>
      simp only [List.mem_cons, not_or] at h
      simp [dropTagsFrom, Ne.symm h.1, ih h.2]

theorem plainText_of_not_mem {s : Text} (untagged : '<' ∉ s) (unreferenced : '&' ∉ s) :
    plainText s = .ok s := by
  rw [plainText, breakLines_of_not_mem untagged, dropTags_of_not_mem untagged,
    resolve_of_not_mem unreferenced]

end Markup

namespace Bot

variable {σ α β : Type} {own : Text}

@[simp] theorem ofOutcome_ok_bind (a : α) (f : α → Session σ β) :
    (Session.ofOutcome (.ok a) >>= f) = f a := rfl

/-- What a post gives a cycle that has published a message: nothing if its text is that
message, blanks around them apart, or if it holds no program with a rule. -/
def Post.observed? (own : Text) (p : Post) : Except Fault (Option Scored) := do
  let text ← Content.plainText p.content
  return if own ≠ [] ∧ Text.strip text = Text.strip own then none
    else Program.observation? .usual text

theorem Post.observed?_of_error {p : Post} {f : Fault}
    (h : Content.plainText p.content = .error f) : p.observed? own = .error f := by
  rw [observed?, h]
  rfl

theorem Post.observed?_of_ok {p : Post} {text : Text}
    (h : Content.plainText p.content = .ok text) :
    p.observed? own = .ok (if own ≠ [] ∧ Text.strip text = Text.strip own then none
      else Program.observation? .usual text) := by
  rw [observed?, h]
  rfl

/-- What posts give, each of them, unless one of them is a fault or cannot be read. -/
def given (own : Text) (ps : List (Except Fault Post)) : Except Fault (List (Option Scored)) :=
  ps.mapM fun p => p >>= Post.observed? own

theorem given_cons (p : Except Fault Post) (ps : List (Except Fault Post)) :
    given own (p :: ps) = (do
      let x ← p >>= Post.observed? own
      let xs ← given own ps
      return x :: xs) := List.mapM_cons

theorem given_eq_ok_iff {ps : List (Except Fault Post)} {xs : List (Option Scored)} :
    given own ps = .ok xs ↔
      List.Forall₂ (fun p x => ∃ post, p = .ok post ∧ post.observed? own = .ok x) ps xs := by
  have hgives : ∀ (p : Except Fault Post) x, (p >>= Post.observed? own) = .ok x ↔
      ∃ post, p = .ok post ∧ post.observed? own = .ok x := by
    intro p x
    cases p with
    | error f => exact ⟨nofun, by rintro ⟨post, ⟨⟩, -⟩⟩
    | ok post => exact ⟨fun h => ⟨post, rfl, h⟩, by rintro ⟨post, ⟨⟩, h⟩; exact h⟩
  rw [given, Program.mapM_eq_ok_iff]
  simp only [hgives]

/-- What a post gives does not depend on the others. -/
theorem getElem?_of_given {ps : List (Except Fault Post)} {xs : List (Option Scored)}
    (h : given own ps = .ok xs) {i : Nat} {p : Post} (hp : ps[i]? = some (.ok p)) :
    ∃ x, xs[i]? = some x ∧ p.observed? own = .ok x := by
  have hall := given_eq_ok_iff.1 h
  clear h
  induction hall generalizing i with
  | nil => cases hp
  | @cons _ x _ _ hx _ ih =>
      cases i with
      | zero =>
          cases hp
          obtain ⟨post, ⟨⟩, hx⟩ := hx
          exact ⟨x, rfl, hx⟩
      | succ i => exact ih hp

/-- A marked-up text gives what its plain text holds, unless this is the message. -/
theorem text_of_given (nonempty : own ≠ []) {ps : List (Except Fault Post)}
    {xs : List (Option Scored)} (h : given own ps = .ok xs) {i : Nat} {q : Text}
    (hq : ps[i]? = some (.ok ⟨.str q⟩)) :
    ∃ t, Markup.plainText q = .ok t ∧ ('<' ∉ q → '&' ∉ q → t = q) ∧ xs[i]? =
      some (if Text.strip t = Text.strip own then none else Program.observation? .usual t) := by
  obtain ⟨x, hx, hgives⟩ := getElem?_of_given h hq
  have hcontent := Content.plainText_str q
  cases hplain : Markup.plainText q with
  | error f =>
      rw [hplain] at hcontent
      rw [Post.observed?_of_error hcontent] at hgives
      cases hgives
  | ok t =>
      rw [hplain] at hcontent
      rw [Post.observed?_of_ok hcontent] at hgives
      cases hgives
      refine ⟨t, rfl, fun untagged unreferenced => ?_, by simpa [nonempty] using hx⟩
      rw [Markup.plainText_of_not_mem untagged unreferenced] at hplain
      exact (Except.ok.inj hplain).symm

/-- If posts give nothing but a fault, one of them is that fault or cannot be read. -/
theorem of_given_eq_error {f : Fault} {ps : List (Except Fault Post)}
    (h : given own ps = .error f) :
    .error f ∈ ps ∨ ∃ p : Post, Content.plainText p.content = .error f := by
  induction ps with
  | nil => cases h
  | cons p ps ih =>
      rw [given_cons] at h
      cases hgives : p >>= Post.observed? own with
      | error g =>
          rw [hgives] at h
          cases h
          cases p with
          | error g =>
              cases hgives
              exact .inl List.mem_cons_self
          | ok post =>
              refine .inr ⟨post, ?_⟩
              cases hcontent : Content.plainText post.content with
              | error g =>
                  cases (Post.observed?_of_error hcontent).symm.trans hgives
                  rfl
              | ok text => exact nomatch (Post.observed?_of_ok hcontent).symm.trans hgives
      | ok x =>
          rw [hgives] at h
          cases hrest : given own ps with
          | error g =>
              rw [hrest] at h
              cases h
              exact (ih hrest).imp_left (List.mem_cons_of_mem p)
          | ok xs =>
              rw [hrest] at h
              cases h

/-- What a cycle observes is what the posts give that it has found. -/
theorem observations_eq (ps : List (Except Fault Post)) :
    (observations own ps : Session σ (List Scored)) =
      .ofOutcome ((given own ps).map List.reduceOption) := by
  induction ps with
  | nil => rfl
  | cons p ps ih =>
      rw [observations, ih, given_cons]
      cases p with
      | error f => rfl
      | ok post =>
          show (do
            let text ← Session.ofOutcome (Content.plainText post.content)
            _ : Session σ (List Scored)) = .ofOutcome ((do
              let x ← Post.observed? own post
              let xs ← given own ps
              return x :: xs : Except Fault _).map _)
          cases hcontent : Content.plainText post.content with
          | error f =>
              rw [Post.observed?_of_error hcontent]
              rfl
          | ok text =>
              have hown : (!own.isEmpty && Text.strip text == Text.strip own) = true ↔
                  own ≠ [] ∧ Text.strip text = Text.strip own := by
                simp
              rw [Post.observed?_of_ok hcontent, ofOutcome_ok_bind]
              simp only [hown]
              split
              · cases given own ps <;> rfl
              · cases Program.observation? .usual text with
                | none => cases given own ps <;> rfl
                | some x => cases given own ps <;> rfl

end Bot

end Mycelium
