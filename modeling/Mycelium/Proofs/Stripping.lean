import Mycelium.Proofs.Posts

/-!
# What is left without tags

When a tag is dropped, what stood around it moves together.  No new tag comes about by this
(`Markup.not_hasTag_dropTags`).  A `<` stays only if no `>` comes after it, or one comes at once.
In the first case there is nothing to end a tag, and in the second the two stay side by side.

A text without a tag is left as it is, also by the step that looks for line breaks, for each of
them starts with a tag.  So to strip a text twice is to strip it once.

Nothing but line feeds is added on the way (`Markup.filter_breakLines_sublist`), and what is kept
keeps its order (`Markup.dropTags_sublist`).
-/

namespace Mycelium.Markup

variable {s : Text} {c : Char}

/-! ## Tags -/

/-- A text starts with a tag. -/
def StartsTag (s : Text) : Prop :=
  ∃ name : Text, name ≠ [] ∧ '>' ∉ name ∧ '<' :: (name ++ ['>']) <+: s

/-- There is a tag somewhere in a text. -/
def HasTag (s : Text) : Prop :=
  ∃ name : Text, name ≠ [] ∧ '>' ∉ name ∧ '<' :: (name ++ ['>']) <:+: s

theorem hasTag_cons : HasTag (c :: s) ↔ StartsTag (c :: s) ∨ HasTag s := by
  constructor
  · intro h
    obtain ⟨name, hne, hname, htag⟩ := h
    cases List.infix_cons_iff.1 htag with
    | inl hstart => exact .inl ⟨name, hne, hname, hstart⟩
    | inr hlater => exact .inr ⟨name, hne, hname, hlater⟩
  · intro h
    cases h with
    | inl hstart =>
        obtain ⟨name, hne, hname, htag⟩ := hstart
        exact ⟨name, hne, hname, htag.isInfix⟩
    | inr hlater =>
        obtain ⟨name, hne, hname, htag⟩ := hlater
        exact ⟨name, hne, hname, List.infix_cons htag⟩

theorem not_hasTag_nil : ¬ HasTag [] := by
  intro h
  obtain ⟨name, -, -, htag⟩ := h
  simp at htag

/-- Only a `<` starts a tag, with a `>` after it that does not come at once. -/
theorem startsTag_iff :
    StartsTag s ↔ ∃ d r, s = '<' :: d :: r ∧ d ≠ '>' ∧ '>' ∈ r := by
  constructor
  · intro h
    obtain ⟨name, hne, hname, after, rfl⟩ := h
    obtain ⟨d, name, rfl⟩ := List.exists_cons_of_ne_nil hne
    simp only [List.mem_cons, not_or] at hname
    exact ⟨d, name ++ '>' :: after, by simp, Ne.symm hname.1, by simp⟩
  · intro h
    obtain ⟨d, r, rfl, hne, hmem⟩ := h
    obtain ⟨name, after, rfl, hname⟩ := List.eq_append_cons_of_mem hmem
    exact ⟨d :: name, by simp, by simp [Ne.symm hne, hname], after, by simp⟩

theorem not_startsTag_of_not_mem (h : '>' ∉ s) : ¬ StartsTag s := by
  intro hstart
  obtain ⟨d, r, rfl, -, hmem⟩ := startsTag_iff.1 hstart
  simp [hmem] at h

theorem isSome_closing? : (closing? s).isSome = true ↔ '>' ∈ s := by
  induction s with
  | nil => simp [closing?]
  | cons c r ih =>
      by_cases hc : c = '>'
      · simp [closing?, hc]
      · simp [closing?, hc, ih, Ne.symm hc]

/-- A tag is found behind a `<` exactly if there is one. -/
theorem isSome_tag? : (tag? s).isSome = true ↔ StartsTag ('<' :: s) := by
  rw [startsTag_iff]
  cases s with
  | nil => simp [tag?, closing?]
  | cons d r =>
      by_cases hd : d = '>'
      · simp [tag?, closing?, hd]
      · cases hclosing : closing? r with
        | none =>
            have hnone : '>' ∉ r := by simp [← isSome_closing?, hclosing]
            simp [tag?, closing?, hd, hclosing, hnone]
        | some p =>
            have hmem : '>' ∈ r := by simp [← isSome_closing?, hclosing]
            simp [tag?, closing?, hd, hclosing, hmem]

theorem not_startsTag_of_tag? (h : tag? s = none) : ¬ StartsTag ('<' :: s) := by
  simp [← isSome_tag?, h]

/-! ## Without tags -/

theorem dropTagsFrom_sublist (skip : Nat) (s : Text) : (dropTagsFrom skip s).Sublist s := by
  induction s generalizing skip with
  | nil => simp [dropTagsFrom]
  | cons c r ih =>
      cases skip with
      | succ skip => exact (ih skip).cons c
      | zero =>
          rw [dropTagsFrom]
          split
          · split
            · exact (ih _).cons c
            · exact (ih 0).cons_cons c
          · exact (ih 0).cons_cons c

/-- What is kept keeps its order. -/
theorem dropTags_sublist (s : Text) : (dropTags s).Sublist s := dropTagsFrom_sublist 0 s

/-- A `<` that stays starts no tag in what is left either. -/
theorem not_startsTag_dropTags (h : tag? s = none) : ¬ StartsTag ('<' :: dropTags s) := by
  have hstart := not_startsTag_of_tag? h
  cases s with
  | nil => exact not_startsTag_of_not_mem (by simp [dropTags, dropTagsFrom])
  | cons d r =>
      by_cases hd : d = '>'
      · intro hleft
        obtain ⟨d', r', heq, hne, -⟩ := startsTag_iff.1 hleft
        have hkept : dropTags ('>' :: r) = '>' :: dropTags r := rfl
        rw [hd, hkept, List.cons.injEq, List.cons.injEq] at heq
        exact hne heq.2.1.symm
      · have hnone : '>' ∉ d :: r := by
          intro hmem
          refine hstart (startsTag_iff.2 ⟨d, r, rfl, hd, ?_⟩)
          simpa [Ne.symm hd] using hmem
        have hleft : '>' ∉ dropTags (d :: r) := fun hmem =>
          hnone ((dropTags_sublist (d :: r)).subset hmem)
        exact not_startsTag_of_not_mem (by simp [hleft])

theorem not_hasTag_dropTagsFrom (skip : Nat) (s : Text) : ¬ HasTag (dropTagsFrom skip s) := by
  induction s generalizing skip with
  | nil =>
      rw [dropTagsFrom]
      exact not_hasTag_nil
  | cons c r ih =>
      cases skip with
      | succ skip => exact ih skip
      | zero =>
          rw [dropTagsFrom]
          split
          · next hc =>
              split
              · exact ih _
              · next htag =>
                  rw [hasTag_cons, not_or, hc]
                  exact ⟨not_startsTag_dropTags htag, ih 0⟩
          · next hc =>
              rw [hasTag_cons, not_or, startsTag_iff]
              exact ⟨by simp [hc], ih 0⟩

/-- No tag is left, and none comes about. -/
theorem not_hasTag_dropTags (s : Text) : ¬ HasTag (dropTags s) := not_hasTag_dropTagsFrom 0 s

/-- A text without a tag is left as it is. -/
theorem dropTags_of_not_hasTag (h : ¬ HasTag s) : dropTags s = s := by
  rw [dropTags]
  induction s with
  | nil => rfl
  | cons c r ih =>
      rw [hasTag_cons, not_or] at h
      obtain ⟨hstart, hlater⟩ := h
      rw [dropTagsFrom, ih hlater]
      split
      · next hc =>
          rw [hc, ← isSome_tag?, Option.not_isSome_iff_eq_none] at hstart
          simp [hstart]
      · rfl

/-! ## Line breaks -/

theorem exists_of_startsWith {d : Char} {word : Text} (hd : d ≠ '>')
    (h : startsWith ('<' :: d :: word) s = true) : ∃ x r, s = '<' :: x :: r ∧ x ≠ '>' := by
  cases s with
  | nil => simp [startsWith] at h
  | cons c s =>
      by_cases hc : c = '<'
      · cases s with
        | nil => simp [startsWith] at h
        | cons x r =>
            refine ⟨x, r, by rw [hc], ?_⟩
            intro hx
            simp [startsWith, hx] at h
            exact hd h.2.1
      · rw [startsWith_of_ne hc] at h
        cases h

/-- A text starts with a tag that starts with some word and has a `>` later. -/
theorem startsTag_of_startsWith {d : Char} {word : Text} {n : Nat} (hd : d ≠ '>')
    (h : startsWith ('<' :: d :: word) s = true) (hn : 2 ≤ n) (hmem : '>' ∈ s.drop n) :
    StartsTag s := by
  obtain ⟨x, r, rfl, hx⟩ := exists_of_startsWith hd h
  obtain ⟨m, rfl⟩ := Nat.exists_eq_add_of_le' hn
  exact startsTag_iff.2 ⟨x, r, rfl, hx, List.mem_of_mem_drop hmem⟩

/-- A line break starts with a tag. -/
theorem startsTag_of_lineBreak? {size : Nat} (h : lineBreak? s = some size) : StartsTag s := by
  rw [lineBreak?] at h
  split at h
  · next hbreak =>
      refine startsTag_of_startsWith (by decide) hbreak
        (n := 3 + ((s.drop 3).takeWhile Text.isBlank).length) (by omega) ?_
      dsimp only at h
      split at h
      · next heq => simp [heq]
      · next heq => simp [heq]
      · cases h
  · split at h
    · next hend =>
        refine startsTag_of_startsWith (by decide) hend
          (n := 4 + ((s.drop 4).takeWhile Text.isBlank).length) (by omega) ?_
        dsimp only at h
        split at h
        · obtain ⟨p, hclosing, -⟩ := Option.map_eq_some_iff.1 h
          exact List.mem_of_mem_drop (isSome_closing?.1 (by rw [hclosing]; rfl))
        · cases h
    · cases h

/-- A text without a tag has no line break. -/
theorem breakLines_of_not_hasTag (h : ¬ HasTag s) : breakLines s = s := by
  rw [breakLines]
  induction s with
  | nil => rfl
  | cons c r ih =>
      rw [hasTag_cons, not_or] at h
      obtain ⟨hstart, hlater⟩ := h
      rw [breakLinesFrom, ih hlater]
      cases hbreak : lineBreak? (c :: r) with
      | none => rfl
      | some size => exact absurd (startsTag_of_lineBreak? hbreak) hstart

theorem filter_breakLinesFrom_sublist (skip : Nat) (s : Text) :
    ((breakLinesFrom skip s).filter (· ≠ '\n')).Sublist s := by
  induction s generalizing skip with
  | nil => simp [breakLinesFrom]
  | cons c r ih =>
      cases skip with
      | succ skip => exact (ih skip).cons c
      | zero =>
          rw [breakLinesFrom]
          split
          · next size hbreak => simpa using (ih (size - 1)).cons c
          · by_cases hc : c = '\n'
            · simpa [hc] using (ih 0).cons '\n'
            · simpa [hc] using (ih 0).cons_cons c

/-- Nothing but line feeds is added. -/
theorem filter_breakLines_sublist (s : Text) :
    ((breakLines s).filter (· ≠ '\n')).Sublist s :=
  filter_breakLinesFrom_sublist 0 s

/-! ## The plain text -/

/-- A text without references always has a plain text.  There is no tag in it, neither one that was
there before nor one that came about, so that nothing changes if it is stripped again.  Line feeds
apart, it is a part of the text in the same order, and it is the whole text if there is no `<`. -/
theorem plainText_stripped (unreferenced : '&' ∉ s) :
    ∃ t, plainText s = .ok t ∧ ¬ HasTag t ∧ plainText t = .ok t ∧
      (t.filter (· ≠ '\n')).Sublist s ∧ ('<' ∉ s → t = s) := by
  have hkept : ((dropTags (breakLines s)).filter (· ≠ '\n')).Sublist s :=
    ((dropTags_sublist (breakLines s)).filter _).trans (filter_breakLines_sublist s)
  have hplain : '&' ∉ dropTags (breakLines s) := by
    intro hmem
    exact unreferenced (hkept.subset (List.mem_filter.2 ⟨hmem, by decide⟩))
  have htag : ¬ HasTag (dropTags (breakLines s)) := not_hasTag_dropTags _
  refine ⟨dropTags (breakLines s), resolve_of_not_mem hplain, htag, ?_, hkept, ?_⟩
  · rw [plainText, breakLines_of_not_hasTag htag, dropTags_of_not_hasTag htag,
      resolve_of_not_mem hplain]
  · intro untagged
    rw [breakLines_of_not_mem untagged, dropTags_of_not_mem untagged]

/-- A line break inside a tag, brackets with nothing between them, and a bracket that stays open. -/
def nestedTags : Text := "<<br>a>b<>c<i>d<e".toList

theorem plainText_stripped_nestedTags :
    '&' ∉ nestedTags ∧ plainText nestedTags = .ok "b<>cd<e".toList ∧
      ∃ t, plainText nestedTags = .ok t ∧ ¬ HasTag t ∧ plainText t = .ok t ∧
        (t.filter (· ≠ '\n')).Sublist nestedTags ∧ ('<' ∉ nestedTags → t = nestedTags) := by
  have unreferenced : '&' ∉ nestedTags := by decide
  exact ⟨unreferenced, rfl, plainText_stripped unreferenced⟩

end Mycelium.Markup
