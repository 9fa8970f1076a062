import Mathlib.Data.List.Infix
import Mathlib.Data.List.TakeWhile
import Mycelium.Text.Basic

/-!
# Laws of cutting and trimming

*Cuts.*  A cut at the first occurrence of a pattern is undone by writing the
pattern between the two parts, provided the pattern does not occur earlier
(`cut_append`).  It may not even begin earlier, so the condition is on the text
in front together with the pattern but for its last character.

*Marks.*  A pattern whose first character stands in it only once cannot overlap itself, so
it is cut where it is written unless the text in front holds it (`cut_mark`).

*Pieces.*  The pieces of a text are found by cutting again and again
(`pieces_of_cut_eq_some`, `cut_induction`), so `pieces` undoes `join` where no
separator arises inside a part or across a joint (`pieces_join_char`).

*Trimming.*  A text is trimmed when its two ends are not in the class
(`trim_eq_self_iff`).
-/

namespace Mycelium.Text

variable {pat sep s a b : Text} {c : Char}

/-! ## Cuts -/

/-- A pattern that does not begin earlier is cut where it was written. -/
theorem cut_append (hp : pat ≠ []) (h : ¬ pat <:+: a ++ pat.dropLast) (b : Text) :
    cut pat (a ++ pat ++ b) = some (a, b) := by
  induction a with
  | nil =>
      cases hs : pat ++ b with
      | nil => exact absurd (List.append_eq_nil_iff.1 hs).1 hp
      | cons d r =>
          have hpre : pat.isPrefixOf (d :: r) = true :=
            List.isPrefixOf_iff_prefix.2 ⟨b, hs⟩
          rw [List.nil_append, hs, cut, if_pos hpre, ← hs]
          simp
  | cons d a ih =>
      have hpre : ¬ pat.isPrefixOf (d :: (a ++ pat ++ b)) = true := by
        intro hpre
        have h1 : pat <+: d :: a ++ pat ++ b := by
          simpa using List.isPrefixOf_iff_prefix.1 hpre
        have h2 : d :: a ++ pat.dropLast <+: d :: a ++ pat ++ b := by
          rw [List.append_assoc, List.prefix_append_right_inj]
          exact (List.dropLast_prefix pat).trans (List.prefix_append pat b)
        have hlen : pat.length ≤ (d :: a ++ pat.dropLast).length := by
          have := List.length_pos_iff.2 hp
          simp
          omega
        exact h (List.prefix_of_prefix_length_le h1 h2 hlen).isInfix
      have hrest : ¬ pat <:+: a ++ pat.dropLast := by
        intro hi
        exact h (hi.trans (List.suffix_cons d _).isInfix)
      simp only [List.cons_append]
      rw [cut, if_neg hpre, ih hrest]
      rfl

/-- What is written behind a text that is cut goes into the second part. -/
theorem cut_append_right (hp : pat ≠ []) (h : cut pat s = some (a, b)) (rest : Text) :
    cut pat (s ++ rest) = some (a, b ++ rest) := by
  induction s generalizing a with
  | nil =>
      cases pat with
      | nil => exact absurd rfl hp
      | cons d q => simp [cut] at h
  | cons d r ih =>
      rw [cut] at h
      split at h
      · next hpre =>
          cases h
          obtain ⟨t, ht⟩ := List.isPrefixOf_iff_prefix.1 hpre
          have hpre' : pat.isPrefixOf (d :: (r ++ rest)) = true :=
            List.isPrefixOf_iff_prefix.2 ⟨t ++ rest, by rw [← List.append_assoc, ht]; rfl⟩
          rw [List.cons_append, cut, if_pos hpre', ← List.cons_append, ← ht, List.append_assoc,
            List.drop_left, List.drop_left]
      · next hpre =>
          obtain ⟨⟨x, y⟩, hc, he⟩ := Option.map_eq_some_iff.1 h
          simp only [Prod.mk.injEq] at he
          obtain ⟨rfl, rfl⟩ := he
          have hlen : pat.length ≤ (d :: r).length := by
            rw [cut_eq_some hc]
            simp
            omega
          have hpre' : ¬ pat.isPrefixOf (d :: (r ++ rest)) = true := by
            rw [List.isPrefixOf_iff_prefix] at hpre ⊢
            intro hp'
            exact hpre (List.prefix_of_prefix_length_le hp' (List.prefix_append (d :: r) rest) hlen)
          rw [List.cons_append, cut, if_neg hpre', ih hc]
          rfl

/-- The text in front of a cut does not hold the pattern. -/
theorem not_infix_of_cut (hp : pat ≠ []) (h : cut pat s = some (a, b)) : ¬ pat <:+: a := by
  induction s generalizing a with
  | nil =>
      cases pat with
      | nil => exact absurd rfl hp
      | cons d q => simp [cut] at h
  | cons d r ih =>
      rw [cut] at h
      split at h
      · cases h
        simpa using hp
      · next hpre =>
          obtain ⟨⟨x, y⟩, hc, he⟩ := Option.map_eq_some_iff.1 h
          simp only [Prod.mk.injEq] at he
          obtain ⟨rfl, rfl⟩ := he
          rw [List.infix_cons_iff]
          rintro (hi | hi)
          · have hr : r = x ++ pat ++ y := cut_eq_some hc
            apply hpre
            rw [List.isPrefixOf_iff_prefix, hr, List.append_assoc]
            exact hi.trans (List.prefix_append (d :: x) (pat ++ y))
          · exact ih hc hi

/-- A cut at a character. -/
theorem cut_char (h : c ∉ a) (b : Text) : cut [c] (a ++ c :: b) = some (a, b) := by
  have hi : ¬ [c] <:+: a ++ [c].dropLast := by
    rw [List.singleton_infix_iff]
    simpa using h
  simpa using cut_append (List.cons_ne_nil c []) hi b

/-- Where a character does not occur there is no cut at it. -/
theorem cut_char_eq_none (h : c ∉ s) : cut [c] s = none := by
  rwa [cut_eq_none_iff, List.singleton_infix_iff]

/-- The text in front of a cut at a character does not hold it. -/
theorem not_mem_of_cut_char (h : cut [c] s = some (a, b)) : c ∉ a := by
  rw [← List.singleton_infix_iff]
  exact not_infix_of_cut (List.cons_ne_nil c []) h

/-- What follows a cut is shorter than the text. -/
theorem length_lt_of_cut (hp : pat ≠ []) (h : cut pat s = some (a, b)) :
    b.length < s.length := by
  have := List.length_pos_iff.2 hp
  rw [cut_eq_some h]
  simp
  omega

/-- Induction on the cuts of a text. -/
theorem cut_induction {P : Text → Prop} (hp : pat ≠ []) (last : ∀ s, cut pat s = none → P s)
    (next : ∀ s a b, cut pat s = some (a, b) → P b → P s) (s : Text) : P s := by
  induction hn : s.length using Nat.strongRecOn generalizing s with
  | ind n ih =>
      cases hc : cut pat s with
      | none => exact last s hc
      | some p => exact next s p.1 p.2 hc (ih _ (hn ▸ length_lt_of_cut hp hc) _ rfl)

/-! ## Joints -/

theorem prefix_join (t : Text) (ts : List Text) : t <+: join sep (t :: ts) := by
  cases ts <;> simp [join]

theorem append_join (x t : Text) (ts : List Text) :
    x ++ join sep (t :: ts) = join sep ((x ++ t) :: ts) := by
  cases ts <;> simp [join]

theorem join_append_singleton {ts : List Text} (h : ts ≠ []) (t : Text) :
    join sep (ts ++ [t]) = join sep ts ++ sep ++ t := by
  induction ts with
  | nil => exact absurd rfl h
  | cons u us ih =>
      cases us with
      | nil => rfl
      | cons v vs =>
          simp only [List.cons_append, join, List.append_assoc] at ih ⊢
          rw [ih (List.cons_ne_nil v vs)]

theorem filter_join (p : Char → Bool) (ts : List Text) :
    (join sep ts).filter p = join (sep.filter p) (ts.map fun t => t.filter p) := by
  induction ts with
  | nil => rfl
  | cons t ts ih =>
      cases ts with
      | nil => rfl
      | cons u us =>
          simp only [List.map_cons, join, List.filter_append] at ih ⊢
          rw [ih]

/-! ## Patterns across a joint -/

/-- A pattern without a character starts a text that goes on with that character only
if it starts the text in front. -/
theorem prefix_of_prefix_append_cons (h : c ∉ pat) (hp : pat <+: a ++ c :: b) : pat <+: a := by
  rcases Nat.lt_or_ge a.length pat.length with hlt | hle
  · have hac : a ++ [c] <+: a ++ c :: b := ⟨b, by simp⟩
    have hc : a ++ [c] <+: pat :=
      List.prefix_of_prefix_length_le hac hp (by simpa using Nat.succ_le_of_lt hlt)
    exact absurd (hc.subset (by simp)) h
  · exact List.prefix_of_prefix_length_le hp (List.prefix_append a _) hle

/-- A pattern without a character does not reach across it. -/
theorem infix_append_cons_iff (h : c ∉ pat) (hp : pat ≠ []) :
    pat <:+: a ++ c :: b ↔ pat <:+: a ∨ pat <:+: b := by
  constructor
  · intro hi
    obtain hi | hi | ⟨x, y, -, hy, rfl, -, hpre⟩ := List.infix_append_iff_ne_nil.1 hi
    · exact .inl hi
    · rcases List.infix_cons_iff.1 hi with hi | hi
      · exact absurd (List.prefix_nil.1 (prefix_of_prefix_append_cons (a := []) h hi)) hp
      · exact .inr hi
    · have hc : c ∉ y := fun hm => h (List.mem_append_right x hm)
      exact absurd (List.prefix_nil.1 (prefix_of_prefix_append_cons (a := []) hc hpre)) hy
  · rintro (hi | hi)
    · exact List.infix_append_of_infix_left hi
    · exact List.infix_append_of_infix_right (List.infix_cons hi)

/-- A pattern without a character occurs in parts joined by it where it occurs in a part. -/
theorem infix_join_char_iff (h : c ∉ pat) (hp : pat ≠ []) {ts : List Text} :
    pat <:+: join [c] ts ↔ ∃ t ∈ ts, pat <:+: t := by
  induction ts with
  | nil => simpa [join] using hp
  | cons t ts ih =>
      cases ts with
      | nil => simp [join]
      | cons u us =>
          have hj : join [c] (t :: u :: us) = t ++ c :: join [c] (u :: us) := by simp [join]
          rw [hj, infix_append_cons_iff h hp, ih]
          simp

/-- A pattern that holds a character only at its start occurs in parts joined by that
character only where the rest of it starts a later part. -/
theorem exists_prefix_of_cons_infix_join {w : Text} {ts : List Text} (hw : c ∉ w)
    (hts : ∀ t ∈ ts, c ∉ t) (h : c :: w <:+: join [c] ts) : ∃ t ∈ ts.tail, w <+: t := by
  induction ts with
  | nil => simp [join] at h
  | cons t ts ih =>
      have ht : c ∉ t := hts t List.mem_cons_self
      have hts' : ∀ u ∈ ts, c ∉ u := fun u hu => hts u (List.mem_cons_of_mem t hu)
      cases ts with
      | nil => exact absurd (h.subset List.mem_cons_self) ht
      | cons u us =>
          have hstart : w <+: join [c] (u :: us) → w <+: u := by
            cases us with
            | nil => exact id
            | cons v vs =>
                intro hp
                exact prefix_of_prefix_append_cons hw (by simpa [join] using hp)
          obtain hi | hi | ⟨x, y, hx, -, he, hsuf, -⟩ := List.infix_append_iff_ne_nil.1
            (show c :: w <:+: t ++ c :: join [c] (u :: us) by simpa [join] using h)
          · exact absurd (hi.subset List.mem_cons_self) ht
          · rcases List.infix_cons_iff.1 hi with hp | hi
            · exact ⟨u, by simp, hstart (by simpa using hp)⟩
            · obtain ⟨v, hv, hp⟩ := ih hts' hi
              exact ⟨v, List.mem_of_mem_tail (by simpa using hv), hp⟩
          · obtain ⟨d, x, rfl⟩ := List.exists_cons_of_ne_nil hx
            simp only [List.cons_append, List.cons.injEq] at he
            exact absurd (hsuf.subset (by simp [he.1])) ht

/-! ## Marks -/

section Marks

variable {w : Text}

/-- A pattern does not begin in a text that does not hold its first character. -/
theorem infix_append_of_not_mem (h : c ∉ a) : c :: w <:+: a ++ b ↔ c :: w <:+: b := by
  induction a with
  | nil => rfl
  | cons d a ih =>
      simp only [List.mem_cons, not_or] at h
      have hne : ¬ c :: w <+: d :: (a ++ b) := by
        rw [List.cons_prefix_cons]
        exact fun hp => h.1 hp.1
      rw [List.cons_append, List.infix_cons_iff, ih h.2]
      simp [hne]

/-- A mark that starts a text is over where its first character comes again. -/
theorem prefix_append_mark_iff (h : c ∉ w) (ha : a ≠ []) :
    c :: w <+: a ++ c :: b ↔ c :: w <+: a := by
  cases a with
  | nil => exact absurd rfl ha
  | cons d a =>
      rw [List.cons_append, List.cons_prefix_cons, List.cons_prefix_cons]
      constructor
      · rintro ⟨hd, hp⟩
        exact ⟨hd, prefix_of_prefix_append_cons h hp⟩
      · rintro ⟨hd, hp⟩
        exact ⟨hd, hp.trans (List.prefix_append a (c :: b))⟩

/-- A mark does not reach into a text that starts with its first character. -/
theorem infix_append_mark_iff (h : c ∉ w) :
    c :: w <:+: a ++ c :: b ↔ c :: w <:+: a ∨ c :: w <:+: c :: b := by
  induction a with
  | nil => simp
  | cons d a ih =>
      have hstart := prefix_append_mark_iff (b := b) h (List.cons_ne_nil d a)
      have hwhole : c :: w <:+: d :: a ↔ c :: w <+: d :: a ∨ c :: w <:+: a := List.infix_cons_iff
      rw [List.cons_append] at hstart
      rw [List.cons_append, List.infix_cons_iff, hstart, ih, hwhole, or_assoc]

theorem not_infix_append_dropLast (h : c ∉ w) (ha : ¬ c :: w <:+: a) :
    ¬ c :: w <:+: a ++ (c :: w).dropLast := by
  cases w with
  | nil => simpa using ha
  | cons d w =>
      rw [List.dropLast_cons_cons, infix_append_mark_iff h]
      rintro (hi | hi)
      · exact ha hi
      · have hlen := hi.length_le
        simp only [List.length_cons, List.length_dropLast] at hlen
        omega

/-- A mark is cut where it is written behind a text that does not hold it. -/
theorem cut_mark (h : c ∉ w) (ha : ¬ c :: w <:+: a) (b : Text) :
    cut (c :: w) (a ++ c :: w ++ b) = some (a, b) :=
  cut_append (List.cons_ne_nil c w) (not_infix_append_dropLast h ha) b

/-- A pattern that neither begins in a separator nor reaches across it occurs in joined parts
where it occurs in a part. -/
theorem infix_join_iff {d : Char} {v : Text} (hd : d ∉ c :: w) (hc : c ∉ v) {ts : List Text} :
    c :: w <:+: join (d :: v) ts ↔ ∃ t ∈ ts, c :: w <:+: t := by
  induction ts with
  | nil => simp [join]
  | cons t ts ih =>
      cases ts with
      | nil => simp [join]
      | cons u us =>
          rw [join, List.append_assoc, List.cons_append,
            infix_append_cons_iff hd (List.cons_ne_nil c w), infix_append_of_not_mem hc, ih]
          simp

end Marks

/-! ## Pieces -/

/-- A text without a separator is one piece. -/
theorem pieces_of_cut_eq_none (h : cut sep s = none) : pieces sep s = [s] := by
  induction s with
  | nil => rfl
  | cons d r ih =>
      rw [cut] at h
      split at h
      · cases h
      · next hpre =>
          have hr : pieces sep r = [r] := ih (Option.map_eq_none_iff.1 h)
          rw [pieces] at hr
          rw [pieces, piecesFrom, if_neg (by simp [hpre]), hr]

/-- The first piece ends at the first separator, and the others are those of what
follows. -/
theorem pieces_of_cut_eq_some (hs : sep ≠ []) (h : cut sep s = some (a, b)) :
    pieces sep s = a :: pieces sep b := by
  induction s generalizing a with
  | nil =>
      cases sep with
      | nil => exact absurd rfl hs
      | cons d q => simp [cut] at h
  | cons d r ih =>
      have hne : sep.isEmpty = false := by simpa using hs
      rw [cut] at h
      split at h
      · next hpre =>
          cases h
          rw [pieces, piecesFrom, if_pos (by simp [hne, hpre]), piecesFrom_eq_drop]
          obtain ⟨e, q, rfl⟩ := List.exists_cons_of_ne_nil hs
          rfl
      · next hpre =>
          obtain ⟨⟨x, y⟩, hc, he⟩ := Option.map_eq_some_iff.1 h
          simp only [Prod.mk.injEq] at he
          obtain ⟨rfl, rfl⟩ := he
          have hr := ih hc
          rw [pieces] at hr
          rw [pieces, piecesFrom, if_neg (by simp [hpre]), hr]

/-- Every piece is a part of the text. -/
theorem infix_of_mem_pieces (hs : sep ≠ []) {p : Text} (h : p ∈ pieces sep s) : p <:+: s := by
  induction s using cut_induction hs with
  | last s hc =>
      rw [pieces_of_cut_eq_none hc, List.mem_singleton] at h
      exact h ▸ List.infix_rfl
  | next s a b hc ih =>
      rw [pieces_of_cut_eq_some hs hc, List.mem_cons] at h
      rw [cut_eq_some hc]
      rcases h with rfl | h
      · exact List.infix_append_of_infix_left List.infix_append_left
      · exact List.infix_append_of_infix_right (ih h)

/-- No piece holds the separator. -/
theorem not_infix_of_mem_pieces (hs : sep ≠ []) {p : Text} (h : p ∈ pieces sep s) :
    ¬ sep <:+: p := by
  induction s using cut_induction hs with
  | last s hc =>
      rw [pieces_of_cut_eq_none hc, List.mem_singleton] at h
      exact h ▸ cut_eq_none_iff.1 hc
  | next s a b hc ih =>
      rw [pieces_of_cut_eq_some hs hc, List.mem_cons] at h
      rcases h with rfl | h
      · exact not_infix_of_cut hs hc
      · exact ih h

/-- No piece between characters holds that character. -/
theorem not_mem_of_mem_pieces_char {p : Text} (h : p ∈ pieces [c] s) : c ∉ p := by
  rw [← List.singleton_infix_iff]
  exact not_infix_of_mem_pieces (List.cons_ne_nil c []) h

/-- Parts joined by a separator are the pieces, if no separator begins in a part
other than at its end. -/
theorem pieces_join (hs : sep ≠ []) {ts : List Text} (hne : ts ≠ [])
    (h : ∀ t ∈ ts, ¬ sep <:+: t ++ sep.dropLast) : pieces sep (join sep ts) = ts := by
  induction ts with
  | nil => exact absurd rfl hne
  | cons t ts ih =>
      have ht := h t List.mem_cons_self
      cases ts with
      | nil =>
          refine pieces_of_cut_eq_none (cut_eq_none_iff.2 fun hi => ht ?_)
          exact List.infix_append_of_infix_left hi
      | cons u us =>
          rw [join, pieces_of_cut_eq_some hs (cut_append hs ht _),
            ih (List.cons_ne_nil u us) fun v hv => h v (List.mem_cons_of_mem t hv)]

/-- Parts joined by a character that none of them holds are the pieces. -/
theorem pieces_join_char {ts : List Text} (hne : ts ≠ []) (h : ∀ t ∈ ts, c ∉ t) :
    pieces [c] (join [c] ts) = ts := by
  refine pieces_join (List.cons_ne_nil c []) hne fun t ht hi => h t ht ?_
  simpa [List.singleton_infix_iff] using hi

/-! ## Trimming -/

/-- A trimmed text is a part of the text. -/
theorem trim_isInfix (p : Char → Bool) (s : Text) : trim p s <:+: s := by
  have hend : trimEnd p (trimStart p s) <+: trimStart p s := by
    rw [← List.reverse_suffix, trimEnd, List.reverse_reverse]
    exact List.dropWhile_suffix p
  exact hend.isInfix.trans (List.dropWhile_suffix p).isInfix

theorem trimStart_eq_self_iff {p : Char → Bool} :
    trimStart p s = s ↔ ∀ d ∈ s.head?, p d = false := by
  rw [trimStart, List.dropWhile_eq_self_iff]
  cases s <;> simp

theorem trimEnd_eq_self_iff {p : Char → Bool} :
    trimEnd p s = s ↔ ∀ d ∈ s.getLast?, p d = false := by
  rw [trimEnd, ← List.head?_reverse, ← trimStart_eq_self_iff, trimStart, List.reverse_eq_iff]

/-- A text is trimmed when none of its ends is in the class. -/
theorem trim_eq_self_iff {p : Char → Bool} :
    trim p s = s ↔ (∀ d ∈ s.head?, p d = false) ∧ ∀ d ∈ s.getLast?, p d = false := by
  rw [← trimStart_eq_self_iff, ← trimEnd_eq_self_iff, trim, trimStart]
  constructor
  · intro h
    have h1 := (List.dropWhile_suffix p (l := s)).length_le
    have h2 := (List.dropWhile_suffix p (l := (s.dropWhile p).reverse)).length_le
    have h3 := congrArg List.length h
    simp only [trimEnd, List.length_reverse] at h2 h3
    have hs : s.dropWhile p = s :=
      (List.dropWhile_suffix p).eq_of_length (by omega)
    exact ⟨hs, by rw [hs] at h; exact h⟩
  · rintro ⟨h1, h2⟩
    rw [h1, h2]

/-- Trimming leaves nothing to trim. -/
theorem trim_trim (p : Char → Bool) (s : Text) : trim p (trim p s) = trim p s := by
  have hhead : ∀ (x : Text), ∀ d ∈ (x.dropWhile p).head?, p d = false := by
    intro x d hd
    simpa [Option.mem_def.1 hd] using List.head?_dropWhile_not p x
  rw [trim_eq_self_iff]
  constructor
  · intro d hd
    have hpre : trim p s <+: s.dropWhile p := by
      rw [trim, trimEnd, ← List.reverse_suffix, List.reverse_reverse]
      exact List.dropWhile_suffix p
    obtain ⟨x, hx⟩ := hpre
    refine hhead s d ?_
    rw [← hx, List.head?_append, Option.mem_def.1 hd]
    rfl
  · intro d hd
    rw [trim, trimEnd, List.getLast?_reverse] at hd
    exact hhead _ d hd

/-- A stripped text is blank only if it is empty. -/
theorem isBlankText_strip (s : Text) : isBlankText (strip s) = (strip s).isEmpty := by
  cases hs : strip s with
  | nil => rfl
  | cons d r =>
      have htrim : trim isBlank (d :: r) = d :: r := by
        rw [← hs]
        exact trim_trim isBlank s
      have hd : isBlank d = false := (trim_eq_self_iff.1 htrim).1 d rfl
      simp [isBlankText, hd]

/-- A text that is not empty and a text, both trimmed, are trimmed together. -/
theorem trim_append {p : Char → Bool} (hne : a ≠ []) (ha : trim p a = a) (hb : trim p b = b) :
    trim p (a ++ b) = a ++ b := by
  rw [trim_eq_self_iff] at ha hb ⊢
  obtain ⟨x, a, rfl⟩ := List.exists_cons_of_ne_nil hne
  constructor
  · intro d hd
    exact ha.1 d (by simpa using hd)
  · intro d hd
    rw [List.getLast?_append] at hd
    cases hlast : b.getLast? with
    | none =>
        rw [hlast, Option.none_or] at hd
        exact ha.2 d hd
    | some e =>
        rw [hlast, Option.some_or] at hd
        exact hb.2 d (hlast ▸ hd)

/-- Parts that are trimmed and not empty are trimmed when they are joined. -/
theorem trim_join {p : Char → Bool} {ts : List Text} (h : ∀ t ∈ ts, t ≠ [] ∧ trim p t = t) :
    trim p (join sep ts) = join sep ts := by
  have hjoin : (∀ d ∈ (join sep ts).head?, p d = false) ∧
      (∀ d ∈ (join sep ts).getLast?, p d = false) ∧ (ts ≠ [] → join sep ts ≠ []) := by
    induction ts with
    | nil => simp [join]
    | cons t ts ih =>
        obtain ⟨ht, htrim⟩ := h t List.mem_cons_self
        rw [trim_eq_self_iff] at htrim
        cases ts with
        | nil => exact ⟨htrim.1, htrim.2, fun _ => ht⟩
        | cons u us =>
            obtain ⟨-, h2, h3⟩ := ih fun v hv => h v (List.mem_cons_of_mem t hv)
            obtain ⟨x, t, rfl⟩ := List.exists_cons_of_ne_nil ht
            obtain ⟨y, hy⟩ := Option.ne_none_iff_exists'.1
              (mt List.getLast?_eq_none_iff.1 (h3 (List.cons_ne_nil u us)))
            have hfirst : ∀ d ∈ (join sep ((x :: t) :: u :: us)).head?, p d = false :=
              fun d hd => htrim.1 d (by simpa [join] using hd)
            refine ⟨hfirst, fun d hd => h2 d ?_, by simp [join]⟩
            rw [join, List.getLast?_append, hy, Option.some_or] at hd
            exact hy ▸ hd
  exact trim_eq_self_iff.2 ⟨hjoin.1, hjoin.2.1⟩

/-- Characters of the class in front are trimmed. -/
theorem trim_append_left {p : Char → Bool} (h : ∀ d ∈ a, p d = true) :
    trim p (a ++ s) = trim p s := by
  rw [trim, trim, trimStart, trimStart, List.dropWhile_append_of_pos h]

/-- Characters of the class at the end are trimmed. -/
theorem trim_append_right {p : Char → Bool} (h : ∀ d ∈ b, p d = true) :
    trim p (s ++ b) = trim p s := by
  have hb : b.dropWhile p = [] := List.dropWhile_eq_nil_iff.2 h
  have hend (x : Text) : trimEnd p (x ++ b) = trimEnd p x := by
    rw [trimEnd, trimEnd, List.reverse_append, List.dropWhile_append_of_pos (by simpa using h)]
  rw [trim, trim, trimStart, trimStart, List.dropWhile_append]
  split
  · next he =>
      rw [hb, List.isEmpty_iff.1 he]
  · exact hend _

end Mycelium.Text
