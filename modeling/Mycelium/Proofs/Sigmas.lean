import Mycelium.Proofs.LastMatch

/-!
# Triggers and the texts around them

A rule matches a text if the lower case of its trigger occurs in that of the text.  Every character
but one has the same lower case wherever it stands.  A capital sigma has a final form at the end of
a word and a medial form elsewhere, so what stands around a trigger may change its lower case.

`lowerWithin` is the lower case of a text between two others, and the lower case of a whole is that
of its parts, each between the others (`lower_append`).  There are two ways in which a text does not
keep the lower case that it has alone (`lowerWithin_eq_lower_iff`, `ChangesSigma`).

* Its first letter is a sigma.  Alone it begins a word, behind other letters it may end one.
* Its last letter is a sigma.  Alone it ends a word, in front of other letters it does not.

`finds_trigger` says that a rule matches every text that holds its trigger, unless one of these
two changes the trigger.
-/

namespace Mycelium

namespace Text

variable {s t u v before after pre post : Text} {c : Char}

/-! ## Words -/

theorem goesOn_cons (c : Char) (s : Text) :
    goesOn (c :: s) = if isCaseIgnorable c then goesOn s else isCased c := by
  cases h : isCaseIgnorable c <;> simp [goesOn, h]

theorem goesOn_of_all (h : s.all isCaseIgnorable = true) : goesOn s = false := by
  induction s with
  | nil => rfl
  | cons c s ih =>
      simp only [List.all_cons, Bool.and_eq_true] at h
      simp [goesOn_cons, h.1, ih h.2]

/-- Whether a word goes on is told by the first character that is not ignorable. -/
theorem goesOn_append (s t : Text) :
    goesOn (s ++ t) = if s.all isCaseIgnorable then goesOn t else goesOn s := by
  induction s with
  | nil => simp
  | cons c s ih => cases h : isCaseIgnorable c <;> simp [goesOn_cons, h, ih]

theorem goesOn_append_of_goesOn (h : goesOn s = true) (t : Text) : goesOn (s ++ t) = true := by
  rw [goesOn_append]
  split
  · next hall => simp [goesOn_of_all hall] at h
  · exact h

/-- Whether a capital sigma between two texts ends a word. -/
def endsWord (before after : Text) : Bool := goesOn before.reverse && !goesOn after

/-! ## Lower case between two texts -/

/-- The lower case of a character between two texts. -/
def lowerAt (before : Text) (c : Char) (after : Text) : Text :=
  if c = 'Σ' then [if endsWord before after then 'ς' else 'σ'] else lowerChar c

/-- The lower case of a text between two others. -/
def lowerWithin (before : Text) : Text → Text → Text
  | [], _ => []
  | c :: r, after => lowerAt before c (r ++ after) ++ lowerWithin (before ++ [c]) r after

theorem lowerFrom_eq (before s : Text) :
    lowerFrom (goesOn before.reverse) s = lowerWithin before s [] := by
  induction s generalizing before with
  | nil => rfl
  | cons c r ih =>
      have hword : (if isCaseIgnorable c then goesOn before.reverse else isCased c) =
          goesOn (before ++ [c]).reverse := by simp [goesOn_cons]
      rw [lowerFrom, hword, ih]
      simp [lowerWithin, lowerAt, endsWord]

theorem lower_eq (s : Text) : lower s = lowerWithin [] s [] := lowerFrom_eq [] s

theorem lowerWithin_append (before s t after : Text) :
    lowerWithin before (s ++ t) after =
      lowerWithin before s (t ++ after) ++ lowerWithin (before ++ s) t after := by
  induction s generalizing before with
  | nil => simp [lowerWithin]
  | cons c s ih => simp [lowerWithin, ih]

/-- The lower case of a whole is that of its parts, each between the others. -/
theorem lower_append (u t v : Text) :
    lower (u ++ t ++ v) =
      lowerWithin [] u (t ++ v) ++ lowerWithin u t v ++ lowerWithin (u ++ t) v [] := by
  simp [lower_eq, lowerWithin_append]

theorem length_lowerAt (before before' : Text) (c : Char) (after after' : Text) :
    (lowerAt before c after).length = (lowerAt before' c after').length := by
  simp only [lowerAt]
  split <;> rfl

/-- What stands around a text makes its lower case neither longer nor shorter. -/
theorem length_lowerWithin (before before' s after after' : Text) :
    (lowerWithin before s after).length = (lowerWithin before' s after').length := by
  induction s generalizing before before' with
  | nil => rfl
  | cons c r ih =>
      have hfirst := length_lowerAt before before' c (r ++ after) (r ++ after')
      have hrest := ih (before ++ [c]) (before' ++ [c])
      simp [lowerWithin, hfirst, hrest]

/-! ## Sigmas that change -/

/-- How the texts around a text change the form of one of its capital sigmas. -/
inductive ChangesSigma (u t v : Text) : Prop where
  /-- A sigma that begins the first word ends one that has begun before it. -/
  | becomesFinal {pre post : Text} (split : t = pre ++ 'Σ' :: post)
      (first : pre.all isCaseIgnorable = true) (begun : goesOn u.reverse = true)
      (ends : goesOn (post ++ v) = false) : ChangesSigma u t v
  /-- A sigma that ends the last word stands in one that goes on behind it. -/
  | becomesMedial {pre post : Text} (split : t = pre ++ 'Σ' :: post)
      (last : post.all isCaseIgnorable = true) (begun : goesOn pre.reverse = true)
      (continues : goesOn v = true) : ChangesSigma u t v

/-- A sigma changes if it ends a word either between the texts around or alone. -/
theorem changesSigma_of_endsWord_ne (split : t = pre ++ 'Σ' :: post)
    (changes : endsWord (u ++ pre) (post ++ v) ≠ endsWord pre post) : ChangesSigma u t v := by
  simp only [endsWord, List.reverse_append, goesOn_append, List.all_reverse] at changes
  cases hpre : pre.all isCaseIgnorable with
  | true =>
      -- the sigma begins the first word, so alone it ends none
      have hnone : goesOn pre.reverse = false := goesOn_of_all (by simpa using hpre)
      simp only [hpre, hnone] at changes
      have hbegun : goesOn u.reverse = true := by
        cases hu : goesOn u.reverse with
        | true => rfl
        | false => simp [hu] at changes
      refine .becomesFinal split hpre hbegun ?_
      rw [goesOn_append]
      simpa only [hbegun, if_true, Bool.true_and, Bool.false_and, ne_eq, Bool.not_eq_false,
        Bool.not_eq_true'] using changes
  | false =>
      -- the word has begun in front of the sigma, so only what follows makes a difference
      cases hbegun : goesOn pre.reverse with
      | false => simp [hpre, hbegun] at changes
      | true =>
          cases hpost : post.all isCaseIgnorable with
          | false => simp [hpre, hbegun, hpost] at changes
          | true =>
              have hnone : goesOn post = false := goesOn_of_all hpost
              refine .becomesMedial split hpost hbegun ?_
              simpa [hpre, hbegun, hpost, hnone] using changes

theorem ChangesSigma.exists_endsWord_ne (changes : ChangesSigma u t v) :
    ∃ pre post, t = pre ++ 'Σ' :: post ∧
      endsWord (u ++ pre) (post ++ v) ≠ endsWord pre post := by
  cases changes with
  | @becomesFinal pre post split first begun ends =>
      have hnone : goesOn pre.reverse = false := goesOn_of_all (by simpa using first)
      refine ⟨pre, post, split, ?_⟩
      simp [endsWord, goesOn_append pre.reverse, first, begun, ends, hnone]
  | @becomesMedial pre post split last begun continues =>
      have hnone : goesOn post = false := goesOn_of_all last
      refine ⟨pre, post, split, ?_⟩
      simp [endsWord, goesOn_append post, goesOn_append_of_goesOn begun, last, begun, continues,
        hnone]

theorem lowerAt_eq_iff (before before' : Text) (c : Char) (after after' : Text) :
    lowerAt before c after = lowerAt before' c after' ↔
      (c = 'Σ' → endsWord before after = endsWord before' after') := by
  by_cases hc : c = 'Σ'
  · cases h : endsWord before after <;> cases h' : endsWord before' after' <;>
      simp [lowerAt, hc, h, h']
  · simp [lowerAt, hc]

/-- Two lower cases of a text are the same if every capital sigma ends a word in both or in
none. -/
theorem lowerWithin_eq_iff (u u' t v v' : Text) :
    lowerWithin u t v = lowerWithin u' t v' ↔
      ∀ pre post, t = pre ++ 'Σ' :: post →
        endsWord (u ++ pre) (post ++ v) = endsWord (u' ++ pre) (post ++ v') := by
  induction t generalizing u u' with
  | nil => simp [lowerWithin]
  | cons c r ih =>
      have hparts : lowerWithin u (c :: r) v = lowerWithin u' (c :: r) v' ↔
          lowerAt u c (r ++ v) = lowerAt u' c (r ++ v') ∧
            lowerWithin (u ++ [c]) r v = lowerWithin (u' ++ [c]) r v' := by
        constructor
        · intro h
          exact List.append_inj h (length_lowerAt u u' c (r ++ v) (r ++ v'))
        · rintro ⟨hfirst, hrest⟩
          rw [lowerWithin, lowerWithin, hfirst, hrest]
      rw [hparts, lowerAt_eq_iff, ih]
      constructor
      · rintro ⟨hfirst, hrest⟩ pre post hsplit
        cases pre with
        | nil =>
            obtain ⟨rfl, rfl⟩ := List.cons.inj hsplit
            simpa using hfirst rfl
        | cons d pre =>
            obtain ⟨rfl, rfl⟩ := List.cons.inj hsplit
            simpa using hrest pre post rfl
      · intro h
        constructor
        · intro hc
          simpa using h [] r (by rw [hc]; rfl)
        · intro pre post hsplit
          simpa using h (c :: pre) post (by rw [hsplit]; rfl)

/-- A text keeps the lower case that it has alone, unless one of its sigmas changes. -/
theorem lowerWithin_eq_lower_iff (u t v : Text) :
    lowerWithin u t v = lower t ↔ ¬ ChangesSigma u t v := by
  rw [lower_eq, lowerWithin_eq_iff]
  constructor
  · intro keeps changes
    obtain ⟨pre, post, split, hne⟩ := changes.exists_endsWord_ne
    exact hne (by simpa using keeps pre post split)
  · intro keeps pre post split
    by_contra hne
    exact keeps (changesSigma_of_endsWord_ne split (by simpa using hne))

/-- What the lower case of a whole has at the place of a part. -/
theorem lower_at_place (u t v : Text) :
    ((lower (u ++ t ++ v)).drop (lower u).length).take (lower t).length = lowerWithin u t v := by
  have hu := length_lowerWithin [] [] u (t ++ v) []
  have ht := length_lowerWithin u [] t v []
  rw [lower_append, List.append_assoc, lower_eq u, ← hu, List.drop_left, lower_eq t, ← ht,
    List.take_left]

end Text

namespace RuleSystem

open Text

/-- A rule matches every text that holds its trigger, and its rule system answers with the response
of a rule that matches, unless the text around the trigger changes one of its sigmas.  Nothing else
keeps the lower case of the trigger from standing where the trigger stands. -/
theorem finds_trigger (s : RuleSystem) {r : Rule} (mem : r ∈ s.rules) (u v : Text) :
    (¬ ChangesSigma u r.trigger v → r.matchesText (u ++ r.trigger ++ v) = true ∧
      ∃ x ∈ s.rules, x.matchesText (u ++ r.trigger ++ v) = true ∧
        s.respond (u ++ r.trigger ++ v) = x.response) ∧
    (((lower (u ++ r.trigger ++ v)).drop (lower u).length).take (lower r.trigger).length =
      lower r.trigger ↔ ¬ ChangesSigma u r.trigger v) := by
  have hplace := lowerWithin_eq_lower_iff u r.trigger v
  refine ⟨fun keeps => ?_, by rw [lower_at_place, hplace]⟩
  have hmatch : r.matchesText (u ++ r.trigger ++ v) = true := by
    rw [Rule.matchesText, occursIn_iff, lower_append, hplace.2 keeps]
    exact List.infix_append _ _ _
  have hsome : s.matchesText (u ++ r.trigger ++ v) = true := List.any_eq_true.2 ⟨r, mem, hmatch⟩
  exact ⟨hmatch, exists_respond_eq hsome⟩

/-- A rule whose trigger ends with a sigma. -/
def lastSigma : Rule := ⟨['Α', 'Σ'], ['b'], none, .empty, by decide⟩

/-- A rule whose trigger is a sigma. -/
def loneSigma : Rule := ⟨['Σ'], ['b'], none, .empty, by decide⟩

/-- Between other words a trigger keeps its lower case. -/
theorem finds_trigger_betweenWords :
    let s : RuleSystem := ⟨[loneSigma, lastSigma]⟩
    lastSigma ∈ s.rules ∧ ¬ ChangesSigma ['Α', ' '] lastSigma.trigger ['.', ' ', 'Α'] ∧
      lastSigma.matchesText ['Α', ' ', 'Α', 'Σ', '.', ' ', 'Α'] = true ∧
      ∃ x ∈ s.rules, x.matchesText ['Α', ' ', 'Α', 'Σ', '.', ' ', 'Α'] = true ∧
        s.respond ['Α', ' ', 'Α', 'Σ', '.', ' ', 'Α'] = x.response := by
  intro s
  have mem : lastSigma ∈ s.rules := .tail _ (.head _)
  have keeps : ¬ ChangesSigma ['Α', ' '] lastSigma.trigger ['.', ' ', 'Α'] :=
    (lowerWithin_eq_lower_iff _ _ _).1 (by decide +kernel)
  exact ⟨mem, keeps, (finds_trigger s mem ['Α', ' '] ['.', ' ', 'Α']).1 keeps⟩

/-- A trigger that ends with a sigma is not found in front of a letter, and one that is a sigma
is not found behind a letter. -/
theorem misses_trigger_at_sigma :
    lastSigma.matchesText ([] ++ lastSigma.trigger ++ ['Α']) = false ∧
      respond ⟨[lastSigma]⟩ ([] ++ lastSigma.trigger ++ ['Α']) = noMatch ∧
      loneSigma.matchesText (['Α'] ++ loneSigma.trigger ++ []) = false ∧
      respond ⟨[loneSigma]⟩ (['Α'] ++ loneSigma.trigger ++ []) = noMatch := by
  decide +kernel

end RuleSystem

end Mycelium
