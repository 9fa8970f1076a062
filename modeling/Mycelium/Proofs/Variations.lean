import Mycelium.Breeding.Mutation
import Mycelium.Proofs.CaseImages
import Mycelium.Proofs.Cutting
import Mycelium.Proofs.Draws

/-!
# What a mutation makes of a rule

`Varies` lists the triggers that one change may make of a trigger, and `IsMutantOf` the
rules that a mutation may make of a rule.  This is the only fact about a mutation that other
modules need (`always_mutatedRule`): which changes are drawn, and how often, is of no interest
to them.

A change puts in letters, spaces, and the images of characters in the other case, which are
letters as well (`Varies.mem`).  So it puts in no separator (`Varies.mem_of_separator`).
-/

namespace Mycelium.Breeding

variable {σ : Type} [RandomSource σ]

/-! ## Separators -/

/-- What separates clauses and their parts, or would break the line. -/
def separators : List Char := ['|', '\r', '\n']

/-- There is no separator in the vocabulary. -/
theorem separator_not_mem {c : Char} {w : Text} (mark : c ∈ separators)
    (hw : w ∈ triggerWords ++ responseWords) : c ∉ w := by
  have hwords : ∀ w ∈ triggerWords ++ responseWords, (separators.all fun c => c ∉ w) = true := by
    decide +kernel
  exact of_decide_eq_true (List.all_eq_true.1 (hwords w hw) c mark)

/-! ## Triggers -/

/-- What one change may make of a trigger. -/
inductive Varies (t : Text) : Text → Prop where
  /-- One character changes its case. -/
  | swapCase (i : Fin t.length) :
      Varies t (Text.strip (t.take i ++ Text.swapCase (t.get i) ++ t.drop (i + 1)))
  /-- One character is left out, if there is another one. -/
  | drop (i : Fin t.length) : Varies t (Text.strip (if 1 < t.length then t.eraseIdx i else t))
  /-- A letter is put in. -/
  | insert (i : Fin (t.length + 1)) {c : Char} (letter : c ∈ letters) :
      Varies t (Text.strip (t.take i ++ c :: t.drop i))
  /-- A letter takes the place of one character. -/
  | replace (i : Fin t.length) {c : Char} (letter : c ∈ letters) :
      Varies t (Text.strip (t.set i c))
  /-- A word of the vocabulary is added. -/
  | extend {w : Text} (word : w ∈ triggerWords) : Varies t (t ++ ' ' :: w)
  /-- A letter is added. -/
  | append {c : Char} (letter : c ∈ letters) : Varies t (t ++ [c])

section Varies

variable {t u : Text} {c : Char}

/-- Every character of a changed trigger was in it, is the image of one that was in it, or
was put in. -/
theorem Varies.mem (h : Varies t u) (hc : c ∈ u) :
    c ∈ t ∨ (∃ d ∈ t, c ∈ Text.swapCase d) ∨ c = ' ' ∨ c ∈ letters := by
  have hstrip {s : Text} (hs : c ∈ Text.strip s) : c ∈ s :=
    (Text.trim_isInfix Text.isBlank s).subset hs
  cases h with
  | swapCase i =>
      rcases List.mem_append.1 (hstrip hc) with hc | hc
      · rcases List.mem_append.1 hc with hc | hc
        · exact .inl (List.mem_of_mem_take hc)
        · exact .inr (.inl ⟨t.get i, List.get_mem t i, hc⟩)
      · exact .inl (List.mem_of_mem_drop hc)
  | drop i =>
      have hm := hstrip hc
      split at hm
      · exact .inl (List.mem_of_mem_eraseIdx hm)
      · exact .inl hm
  | insert i letter =>
      rcases List.mem_append.1 (hstrip hc) with hc | hc
      · exact .inl (List.mem_of_mem_take hc)
      · rcases List.mem_cons.1 hc with rfl | hc
        · exact .inr (.inr (.inr letter))
        · exact .inl (List.mem_of_mem_drop hc)
  | replace i letter =>
      rcases List.mem_or_eq_of_mem_set (hstrip hc) with hc | rfl
      · exact .inl hc
      · exact .inr (.inr (.inr letter))
  | extend word =>
      have hletters : ∀ w ∈ triggerWords, w ⊆ letters := by decide
      rcases List.mem_append.1 hc with hc | hc
      · exact .inl hc
      · rcases List.mem_cons.1 hc with rfl | hc
        · exact .inr (.inr (.inl rfl))
        · exact .inr (.inr (.inr (hletters _ word hc)))
  | append letter =>
      rcases List.mem_append.1 hc with hc | hc
      · exact .inl hc
      · exact .inr (.inr (.inr (List.mem_singleton.1 hc ▸ letter)))

/-- A change puts in nothing but letters and spaces. -/
theorem Varies.mem_of_mark (h : Varies t u) (mark : Text.isLetterCode c.toNat = false)
    (other : c ≠ ' ') (hc : c ∈ u) : c ∈ t := by
  rw [← Bool.not_eq_true] at mark
  rcases h.mem hc with hc | ⟨d, hd, hc⟩ | hspace | hletter
  · exact hc
  · rcases Text.mem_swapCase hc with rfl | hletter
    · exact hd
    · exact absurd hletter mark
  · exact absurd hspace other
  · have hletters : (letters.all fun d => Text.isLetterCode d.toNat) = true := by decide
    exact absurd (List.all_eq_true.1 hletters c hletter) mark

theorem Varies.mem_of_separator (h : Varies t u) (mark : c ∈ separators) (hc : c ∈ u) :
    c ∈ t := by
  have hmarks : (separators.all fun c => Text.isLetterCode c.toNat = false ∧ c ≠ ' ') = true := by
    decide
  obtain ⟨hletter, hspace⟩ := of_decide_eq_true (List.all_eq_true.1 hmarks c mark)
  exact h.mem_of_mark hletter hspace hc

/-- A change leaves no blanks around a trigger. -/
theorem Varies.stripped (h : Varies t u) (hne : t ≠ []) (ht : Text.strip t = t) :
    Text.strip u = u := by
  cases h with
  | swapCase | drop | insert | replace => exact Text.trim_trim _ _
  | @extend w word =>
      have hword : ∀ w ∈ triggerWords, w ≠ [] ∧ Text.strip w = w := by decide
      have hjoin : t ++ ' ' :: w = Text.join [' '] [t, w] := by simp [Text.join]
      rw [hjoin]
      refine Text.trim_join fun x hx => ?_
      rcases List.mem_pair.1 hx with rfl | rfl
      · exact ⟨hne, ht⟩
      · exact hword x word
  | append letter =>
      have hletters : ∀ w ∈ letters.map fun c => [c], Text.strip w = w := by decide
      exact Text.trim_append hne ht (hletters _ (List.mem_map_of_mem letter))

end Varies

theorem always_letter : Draw.Always (letter : Draw σ Char) (· ∈ letters) :=
  .bind (.pick fun c => .pure c.2)

theorem always_response : Draw.Always (response : Draw σ Text) (· ∈ responseWords) :=
  .bind (.pick fun w => .pure w.2)

theorem always_extended (t : Text) : Draw.Always (extended t : Draw σ Text) (Varies t) :=
  .bind (.pick fun w => .pure (.extend w.2))

theorem always_altered {e : Edit} (inside : e ≠ .extend) (t : Text) (h : t ≠ []) :
    Draw.Always (altered e t h : Draw σ Text) (Varies t) := by
  refine .bind (.below fun i => ?_)
  cases e with
  | swapCase => exact .bind (.pure (.pure (.swapCase i)))
  | drop => exact .bind (.pure (.pure (.drop i)))
  | insert =>
      refine .bind (.below fun j => .bind (always_letter.mono fun c hc => ?_))
      exact .bind (.pure (.pure (.insert j hc)))
  | replace =>
      refine .bind (always_letter.mono fun c hc => ?_)
      exact .bind (.pure (.pure (.replace i hc)))
  | extend => exact absurd rfl inside

theorem always_perturbed (t : Text) (h : t ≠ []) :
    Draw.Always (perturbed t h : Draw σ Text) (Varies t) := by
  refine .bind (.bind (.pick fun e => .pure ?_))
  split
  · exact always_extended t
  · next inside => exact always_altered inside t h

/-- Another trigger is one that a change makes, and is another one. -/
theorem always_otherTrigger (t : Trigger) (tries : Nat) :
    Draw.Always (otherTrigger t tries : Draw σ Trigger) fun u => Varies t.1 u.1 ∧ u.1 ≠ t.1 := by
  induction tries with
  | zero =>
      refine .bind (always_letter.mono fun c hc => .pure ⟨.append hc, ?_⟩)
      exact fun heq => List.cons_ne_nil c [] (List.append_right_eq_self.1 heq)
  | succ tries ih =>
      refine .bind ((always_perturbed t.1 t.ne_nil).mono fun u hu => ?_)
      split
      · split
        · next other => exact .pure ⟨hu, other⟩
        · exact ih
      · exact ih

/-! ## Rules -/

/-- A rule of the vocabulary. -/
structure IsOfVocabulary (r : Rule) : Prop where
  trigger : r.trigger ∈ triggerWords
  response : r.response ∈ responseWords
  condition : r.condition = none
  template : r.template = .empty

/-- What a mutation may make of a rule. -/
structure IsMutantOf (r q : Rule) : Prop where
  /-- The trigger is another one. -/
  varies : Varies r.trigger q.trigger
  differs : q.trigger ≠ r.trigger
  /-- The response is the same, or one of the vocabulary. -/
  response : q.response = r.response ∨ q.response ∈ responseWords
  condition : q.condition = r.condition
  template : q.template = r.template

theorem always_newRule : Draw.Always (newRule : Draw σ Rule) IsOfVocabulary :=
  .bind (.pick fun w => .bind (always_response.mono fun _ hr => .pure ⟨w.2, hr, rfl, rfl⟩))

theorem always_mutatedRule (rates : Rates) (r : Rule) :
    Draw.Always (mutatedRule rates r : Draw σ Rule) (IsMutantOf r) := by
  refine .bind ((always_otherTrigger _ _).mono fun t ht => .bind (.chance fun b => ?_))
  dsimp only
  split
  · refine .bind (always_response.mono fun a ha => ?_)
    exact .pure ⟨ht.1, ht.2, .inr ha, rfl, rfl⟩
  · exact .bind (.pure (.pure ⟨ht.1, ht.2, .inl rfl, rfl, rfl⟩))

end Mycelium.Breeding
