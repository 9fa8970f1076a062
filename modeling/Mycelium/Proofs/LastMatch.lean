import Mathlib.Data.List.Basic
import Mathlib.Data.List.Induction
import Mycelium.Rule.System

/-!
# The last match wins

The answer to a text is the response of the last rule that matches it.  So of a rule system only
the rules that match are of interest, and of those the last one (`respond_eq`).

What follows from it is listed in `GoesByLastMatch`.

* *Order.*  Of two systems one after the other the later one answers, if it can.
* *Frames.*  Rules that do not match may come, go and be moved.  What stands before the last
  rule that matches may be replaced.
* *Inert parts.*  Conditions and templates are not looked at.
* *No text.*  A trigger is not blank, and its lower case is not shorter.  So no rule matches a
  text that is empty or not there.
-/

namespace Mycelium

namespace RuleSystem

variable {a b : RuleSystem} {rules before after : List Rule} {r : Rule} {text answer : Text}

/-! ## Rules that match -/

/-- The rules that match a text, in order. -/
def matching (s : RuleSystem) (text : Text) : List Rule := s.rules.filter (·.matchesText text)

/-- Whether some rule matches a text. -/
def matchesText (s : RuleSystem) (text : Text) : Bool := s.rules.any (·.matchesText text)

theorem matching_eq_nil_iff : a.matching text = [] ↔ a.matchesText text = false := by
  simp [matching, matchesText]

theorem matching_append :
    matching ⟨before ++ after⟩ text = matching ⟨before⟩ text ++ matching ⟨after⟩ text := by
  simp [matching]

/-- The last rule that matches gives the answer. -/
theorem respond_eq (s : RuleSystem) (text : Text) :
    s.respond text = ((s.matching text).getLast?.map Rule.response).getD noMatch := by
  obtain ⟨rules⟩ := s
  induction rules using List.reverseRecOn with
  | nil => rfl
  | append_singleton rules r ih =>
      simp only [respond, matching] at ih
      cases h : r.matchesText text <;> simp [respond, matching, h, ih]

theorem respond_of_not_matchesText (none : a.matchesText text = false) :
    a.respond text = noMatch := by
  rw [respond_eq, matching_eq_nil_iff.2 none]
  rfl

/-- A rule that matches gives the answer if no later one matches. -/
theorem respond_of_last (found : r.matchesText text = true)
    (last : ∀ x ∈ after, x.matchesText text = false) :
    respond ⟨before ++ r :: after⟩ text = r.response := by
  have hafter : matching ⟨after⟩ text = [] := by simpa [matching] using last
  have hsplit : matching ⟨before ++ r :: after⟩ text = matching ⟨before⟩ text ++ [r] := by
    rw [matching_append]
    simpa [matching, found] using hafter
  simp [respond_eq, hsplit]

/-! ## Answers -/

/-- Which answer a list of rules gives to a text. -/
inductive Answers (text : Text) : List Rule → Text → Prop where
  /-- No rule matches. -/
  | unmatched {rules : List Rule} (none : ∀ r ∈ rules, r.matchesText text = false) :
      Answers text rules noMatch
  /-- A rule matches, and no later one does. -/
  | matched {before after : List Rule} {r : Rule} (found : r.matchesText text = true)
      (last : ∀ x ∈ after, x.matchesText text = false) :
      Answers text (before ++ r :: after) r.response

theorem Answers.respond (answers : Answers text rules answer) :
    RuleSystem.respond ⟨rules⟩ text = answer := by
  cases answers with
  | unmatched none => exact respond_of_not_matchesText (by simpa [matchesText] using none)
  | matched found last => exact respond_of_last found last

/-- Every list of rules gives an answer to every text. -/
theorem exists_answers (rules : List Rule) (text : Text) : ∃ answer, Answers text rules answer := by
  induction rules using List.reverseRecOn with
  | nil => exact ⟨noMatch, .unmatched (by simp)⟩
  | append_singleton rules r ih =>
      cases hr : r.matchesText text with
      | true => exact ⟨r.response, .matched hr (by simp)⟩
      | false =>
          obtain ⟨answer, answers⟩ := ih
          cases answers with
          | unmatched none =>
              refine ⟨noMatch, .unmatched fun x hx => ?_⟩
              rcases List.mem_append.1 hx with hx | hx
              · exact none x hx
              · rwa [List.mem_singleton.1 hx]
          | @matched before after last found unmatched =>
              refine ⟨last.response, ?_⟩
              rw [List.append_assoc, List.cons_append]
              refine .matched found fun x hx => ?_
              rcases List.mem_append.1 hx with hx | hx
              · exact unmatched x hx
              · rwa [List.mem_singleton.1 hx]

theorem respond_eq_iff (s : RuleSystem) (text answer : Text) :
    s.respond text = answer ↔ Answers text s.rules answer := by
  refine ⟨fun h => ?_, Answers.respond⟩
  obtain ⟨given, answers⟩ := exists_answers s.rules text
  obtain rfl : given = answer := answers.respond.symm.trans h
  exact answers

/-- If some rule matches, the answer is the response of one that does. -/
theorem exists_respond_eq (found : a.matchesText text = true) :
    ∃ r ∈ a.rules, r.matchesText text = true ∧ a.respond text = r.response := by
  obtain ⟨answer, answers⟩ := exists_answers a.rules text
  have hanswer := (respond_eq_iff a text answer).2 answers
  generalize hrules : a.rules = rules at answers
  cases answers with
  | unmatched none =>
      obtain ⟨r, hr, hmatch⟩ := List.any_eq_true.1 found
      simp [none r (hrules ▸ hr)] at hmatch
  | @matched before after r found last => exact ⟨r, by simp, found, hanswer⟩

/-! ## What decides the answer -/

theorem respond_append (before after : List Rule) (text : Text) :
    respond ⟨before ++ after⟩ text =
      if matchesText ⟨after⟩ text then respond ⟨after⟩ text else respond ⟨before⟩ text := by
  rw [respond_eq, matching_append]
  split
  · next found =>
      have hsome : matching ⟨after⟩ text ≠ [] := by
        intro h
        simp [matching_eq_nil_iff.1 h] at found
      rw [respond_eq, List.getLast?_append_of_ne_nil _ hsome]
  · next none =>
      rw [matching_eq_nil_iff.2 (Bool.eq_false_iff.2 none), List.append_nil, respond_eq]

/-- Whether a rule matches, and what it answers, is told by its trigger and its response. -/
theorem pairs_matching (s : RuleSystem) (text : Text) :
    (s.matching text).map Rule.response =
      (s.pairs.filter fun p => Text.occursIn (Text.lower p.1) (Text.lower text)).map Prod.snd := by
  simp only [matching, pairs, List.filter_map, List.map_map]
  rfl

/-- An answering function goes by the last match, and by nothing else. -/
structure GoesByLastMatch (respond : RuleSystem → Text → Text) : Prop where
  /-- Either no rule matches, or one does after which none matches and that gives its response. -/
  answers : ∀ s text answer, respond s text = answer ↔ Answers text s.rules answer
  /-- Of two systems one after the other the later one answers if any of its rules matches. -/
  append : ∀ before after text, respond ⟨before ++ after⟩ text =
    if matchesText ⟨after⟩ text then respond ⟨after⟩ text else respond ⟨before⟩ text
  /-- Rules that do not match may be left out, put in and moved: what counts is which rules match,
  in order. -/
  unmatched : ∀ a b text, a.matching text = b.matching text → respond a text = respond b text
  /-- What stands before the last rule that matches may be replaced. -/
  earlier : ∀ (before before' after : List Rule) (r : Rule) (text : Text),
    r.matchesText text = true → (∀ x ∈ after, x.matchesText text = false) →
      respond ⟨before ++ r :: after⟩ text = respond ⟨before' ++ r :: after⟩ text
  /-- Conditions and templates make no difference. -/
  inert : ∀ a b text, a.pairs = b.pairs → respond a text = respond b text
  /-- A text that is empty or not there is matched by no rule. -/
  empty : ∀ s (text : Option Text), text.getD [] = [] → respond s (text.getD []) = noMatch

/-- The answer of a rule system goes by the last rule that matches, and the lower case of a trigger
is never empty. -/
theorem goesByLastMatch_respond :
    GoesByLastMatch respond ∧ ∀ r : Rule, Text.lower r.trigger ≠ [] := by
  refine ⟨⟨respond_eq_iff, respond_append, ?_, ?_, ?_, ?_⟩, ?_⟩
  · intro a b text same
    rw [respond_eq, respond_eq, same]
  · intro before before' after r text found last
    rw [respond_of_last found last, respond_of_last found last]
  · intro a b text same
    have hresponses :
        (a.matching text).map Rule.response = (b.matching text).map Rule.response := by
      rw [pairs_matching, pairs_matching, same]
    rw [respond_eq, respond_eq, ← List.getLast?_map, hresponses, List.getLast?_map]
  · intro s text absent
    rw [absent]
    refine respond_of_not_matchesText ?_
    simp [matchesText, Rule.not_matchesText_nil]
  · intro r
    exact fun h => r.trigger_ne_nil (Text.lower_eq_nil_iff.1 h)

end RuleSystem

end Mycelium
