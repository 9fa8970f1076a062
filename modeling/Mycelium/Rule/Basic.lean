import Mycelium.Text.Basic
import Mycelium.Text.Case
import Mycelium.Rule.Template

/-!
# Rules

A rule gives a response to every text in which its trigger occurs, in any case.
Its trigger is never blank.  A condition and a template are carried along but do
not take part in matching.

Two rules are the same when all four parts are, templates compared without
regard to order.  `Rule.key` is a value that same rules share.
-/

namespace Mycelium

/-- A trigger and a response, perhaps with a condition and default values. -/
structure Rule where
  /-- The text that is looked for. -/
  trigger : Text
  /-- The answer. -/
  response : Text
  /-- The condition. -/
  condition : Option Text
  /-- The default values. -/
  template : Template
  /-- A trigger holds a character that is not blank. -/
  trigger_not_blank : Text.isBlankText trigger = false

namespace Rule

/-- What a blank trigger is refused with. -/
def blankTrigger : Text := "rule trigger must be a non-empty string".toList

/-- The rule of four parts, unless the trigger is blank. -/
def ofParts? (trigger response : Text) (condition : Option Text) (template : Template) :
    Option Rule :=
  if h : Text.isBlankText trigger = false then some ⟨trigger, response, condition, template, h⟩
  else none

/-- Whether two rules are the same. -/
def same (r s : Rule) : Bool :=
  r.trigger == s.trigger && r.response == s.response && r.condition == s.condition &&
    r.template.same s.template

instance : BEq Rule := ⟨same⟩

/-- The parts of a rule with the template sorted by name. -/
def key (r : Rule) : Text × Text × Option Text × Entries Text :=
  (r.trigger, r.response, r.condition, r.template.sorted)

/-- A trigger has at least one character. -/
theorem trigger_ne_nil (r : Rule) : r.trigger ≠ [] := by
  intro h
  have := r.trigger_not_blank
  simp [h, Text.isBlankText] at this

/-! ## Matching -/

/-- Whether the trigger of a rule occurs in a text, case ignored. -/
def matchesText (r : Rule) (text : Text) : Bool :=
  Text.occursIn (Text.lower r.trigger) (Text.lower text)

/-- No rule matches the empty text. -/
theorem not_matchesText_nil (r : Rule) : r.matchesText [] = false := by
  have h : Text.lower r.trigger ≠ [] := fun h => r.trigger_ne_nil (Text.lower_eq_nil_iff.1 h)
  rw [← Bool.not_eq_true, matchesText, Text.occursIn_iff]
  intro hi
  exact h (List.infix_nil.1 hi)

end Rule

end Mycelium
