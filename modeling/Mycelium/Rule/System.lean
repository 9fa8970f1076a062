import Mycelium.Rule.Basic

/-!
# Rule systems

A rule system is a list of rules.  A text gets the response of the last rule that
matches it, so a later rule overrides an earlier one; a text that none matches
gets `noMatch`.
-/

namespace Mycelium

/-- Rules in order. -/
structure RuleSystem where
  /-- The rules. -/
  rules : List Rule

namespace RuleSystem

instance : Inhabited RuleSystem := ⟨⟨[]⟩⟩

/-- Whether two systems have the same rules in the same order. -/
def same (a b : RuleSystem) : Bool := a.rules == b.rules

instance : BEq RuleSystem := ⟨same⟩

/-- The number of rules. -/
def size (s : RuleSystem) : Nat := s.rules.length

/-- The triggers, in order. -/
def triggers (s : RuleSystem) : List Text := s.rules.map Rule.trigger

/-- The triggers with their responses, in order. -/
def pairs (s : RuleSystem) : List (Text × Text) := s.rules.map fun r => (r.trigger, r.response)

/-- The response to a text that no rule matches. -/
def noMatch : Text := "Sorry, no match".toList

/-- The response of the last rule that matches a text. -/
def respond (s : RuleSystem) (text : Text) : Text :=
  s.rules.foldl (fun answer r => if r.matchesText text then r.response else answer) noMatch

end RuleSystem

end Mycelium
