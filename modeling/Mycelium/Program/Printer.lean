import Mycelium.Rule.System

/-!
# Programs

A program is the one-line form in which bots exchange rule systems.  A clause is
the trigger, the response, the condition if there is one that is not empty, and
the template if it is not empty, with bars between them:

    trigger|RESPONSE:response|CONDITION:condition|TEMPLATE:k=v,k=v

The clauses follow each other with `|RULE:` between them and `RULE:` in front,
and stand between a start and an end marker.  Nothing is escaped.
-/

namespace Mycelium

/-- The marks around a program. -/
structure Markers where
  /-- The mark in front of a program. -/
  start : Text
  /-- The mark behind a program. -/
  stop : Text

/-- The marks that every bot writes. -/
def Markers.usual : Markers := ⟨"FUNGISTART".toList, "FUNGIEND".toList⟩

/-- The label of a clause. -/
def ruleLabel : Text := "RULE:".toList

/-- What stands between two clauses. -/
def ruleSeparator : Text := '|' :: ruleLabel

/-- A template as it stands in a clause. -/
def Template.written (t : Template) : Text :=
  Text.join [','] (t.entries.map fun e => e.1 ++ ['='] ++ e.2)

/-- The clause of a rule. -/
def Rule.clause (r : Rule) : Text :=
  let condition : List Text :=
    match r.condition with
    | some c => if c.isEmpty then [] else ["CONDITION:".toList ++ c]
    | none => []
  let template : List Text :=
    if r.template.entries.isEmpty then [] else ["TEMPLATE:".toList ++ r.template.written]
  Text.join ['|'] ([r.trigger, "RESPONSE:".toList ++ r.response] ++ condition ++ template)

/-- The clauses of a rule system, the first one after a label. -/
def RuleSystem.body (s : RuleSystem) : Text :=
  let clauses := Text.join ruleSeparator (s.rules.map Rule.clause)
  if clauses.isEmpty then [] else ruleLabel ++ clauses

/-- The program of a rule system. -/
def RuleSystem.program (s : RuleSystem) : Text :=
  Markers.usual.start ++ [' '] ++ s.body ++ [' '] ++ Markers.usual.stop

end Mycelium
