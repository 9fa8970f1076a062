import Mycelium.Program.Printer
import Mycelium.Text.Quoted

/-!
# Reading programs

A message may hold a program anywhere; what stands outside its markers is
ignored.

* The program lies between the first start marker and the first end marker after
  it.  Line breaks are dropped from it.
* It is taken to pieces at every `|RULE:`.  A piece of blanks and bars only is
  passed over; every other one must be a clause.
* A clause is taken to parts at its bars.  The first part is the trigger, a label
  in front of it dropped.  Of the others the part up to the first colon is a key.
  The last `RESPONSE`, `CONDITION` and `TEMPLATE` count, and parts with another key
  or no colon are passed over.
* A trigger and a response are needed.  An empty condition is none.
* A template is taken to entries at its commas; one without an equals sign or
  without a name is passed over.

Blanks around every part, key, name and value are dropped.

`parse` makes a rule as soon as it is known that its trigger is not blank.  `made` reads all parts
of a clause first and makes the rule after that, so that a rule may refuse its trigger.
-/

namespace Mycelium.Program

/-- Why a text holds no program. -/
inductive Error where
  /-- There is no start marker. -/
  | noStart (marker : Text)
  /-- There is no end marker after the start marker. -/
  | noStop (marker : Text)
  /-- A clause has no trigger. -/
  | noTrigger (clause : Text)
  /-- A clause has no response. -/
  | noResponse (clause : Text)
  deriving DecidableEq

/-- What an error says. -/
def Error.message : Error → Text
  | .noStart marker => "did not find program start (".toList ++ marker ++ [')']
  | .noStop marker => "did not find program end (".toList ++ marker ++ [')']
  | .noTrigger clause => "clause without trigger: ".toList ++ clause.quoted
  | .noResponse clause => "clause without RESPONSE: ".toList ++ clause.quoted

/-! ## Clauses -/

/-- A template with one more entry read from a text. -/
def readEntry (t : Template) (entry : Text) : Template :=
  match Text.cut ['='] entry with
  | none => t
  | some (name, value) =>
      let name := Text.strip name
      if name.isEmpty then t else t.put name (Text.strip value)

/-- The template a text denotes. -/
def readTemplate (s : Text) : Template := (Text.pieces [','] s).foldl readEntry .empty

/-- What the parts of a clause after its trigger have said so far. -/
structure Parts where
  /-- The response. -/
  response : Option Text := none
  /-- The condition. -/
  condition : Option Text := none
  /-- The template. -/
  template : Template := .empty

/-- What the parts say when one more was read. -/
def Parts.read (p : Parts) (part : Text) : Parts :=
  match Text.cut [':'] part with
  | none => p
  | some (key, value) =>
      let key := Text.strip key
      let value := Text.strip value
      if key = "RESPONSE".toList then { p with response := some value }
      else if key = "CONDITION".toList then { p with condition := some value }
      else if key = "TEMPLATE".toList then { p with template := readTemplate value }
      else p

/-- A trigger without blanks around it and without a label in front. -/
def readTrigger (s : Text) : Text :=
  let s := Text.strip s
  if ruleLabel.isPrefixOf s then Text.strip (s.drop ruleLabel.length) else s

/-- The rule a clause denotes. -/
def readClause (clause : Text) : Except Error Rule :=
  let parts := Text.pieces ['|'] clause
  let trigger := readTrigger (parts.headD [])
  if h : Text.isBlankText trigger = false then
    let p := (parts.drop 1).foldl Parts.read {}
    match p.response with
    | none => .error (.noResponse clause)
    | some response =>
        let condition := p.condition.filter fun c => !c.isEmpty
        .ok ⟨trigger, response, condition, p.template, h⟩
  else .error (.noTrigger clause)

/-! ## Programs -/

/-- What stands between the markers, without line breaks. -/
def interior (m : Markers) (s : Text) : Except Error Text :=
  match Text.cut m.start s with
  | none => .error (.noStart m.start)
  | some (_, rest) =>
      match Text.cut m.stop rest with
      | none => .error (.noStop m.stop)
      | some (body, _) => .ok (body.filter fun c => c ≠ '\r' && c ≠ '\n')

/-- Whether a piece holds nothing but blanks and bars. -/
def isVoid (piece : Text) : Bool := Text.isBlankText (piece.filter (· ≠ '|'))

/-- The clauses between the markers. -/
def clauses (body : Text) : List Text :=
  ((Text.pieces ruleSeparator body).map Text.strip).filter fun p => !isVoid p

/-- The rule system of the first program in a text. -/
def parse (m : Markers) (s : Text) : Except Error RuleSystem := do
  let body ← interior m s
  let rules ← (clauses body).mapM readClause
  return ⟨rules⟩

/-- Whether a text holds a program with at least one rule. -/
def isProgram (m : Markers) (s : Text) : Bool :=
  match parse m s with
  | .ok system => !system.rules.isEmpty
  | .error _ => false

/-! ## Rules that are made last -/

/-- Why there is no rule system. -/
inductive Refusal where
  /-- The text holds no program. -/
  | malformed (cause : Error)
  /-- A rule refuses its trigger. -/
  | trigger (message : Text)
  deriving DecidableEq

/-- The rule that is made of a clause when its parts have been read. -/
def madeOf (clause : Text) : Except Refusal Rule :=
  let parts := Text.pieces ['|'] clause
  let trigger := readTrigger (parts.headD [])
  if trigger.isEmpty then .error (.malformed (.noTrigger clause))
  else
    let p := (parts.drop 1).foldl Parts.read {}
    match p.response with
    | none => .error (.malformed (.noResponse clause))
    | some response =>
        let condition := p.condition.filter fun c => !c.isEmpty
        match Rule.ofParts? trigger response condition p.template with
        | some r => .ok r
        | none => .error (.trigger Rule.blankTrigger)

/-- The rule system that is made of the first program in a text. -/
def made (m : Markers) (s : Text) : Except Refusal RuleSystem := do
  let body ← (interior m s).mapError .malformed
  let rules ← (clauses body).mapM madeOf
  return ⟨rules⟩

end Mycelium.Program
