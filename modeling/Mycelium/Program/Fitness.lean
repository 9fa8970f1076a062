import Mycelium.Program.Parser
import Mycelium.Number.Reading

/-!
# The fitness beside a program

A published program is followed by `Fitness:` and a number: digits with an
optional minus sign, fraction and exponent.  The first such place after the end
marker counts, or in the whole text when there is no end marker.  A number that
is too large for a double counts as none.
-/

namespace Mycelium

/-- A rule system and the fitness it reached. -/
structure Scored where
  /-- The rule system. -/
  system : RuleSystem
  /-- The fitness, higher is better. -/
  fitness : Float

namespace Program

/-- The label in front of a fitness. -/
def fitnessLabel : Text := "Fitness:".toList

/-- Digits after a character, if both are at the start of a text. -/
def digitsAfter (c : Char) : Text → Text
  | d :: r =>
      let ds := r.takeWhile Text.isDigit
      if d = c && !ds.isEmpty then d :: ds else []
  | [] => []

/-- The exponent at the start of a text, as it stands there. -/
def exponentText : Text → Text
  | c :: r =>
      if c = 'e' || c = 'E' then
        let sign := if r.head? = some '-' || r.head? = some '+' then r.take 1 else []
        let ds := (r.drop sign.length).takeWhile Text.isDigit
        if ds.isEmpty then [] else c :: (sign ++ ds)
      else []
  | [] => []

/-- The number at the start of a text, as it stands there. -/
def numberText? (s : Text) : Option Text :=
  let sign := if s.head? = some '-' then ['-'] else []
  let rest := s.drop sign.length
  let whole := rest.takeWhile Text.isDigit
  if whole.isEmpty then none
  else
    let fraction := digitsAfter '.' (rest.drop whole.length)
    let exponent := exponentText (rest.drop (whole.length + fraction.length))
    some (sign ++ whole ++ fraction ++ exponent)

/-- The number after the first label that a number follows. -/
def labelled? : Text → Option Text
  | [] => none
  | c :: r =>
      let here :=
        if fitnessLabel.isPrefixOf (c :: r) then
          numberText? (((c :: r).drop fitnessLabel.length).dropWhile Text.isBlank)
        else none
      match here with
      | some t => some t
      | none => labelled? r

/-- The part of a text in which a fitness is looked for. -/
def afterProgram (m : Markers) (s : Text) : Text := ((Text.cut m.stop s).map (·.2)).getD s

/-- The fitness that a text gives. -/
def fitness? (m : Markers) (s : Text) : Option Float :=
  ((labelled? (afterProgram m s)).bind Number.readFloat?).filter Binary64.isFinite

/-- The rule system and the fitness that a text gives, the fitness zero if it gives
none. -/
def observation? (m : Markers) (s : Text) : Option Scored :=
  match parse m s with
  | .ok system => if system.rules.isEmpty then none else some ⟨system, (fitness? m s).getD 0.0⟩
  | .error _ => none

end Program

end Mycelium
