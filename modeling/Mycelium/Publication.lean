import Mycelium.Program.Fitness
import Mycelium.Rule.Fitting

/-!
# Publications

A rule system is published as its program, its fitness and the hashtag.  A
channel may limit the length of a message.

* `fitted?` drops rules at the end until the message fits.  If not even the first
  rule fits, the rule with the shortest clause stands alone, whether it fits or not.
* `forChannel?` publishes the fallback system when that one does not fit either.

An empty system that does not fit has no shortest rule.
-/

namespace Mycelium

/-- A rule system and the message that publishes it. -/
structure Publication where
  /-- The system as it is published. -/
  system : RuleSystem
  /-- The message. -/
  message : Text

namespace Publication

/-- What is written in front of a fitness. -/
def fitnessIntroduction : Text := " Fitness: ".toList

/-- The publication of a system with the text of its fitness. -/
def ofText (s : RuleSystem) (fitness hashtag : Text) : Publication :=
  ⟨s, s.program ++ fitnessIntroduction ++ fitness ++
    (if hashtag.isEmpty then [] else " #".toList ++ hashtag.dropWhile (· == '#'))⟩

/-- The publication of a system with its fitness. -/
def ofScore (s : RuleSystem) (fitness : Float) (hashtag : Text) : Publication :=
  ofText s (plainLayout.text fitness) hashtag

/-- Whether a message keeps to a limit. -/
def fits (limit : Int) (p : Publication) : Bool := (p.message.length : Int) ≤ limit

/-- The first of the rules with the shortest clause. -/
def shortestRule? : List Rule → Option Rule
  | [] => none
  | r :: rs =>
      some (rs.foldl (fun best x => if x.clause.length < best.clause.length then x else best) r)

/-- The publication of the longest start of a system that fits, or else of its
shortest rule. -/
def fitted? (s : RuleSystem) (fitness hashtag : Text) (limit : Int) : Option Publication :=
  let whole := ofText s fitness hashtag
  if limit ≤ 0 || whole.fits limit then some whole
  else
    match s.longest? (fun t => (ofText t fitness hashtag).fits limit) (s.size - 1) with
    | some n => some (ofText (s.first n) fitness hashtag)
    | none => (shortestRule? s.rules).map fun r => ofText ⟨[r]⟩ fitness hashtag

/-! ## The fallback system -/

/-- The rule of the fallback system. -/
def fallbackRule : Rule :=
  ⟨"Hello".toList, "Hello, Fediverse user!".toList, none, .empty, by decide⟩

/-- The system that is used when there is no other. -/
def fallback : RuleSystem := ⟨[fallbackRule]⟩

/-- The publication of a system, or of the fallback system if no rule fits. -/
def forChannel? (s : RuleSystem) (fitness : Float) (hashtag : Text) (limit : Int) :
    Option Publication :=
  (fitted? s (plainLayout.text fitness) hashtag limit).map fun p =>
    if 0 < limit && !p.fits limit then ofScore fallback fitness hashtag else p

end Publication

end Mycelium
