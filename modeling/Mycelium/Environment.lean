import Mycelium.Entries
import Mycelium.Text.Basic
import Mycelium.Text.Case

/-!
# The environment

The environment names texts.  A variable with an empty text counts as one that is
not there.  A variable that turns something on or off has one of eight words,
blanks and case ignored.
-/

namespace Mycelium

/-- The variables of the environment. -/
abbrev Environment := Entries Text

namespace Environment

/-- The text of a variable that has one. -/
def given? (env : Environment) (name : Text) : Option Text :=
  match env.get? name with
  | some [] => none
  | v => v

/-- The home directory.  A path that starts with a tilde does not tell where it is. -/
def home? (env : Environment) : Option Text :=
  match Text.trimEnd (· == '/') ((env.get? "HOME".toList).getD "/root".toList) with
  | [] => some ['/']
  | '~' :: _ => none
  | path => some path

/-- The words that turn something on. -/
def onWords : List Text := ["1".toList, "true".toList, "yes".toList, "on".toList]

/-- The words that turn something off. -/
def offWords : List Text := ["0".toList, "false".toList, "no".toList, "off".toList]

/-- A text with blanks and case ignored. -/
def word (raw : Text) : Text := Text.lower (Text.strip raw)

/-- Whether a text turns something on. -/
def isOn (raw : Text) : Bool := onWords.contains (word raw)

/-- What a text turns something to. -/
def truth? (raw : Text) : Option Bool :=
  if isOn raw then some true
  else if offWords.contains (word raw) then some false
  else none

/-- A variable has a text exactly when it is there with one that is not empty. -/
theorem given?_eq_some_iff {env : Environment} {name v : Text} :
    env.given? name = some v ↔ env.get? name = some v ∧ v ≠ [] := by
  unfold given?
  constructor
  · intro h
    split at h
    · simp at h
    · next hn => exact ⟨h, fun hv => hn (hv ▸ h)⟩
  · rintro ⟨h, hv⟩
    split
    · next he => simp_all
    · exact h

end Environment

end Mycelium
