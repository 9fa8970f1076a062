import Mycelium.Credentials.Assignment
import Mycelium.Environment

/-!
# Substitutions

The value of an assignment may have slots for other values.  `${NAME}` is the slot of
a name, and `${NAME:-text}` one with a text for a name that has no value.

A name has the value of the last assignment to it that came before.  Only if there is
none it has that of the environment.  A name that was assigned no value is empty.
-/

namespace Mycelium.Substitution

/-- A slot for the value of a name. -/
structure Slot where
  /-- The name. -/
  name : Text
  /-- The text for a name that has no value. -/
  fallback : Text
  /-- The number of characters of the slot after the dollar sign. -/
  size : Nat

/-- Whether a character may stand in the name of a slot. -/
def isNameChar (c : Char) : Bool := c != ':' && c != '\x7d'

/-- The slot that the text after a dollar sign starts with. -/
def slot? : Text → Option Slot
  | '\x7b' :: r =>
      let name := r.takeWhile isNameChar
      match r.drop name.length with
      | '\x7d' :: _ => some ⟨name, [], name.length + 2⟩
      | ':' :: '-' :: t =>
          let fallback := t.takeWhile (· != '\x7d')
          if fallback.length < t.length then
            some ⟨name, fallback, name.length + fallback.length + 4⟩
          else none
      | _ => none
  | _ => none

/-- The slots of a text, the first `skip` characters of which belong to one that was
already found. -/
def slotsFrom : Nat → Text → List Slot
  | _, [] => []
  | skip + 1, _ :: r => slotsFrom skip r
  | 0, c :: r =>
      match if c = '$' then slot? r else none with
      | some slot => slot :: slotsFrom slot.size r
      | none => slotsFrom 0 r

/-- The slots of a text. -/
def slots (s : Text) : List Slot := slotsFrom 0 s

/-- A text with its slots filled, the first `skip` characters of which belong to one
that was already found. -/
def filledFrom (find : Slot → Text) : Nat → Text → Text
  | _, [] => []
  | skip + 1, _ :: r => filledFrom find skip r
  | 0, c :: r =>
      match if c = '$' then slot? r else none with
      | some slot => find slot ++ filledFrom find slot.size r
      | none => c :: filledFrom find 0 r

/-- A text with its slots filled, from left to right. -/
def filled (find : Slot → Text) (s : Text) : Text := filledFrom find 0 s

/-- What fills a slot, given the values of the names that were assigned. -/
def valueOf (env : Environment) (known : Entries (Option Text)) (slot : Slot) : Text :=
  match known.get? slot.name with
  | some v => v.getD []
  | none => (env.get? slot.name).getD slot.fallback

/-- The values after one more assignment. -/
def assign (env : Environment) (known : Entries (Option Text)) (a : Assignment) :
    Entries (Option Text) :=
  known.put a.name (a.value.map (filled (valueOf env known)))

/-- The values that assignments give to names. -/
def values (env : Environment) (as : List Assignment) : Entries (Option Text) :=
  as.foldl (assign env) []

/-- A text without a dollar sign has no slots to fill. -/
theorem filled_of_not_mem {find : Slot → Text} {s : Text} (h : '$' ∉ s) : filled find s = s := by
  rw [filled]
  induction s with
  | nil => rfl
  | cons c r ih =>
      simp only [List.mem_cons, not_or] at h
      rw [filledFrom, if_neg (Ne.symm h.1)]
      simp [ih h.2]

end Mycelium.Substitution
