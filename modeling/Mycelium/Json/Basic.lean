import Mycelium.Entries

/-!
# JSON values

Settings and state files hold JSON.  Integers and doubles are different values,
and an object keeps its members in the order in which their names first
appeared.  Arrays and objects that are read or written stand in each other up to a depth.
-/

namespace Mycelium

/-- A JSON value. -/
inductive Json where
  /-- The null value. -/
  | null
  /-- A truth value. -/
  | bool (b : Bool)
  /-- An integer of any size. -/
  | int (n : Int)
  /-- A double. -/
  | float (x : Float)
  /-- A string. -/
  | str (s : Text)
  /-- An array. -/
  | arr (xs : List Json)
  /-- An object, as the list of its members. -/
  | obj (members : List (Text × Json))

instance : Inhabited Json := ⟨.null⟩

/-- The members of an object. -/
abbrev Members := Entries Json

/-- The greatest depth of an array or object that is read. -/
def Json.depthLimit : Nat := 987

end Mycelium
