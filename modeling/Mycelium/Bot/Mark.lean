import Mycelium.Json.Coercion

/-!
# Mention marks

A bot remembers the id of the last mention it is done with.  Ids are numbers as a
rule, and a greater number is newer.  An id that is no number is newer than every
other id.  The mark comes out of a state file, so it may be any value; no mark at
all is older than every id.
-/

namespace Mycelium.Bot

/-- Whether an id is newer than another one. -/
def isAfter (id other : Text) : Bool :=
  match Number.readInt id, Number.readInt other with
  | .ok n, .ok m => m < n
  | _, _ => id != other

/-- Whether an id is newer than a mark.  A mark of a kind that never is a number
cannot be compared with a number. -/
def isNewer (id : Text) (mark : Json) : Except Json.Mismatch Bool :=
  match mark with
  | .null => .ok true
  | .str other => .ok (isAfter id other)
  | _ =>
      match Number.readInt id with
      | .error _ => .ok true
      | .ok n =>
          match mark.toInt with
          | .ok m => .ok (m < n)
          | .error .nan => .ok true
          | .error e => .error e

end Mycelium.Bot
