import Mycelium.Fault

/-!
# Messages

A bot gets messages as values.  A message is an object, and a member that is not
there counts as empty.  A value that is no object is a fault, but only once the bot
comes to it: the messages before it are dealt with.
-/

namespace Mycelium.Bot

/-- A message found under the hashtag. -/
structure Post where
  /-- Its marked-up text. -/
  content : Json

/-- A message that mentions the bot. -/
structure Mention where
  /-- Its id, empty if it has none. -/
  id : Text
  /-- Its marked-up text. -/
  content : Json

/-- The members of a value that has to be an object. -/
def members : Json → Except Fault Members
  | .obj ms => .ok ms
  | v => .error (.noObject v.kindName)

/-- A member, and another value if it is not there. -/
def memberOr (ms : Members) (name : String) (absent : Json) : Json :=
  (ms.get? name.toList).getD absent

/-- The post that a value is. -/
def Post.ofJson (v : Json) : Except Fault Post := do
  return ⟨memberOr (← members v) "content" (.str [])⟩

/-- The mention that a value is. -/
def Mention.ofJson (v : Json) : Except Fault Mention := do
  let status ← members (memberOr (← members v) "status" (.obj []))
  let id := (memberOr status "id" .null).orElse (.str [])
  return ⟨id.shown, memberOr status "content" (.str [])⟩

end Mycelium.Bot
