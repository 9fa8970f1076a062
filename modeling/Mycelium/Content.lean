import Mycelium.Fault
import Mycelium.Markup.Reference
import Mycelium.Markup.Tags

/-!
# The content of a message

Messages of the channel are marked up.  Their plain text has a line feed for every line break, no
tags, and the meaning of every character reference.

The content of a message comes from outside and may be any value.  What does not count as true has
no text, a string is a marked-up text, and every other value is refused.
-/

namespace Mycelium

/-- The plain text of a marked-up one. -/
def Markup.plainText (s : Text) : Except Number.Fault Text := resolve (dropTags (breakLines s))

namespace Content

/-- The plain text of a content. -/
def plainText (content : Json) : Except Fault Text :=
  if content.holds then
    match content with
    | .str s => (Markup.plainText s).mapError .number
    | v => .error (.noText v.kindName)
  else .ok []

/-- The plain text of a string is that of the marked-up text. -/
theorem plainText_str (s : Text) :
    plainText (.str s) = (Markup.plainText s).mapError .number := by
  cases s with
  | nil => rfl
  | cons c r => simp [plainText, Json.holds]

end Content

end Mycelium
