import Mycelium.Text.Basic

/-!
# Tags

A tag is a `<`, at least one character that is no `>`, and a `>`.  A line break
tag, and the end of a paragraph together with the start of the next one, become
line feeds; every other tag is dropped.
-/

namespace Mycelium.Markup

/-- The text after the first `>`, and how many characters come before it. -/
def closing? : Text → Option (Nat × Text)
  | [] => none
  | c :: r => if c = '>' then some (0, r) else (closing? r).map fun p => (p.1 + 1, p.2)

/-- Whether a text starts with a word, letters A to Z in either case. -/
def startsWith (word s : Text) : Bool :=
  word.isPrefixOf ((s.take word.length).map fun c =>
    if 'A' ≤ c && c ≤ 'Z' then Char.ofNat (c.toNat + 32) else c)

/-- The length of the line break at the start of a text: a tag `<br>`, or the
tag `</p>` and the next tag that starts with `<p`, only blanks between them. -/
def lineBreak? (s : Text) : Option Nat :=
  if startsWith "<br".toList s then
    let blanks := ((s.drop 3).takeWhile Text.isBlank).length
    match s.drop (3 + blanks) with
    | '>' :: _ => some (3 + blanks + 1)
    | '/' :: '>' :: _ => some (3 + blanks + 2)
    | _ => none
  else if startsWith "</p>".toList s then
    let blanks := ((s.drop 4).takeWhile Text.isBlank).length
    let next := s.drop (4 + blanks)
    if startsWith "<p".toList next then
      (closing? (next.drop 2)).map fun p => 4 + blanks + 2 + p.1 + 1
    else none
  else none

/-- A text with its line breaks turned into line feeds, the first `skip`
characters of which belong to one that was already found. -/
def breakLinesFrom : Nat → Text → Text
  | _, [] => []
  | skip + 1, _ :: r => breakLinesFrom skip r
  | 0, c :: r =>
      match lineBreak? (c :: r) with
      | some size => '\n' :: breakLinesFrom (size - 1) r
      | none => c :: breakLinesFrom 0 r

/-- A text with its line breaks turned into line feeds. -/
def breakLines (s : Text) : Text := breakLinesFrom 0 s

/-- The number of characters of a tag after its `<`, if the text after a `<` makes
one. -/
def tag? (s : Text) : Option Nat :=
  match closing? s with
  | some (n + 1, _) => some (n + 2)
  | _ => none

/-- A text without its tags, the first `skip` characters of which belong to one
that was already found. -/
def dropTagsFrom : Nat → Text → Text
  | _, [] => []
  | skip + 1, _ :: r => dropTagsFrom skip r
  | 0, c :: r =>
      if c = '<' then
        match tag? r with
        | some size => dropTagsFrom size r
        | none => c :: dropTagsFrom 0 r
      else c :: dropTagsFrom 0 r

/-- A text without its tags. -/
def dropTags (s : Text) : Text := dropTagsFrom 0 s

end Mycelium.Markup
