import Mycelium.Entries
import Mycelium.Text.Basic
import Mycelium.Text.Utf8

/-!
# Assignments

A file of credentials is a row of assignments `NAME=value`, each at the start of a
line.

* Blanks may stand around the name and the value, and the word `export` before the
  name, which may be in single quotes.
* A value without quotes ends with its line, and before a number sign that follows a
  blank.
* A value in quotes may go on over several lines.  It ends at the first such quote
  that no backslash precedes, and if there is none at the last such quote.  In single
  quotes a backslash escapes itself and the quote, in double quotes also the usual
  controls.
* A name alone is there without a value.  A comment may stand behind everything, or
  alone on a line.
* What cannot be read says nothing, up to the end of the line where reading stopped.

A reader takes the text from where it stands.  It gives what it read and the text
after it, or the text where it stopped.
-/

namespace Mycelium

/-- A name, and the value it gets if it gets one. -/
structure Assignment where
  /-- The name. -/
  name : Text
  /-- The value. -/
  value : Option Text
  deriving DecidableEq

namespace Assignment

/-- Whether a character is a blank within a line. -/
def isLineBlank (c : Char) : Bool := Text.isBlank c && c != '\n'

/-- A text from the first character on that is no blank of its line. -/
def skipLineBlanks (s : Text) : Text := Text.trimStart isLineBlank s

/-- A text from its next line feed on. -/
def skipLine (s : Text) : Text := s.dropWhile (· != '\n')

/-- The text after the word `export`, if a blank of the line follows it. -/
def skipExport (s : Text) : Text :=
  let word := "export".toList
  let rest := s.drop word.length
  if word.isPrefixOf s && (rest.head?.map isLineBlank).getD false then skipLineBlanks rest else s

/-- Whether a character may stand in a name without quotes. -/
def isNameChar (c : Char) : Bool := c != '=' && c != '#' && !Text.isBlank c

/-- Whether a character may stand in a name in quotes. -/
def isQuotedNameChar (c : Char) : Bool := c != '\x27'

/-- The name at the start of a text.  A comment has none. -/
def readName : Text → Except Text (Option Text × Text)
  | '#' :: r => .ok (none, '#' :: r)
  | '\x27' :: r =>
      match r.takeWhile isQuotedNameChar, r.dropWhile isQuotedNameChar with
      | c :: name, _ :: rest => .ok (some (c :: name), rest)
      | _, _ => .error ('\x27' :: r)
  | s =>
      match s.takeWhile isNameChar with
      | [] => .error s
      | name => .ok (some name, s.dropWhile isNameChar)

/-- The text before the closing quote, escapes as they are, and the text after it.  A
quote after a backslash closes only if no later one does. -/
def closing? (quote : Char) : Text → Option (Text × Text)
  | [] => none
  | [c] => if c = quote then some ([], []) else none
  | c :: d :: r =>
      if c = quote then some ([], d :: r)
      else if c = '\\' && d = quote then
        match closing? quote r with
        | some p => some (c :: d :: p.1, p.2)
        | none => some ([c], r)
      else (closing? quote (d :: r)).map fun p => (c :: p.1, p.2)

/-- What a backslash makes of the character after it in single quotes. -/
def singleEscape? : Char → Option Char
  | '\\' => some '\\'
  | '\x27' => some '\x27'
  | _ => none

/-- What a backslash makes of the character after it in double quotes. -/
def doubleEscape? : Char → Option Char
  | '\\' => some '\\'
  | '\x27' => some '\x27'
  | '\x22' => some '\x22'
  | 'a' => some '\x07'
  | 'b' => some '\x08'
  | 'f' => some '\x0C'
  | 'n' => some '\n'
  | 'r' => some '\r'
  | 't' => some '\t'
  | 'v' => some '\x0B'
  | _ => none

/-- A text with its escapes resolved.  A backslash that escapes nothing stays. -/
def unescaped (escape? : Char → Option Char) : Text → Text
  | '\\' :: c :: r =>
      match escape? c with
      | some d => d :: unescaped escape? r
      | none => '\\' :: unescaped escape? (c :: r)
  | c :: r => c :: unescaped escape? r
  | [] => []

/-- The text before a number sign that follows a blank. -/
def beforeComment : (afterBlank : Bool) → Text → Text
  | _, [] => []
  | afterBlank, c :: r =>
      if afterBlank && c = '#' then [] else c :: beforeComment (Text.isBlank c) r

/-- The value after an opening quote. -/
def readQuoted (quote : Char) (escape? : Char → Option Char) (r : Text) :
    Except Text (Text × Text) :=
  match closing? quote r with
  | some (value, rest) => .ok (unescaped escape? value, rest)
  | none => .error (quote :: r)

/-- The value at the start of a text. -/
def readValue : Text → Except Text (Text × Text)
  | '\x27' :: r => readQuoted '\x27' singleEscape? r
  | '\x22' :: r => readQuoted '\x22' doubleEscape? r
  | s =>
      let line := s.takeWhile (· != '\n')
      .ok (Text.trimEnd Text.isBlank (beforeComment false line), skipLine s)

/-- The value after a name, if it has one. -/
def readGiven (s : Text) : Except Text (Option Text × Text) :=
  match s with
  | '=' :: r => do
      let (value, rest) ← readValue (skipLineBlanks r)
      return (some value, rest)
  | s => .ok (none, s)

/-- A text without the comment it starts with. -/
def skipComment (s : Text) : Text :=
  match skipLineBlanks s with
  | '#' :: r => skipLine r
  | _ => s

/-- The end of the line, after which the text goes on. -/
def readEnd (s : Text) : Except Text (Unit × Text) :=
  match skipLineBlanks (skipComment s) with
  | [] => .ok ((), [])
  | '\n' :: r => .ok ((), r)
  | r => .error r

/-- An assignment with its line, or the line of a comment. -/
def readOne (s : Text) : Except Text (Option Assignment × Text) := do
  let (name, rest) ← readName (skipExport s)
  let (value, rest) ← readGiven (skipLineBlanks rest)
  let (_, rest) ← readEnd rest
  return (name.map fun n => ⟨n, value⟩, rest)

/-- The assignments of a text, at most so many lines being read. -/
def readAll : Nat → Text → List Assignment
  | 0, _ => []
  | lines + 1, s =>
      match Text.trimStart Text.isBlank s with
      | [] => []
      | s =>
          match readOne s with
          | .ok (a, rest) => a.toList ++ readAll lines rest
          | .error rest => readAll lines (skipLine rest)

/-- The assignments of a text.  Every line that is read has a character, so that there
are no more lines than characters. -/
def ofText (s : Text) : List Assignment := readAll s.length (Text.unifyLines s)

end Assignment

end Mycelium
