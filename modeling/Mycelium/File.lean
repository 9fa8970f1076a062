import Mycelium.Json.Parser
import Mycelium.Text.Utf8

/-!
# Files

At a path there is nothing, a directory, or a file with bytes.  `json?` is the
JSON value of a file.  Where there is no file there is no value, and a text that
does not follow the grammar counts as no value either.  Three kinds of files are
refused: those that are not UTF-8, and those in which an integer has too many digits
or a value stands too deep.
-/

namespace Mycelium

/-- What there is at a path. -/
inductive File where
  /-- Nothing. -/
  | missing
  /-- A directory. -/
  | directory
  /-- A file that holds these bytes. -/
  | bytes (content : ByteArray)

namespace File

/-- Why a file is refused. -/
inductive Fault where
  /-- The bytes are not UTF-8. -/
  | notUtf8
  /-- An integer has too many digits. -/
  | number (fault : Number.Fault)
  /-- An array or an object stands too deep. -/
  | tooDeep (kind : Text)
  deriving DecidableEq

/-- What a fault of a file says. -/
def Fault.message : Fault → Text
  | notUtf8 => "the file is not UTF-8".toList
  | number f => f.message
  | tooDeep kind =>
      "maximum recursion depth exceeded while decoding a JSON ".toList ++ kind ++
        " from a unicode string".toList

/-- The file that holds a text. -/
def ofText (s : Text) : File := .bytes (Text.toUtf8 s)

/-- The file without a byte order mark. -/
def withoutMark : File → File
  | .bytes content => .bytes (Text.withoutMark content)
  | f => f

/-- The text of a file, if there is a file. -/
def text? : File → Except Fault (Option Text)
  | .bytes content =>
      match Text.ofUtf8? content with
      | some s => .ok (some s)
      | none => .error .notUtf8
  | _ => .ok none

/-- The JSON value of a text that holds one. -/
def jsonOfText? (s : Text) : Except Fault (Option Json) :=
  match Json.parse s with
  | .ok v => .ok (some v)
  | .error .malformed => .ok none
  | .error (.number f) => .error (.number f)
  | .error (.tooDeep kind) => .error (.tooDeep kind)

/-- The JSON value of a file that holds one. -/
def json? (file : File) : Except Fault (Option Json) := do
  match ← file.text? with
  | some s => jsonOfText? s
  | none => return none

/-- A text is read back from the file that holds it. -/
theorem text?_ofText (s : Text) : (ofText s).text? = .ok (some s) := by
  simp [ofText, text?, Text.ofUtf8?_toUtf8]

end File

end Mycelium
