import Mycelium.Text.Basic
import Mycelium.Text.Digit
import Mycelium.Text.Quoted
import Mycelium.Number.Layout

/-!
# Reading numbers

A number may stand between spaces, may have a sign, and may be written in the
decimal digits of any script, with single underscores between digits.

* `readInt`: an integer of at most 4300 digits, leading zeros counted.
* `readFloat?`: a decimal with an optional fraction and exponent, an infinity
  or `nan`, both in any case; the result is the double nearest to it.
-/

namespace Mycelium.Number

/-- Whether a character may stand around a number.  These are the blank
characters without the four information separators. -/
def isSpace (c : Char) : Bool := Text.isBlank c && !(0x1C ≤ c.toNat && c.toNat ≤ 0x1F)

/-- The sign in front of a text, and the text after it. -/
def takeSign : Text → Bool × Text
  | '-' :: r => (true, r)
  | '+' :: r => (false, r)
  | s => (false, s)

/-- The number that decimal digits denote. -/
def ofDigits (s : Text) : Nat := s.foldl (fun n c => 10 * n + (Text.digitValue? c).getD 0) 0

/-! ## Integers -/

/-- Why a text is no integer. -/
inductive Fault where
  /-- The text has another form. -/
  | malformed (source : Text)
  /-- The text has too many digits. -/
  | tooLong (digits : Nat)
  deriving DecidableEq

/-- The greatest number of digits of an integer that is read. -/
def digitLimit : Nat := 4300

/-- What a fault of a number says.  Of a quoted text at most two hundred
characters are shown. -/
def Fault.message : Fault → Text
  | .malformed source =>
      "invalid literal for int() with base 10: ".toList ++ source.quoted.take 200
  | .tooLong n =>
      "Exceeds the limit (4300 digits) for integer string conversion: value has ".toList ++
        Layout.digits n ++
        " digits; use sys.set_int_max_str_digits() to increase the limit".toList

/-- Whether underscores stand only between digits, and there is a digit. -/
def wellGrouped (s : Text) : Bool := (Text.pieces ['_'] s).all fun p => !p.isEmpty

/-- The integer a text denotes.  A text that starts with more than 4300 digits
is too long whatever follows them. -/
def readInt (source : Text) : Except Fault Int :=
  let (negative, s) := takeSign (source.dropWhile isSpace)
  let run := s.takeWhile fun c => Text.isDigit c || c == '_'
  let rest := s.dropWhile fun c => Text.isDigit c || c == '_'
  let ds := run.filter (· != '_')
  if !wellGrouped run then .error (.malformed source)
  else if digitLimit < ds.length then .error (.tooLong ds.length)
  else if rest.all isSpace then .ok (if negative then -(ofDigits ds : Int) else ofDigits ds)
  else .error (.malformed source)

/-! ## Decimals -/

/-- Whether every underscore of a text has a digit before it, `last` being the
character before the text, and a digit after it. -/
def underscoresBetweenDigits : (last : Bool) → Text → Bool
  | _, [] => true
  | last, c :: r =>
      (c != '_' || (last && (r.head?.map Text.isDigit).getD false)) &&
        underscoresBetweenDigits (Text.isDigit c) r

/-- A digit string, which may be empty, and what follows it. -/
def takeDigits (s : Text) : Text × Text := (s.takeWhile Text.isDigit, s.dropWhile Text.isDigit)

/-- The exponent at the start of a text, if it starts with one; no text at all
is the exponent zero. -/
def readExponent? : Text → Option Int
  | [] => some 0
  | c :: r =>
      if c = 'e' || c = 'E' then
        let (negative, s) := takeSign r
        let (ds, rest) := takeDigits s
        if ds.isEmpty || !rest.isEmpty then none
        else some (if negative then -(ofDigits ds : Int) else ofDigits ds)
      else none

/-- The double nearest to `n * 10 ^ e`. -/
def scaled (n : Nat) (e : Int) : Float := Float.ofScientific n (e < 0) e.natAbs

/-- The double nearest to a decimal without a sign. -/
def readUnsigned? (s : Text) : Option Float :=
  let (whole, rest) := takeDigits s
  let (fraction, rest) :=
    match rest with
    | '.' :: r => takeDigits r
    | _ => ([], rest)
  if whole.isEmpty && fraction.isEmpty then none
  else (readExponent? rest).map fun e => scaled (ofDigits (whole ++ fraction)) (e - fraction.length)

/-- A letter A to Z in lower case, and every other character. -/
def smallLetter (c : Char) : Char := if 'A' ≤ c && c ≤ 'Z' then Char.ofNat (c.toNat + 32) else c

/-- The double a text denotes. -/
def readFloat? (source : Text) : Option Float :=
  let s := Text.trim isSpace source
  if !underscoresBetweenDigits false s then none
  else
    let (negative, body) := takeSign (s.filter (· != '_'))
    let word := body.map smallLetter
    let value :=
      if word = "inf".toList || word = "infinity".toList then some (1.0 / 0.0)
      else if word = "nan".toList then some (0.0 / 0.0)
      else readUnsigned? body
    value.map fun x => if negative then -x else x

end Mycelium.Number
