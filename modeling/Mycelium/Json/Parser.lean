import Mycelium.Json.Basic
import Mycelium.Number.Reading

/-!
# Reading JSON

The grammar is that of JSON with the three words `NaN`, `Infinity` and
`-Infinity` as further numbers.  Strings hold no control characters.  Under a
name that appears twice the last value counts.  An integer may have at most 4300
digits; a number with a fraction or an exponent is the double nearest to it.  A
surrogate without its partner has no character and is read as U+FFFD.  Arrays and
objects may stand in each other up to a depth.

The reader goes through the text from left to right and stops at the first
fault.  `parse` gives it one unit of fuel per character, and every step takes a
character, so that the fuel never runs out.
-/

namespace Mycelium.Json

/-- Why a text holds no JSON value. -/
inductive Fault where
  /-- The text does not follow the grammar. -/
  | malformed
  /-- An integer has too many digits. -/
  | number (fault : Number.Fault)
  /-- An array or an object stands too deep. -/
  | tooDeep (kind : Text)
  deriving DecidableEq

/-- Whether a character may stand between tokens. -/
def isSpace (c : Char) : Bool := c = ' ' || c = '\t' || c = '\n' || c = '\r'

/-- The text from the next token on. -/
def skipSpace (s : Text) : Text := s.dropWhile isSpace

/-! ## Numbers -/

/-- A run of ASCII digits and what follows it. -/
def takeDigits (s : Text) : Text × Text :=
  (s.takeWhile Text.isAsciiDigit, s.dropWhile Text.isAsciiDigit)

/-- The fraction at the start of a text, if there is one: its digits and what
follows them. -/
def takeFraction : Text → Option (Text × Text)
  | '.' :: r =>
      let (ds, rest) := takeDigits r
      if ds.isEmpty then none else some (ds, rest)
  | _ => none

/-- The exponent at the start of a text, if there is one, and what follows it. -/
def takeExponent : Text → Option (Int × Text)
  | c :: r =>
      if c = 'e' || c = 'E' then
        let (negative, s) := Number.takeSign r
        let (ds, rest) := takeDigits s
        if ds.isEmpty then none
        else some (if negative then -(Number.ofDigits ds : Int) else Number.ofDigits ds, rest)
      else none
  | [] => none

/-- The digits before the point: a single zero, or digits that start with
another one. -/
def takeWhole : Text → Option (Text × Text)
  | '0' :: r => some (['0'], r)
  | s =>
      let (ds, rest) := takeDigits s
      if ds.isEmpty then none else some (ds, rest)

/-- The number at the start of a text whose minus sign was taken. -/
def readNumber (negative : Bool) (s : Text) : Except Fault (Json × Text) :=
  match takeWhole s with
  | none => .error .malformed
  | some (whole, rest) =>
      let fraction := takeFraction rest
      let afterFraction := (fraction.map (·.2)).getD rest
      let exponent := takeExponent afterFraction
      if fraction.isNone && exponent.isNone then
        if Number.digitLimit < whole.length then .error (.number (.tooLong whole.length))
        else
          let n := Number.ofDigits whole
          .ok (.int (if negative then -(n : Int) else n), rest)
      else
        let ds := (fraction.map (·.1)).getD []
        let x := Number.scaled (Number.ofDigits (whole ++ ds))
          ((exponent.map (·.1)).getD 0 - ds.length)
        .ok (.float (if negative then -x else x), (exponent.map (·.2)).getD afterFraction)

/-! ## Strings -/

/-- The code unit that four hexadecimal digits denote. -/
def unit? (a b c d : Char) : Option Nat := do
  let a ← Text.hexValue? a
  let b ← Text.hexValue? b
  let c ← Text.hexValue? c
  let d ← Text.hexValue? d
  return ((a * 16 + b) * 16 + c) * 16 + d

/-- The character of a code unit that is no half of a pair.  A half has none (see `Text`). -/
def unitChar (u : Nat) : Char := if 0xD800 ≤ u && u ≤ 0xDFFF then '\uFFFD' else Char.ofNat u

/-- The character of a surrogate pair. -/
def pairChar (high low : Nat) : Char :=
  Char.ofNat (0x10000 + (high - 0xD800) * 0x400 + (low - 0xDC00))

/-- The character that a one-letter escape denotes. -/
def escaped? : Char → Option Char
  | '\x22' => some '\x22'
  | '\\' => some '\\'
  | '/' => some '/'
  | 'b' => some '\x08'
  | 'f' => some '\x0C'
  | 'n' => some '\n'
  | 'r' => some '\r'
  | 't' => some '\t'
  | _ => none

/-- The rest of a string whose opening quote was taken, and what follows its
closing quote.  `high` is the first half of a pair that was just read. -/
def readString : (high : Option Nat) → Text → Option (Text × Text)
  | _, [] => none
  | high, '\\' :: 'u' :: a :: b :: c :: d :: r =>
      match unit? a b c d with
      | none => none
      | some u =>
          match high with
          | some h =>
              if 0xDC00 ≤ u && u ≤ 0xDFFF then
                (readString none r).map fun p => (pairChar h u :: p.1, p.2)
              else if 0xD800 ≤ u && u ≤ 0xDBFF then
                (readString (some u) r).map fun p => ('\uFFFD' :: p.1, p.2)
              else (readString none r).map fun p => ('\uFFFD' :: unitChar u :: p.1, p.2)
          | none =>
              if 0xD800 ≤ u && u ≤ 0xDBFF then readString (some u) r
              else (readString none r).map fun p => (unitChar u :: p.1, p.2)
  | high, c :: r =>
      let before : Text := if high.isSome then ['\uFFFD'] else []
      if c = '\x22' then some (before, r)
      else if c = '\\' then
        match r with
        | e :: r' =>
            (escaped? e).bind fun x => (readString none r').map fun p => (before ++ x :: p.1, p.2)
        | [] => none
      else if c.toNat < 0x20 then none
      else (readString none r).map fun p => (before ++ c :: p.1, p.2)

/-! ## Values -/

/-- The text after a word, if it starts with it. -/
def afterWord? (word : String) (s : Text) : Option Text :=
  if word.toList.isPrefixOf s then some (s.drop word.toList.length) else none

mutual

/-- The value at the start of a text, and what follows it.  `room` is the depth that
the value may have. -/
def readValue : (room fuel : Nat) → Text → Except Fault (Json × Text)
  | _, 0, _ => .error .malformed
  | room, fuel + 1, s =>
      match s with
      | '\x22' :: r =>
          match readString none r with
          | some (t, rest) => .ok (.str t, rest)
          | none => .error .malformed
      | '\x7b' :: r =>
          match room, skipSpace r with
          | 0, _ => .error (.tooDeep "object".toList)
          | _, '\x7d' :: rest => .ok (.obj [], rest)
          | room + 1, r' =>
              (readMembers room fuel r').map fun p => (.obj (Entries.putAll [] p.1), p.2)
      | '[' :: r =>
          match room, skipSpace r with
          | 0, _ => .error (.tooDeep "array".toList)
          | _, ']' :: rest => .ok (.arr [], rest)
          | room + 1, r' => (readItems room fuel r').map fun p => (.arr p.1, p.2)
      | '-' :: r =>
          match afterWord? "Infinity" r with
          | some rest => .ok (.float (-1.0 / 0.0), rest)
          | none => readNumber true r
      | _ =>
          match afterWord? "null" s, afterWord? "true" s, afterWord? "false" s,
              afterWord? "NaN" s, afterWord? "Infinity" s with
          | some rest, _, _, _, _ => .ok (.null, rest)
          | _, some rest, _, _, _ => .ok (.bool true, rest)
          | _, _, some rest, _, _ => .ok (.bool false, rest)
          | _, _, _, some rest, _ => .ok (.float (0.0 / 0.0), rest)
          | _, _, _, _, some rest => .ok (.float (1.0 / 0.0), rest)
          | _, _, _, _, _ => readNumber false s

/-- The items of an array that has one, and what follows its bracket. -/
def readItems : (room fuel : Nat) → Text → Except Fault (List Json × Text)
  | _, 0, _ => .error .malformed
  | room, fuel + 1, s => do
      let (v, rest) ← readValue room fuel s
      match skipSpace rest with
      | ']' :: r => return ([v], r)
      | ',' :: r =>
          let (vs, r) ← readItems room fuel (skipSpace r)
          return (v :: vs, r)
      | _ => .error .malformed

/-- The members of an object that has one, and what follows its brace. -/
def readMembers : (room fuel : Nat) → Text → Except Fault (Members × Text)
  | _, 0, _ => .error .malformed
  | room, fuel + 1, s =>
      match s with
      | '\x22' :: r =>
          match readString none r with
          | none => .error .malformed
          | some (name, rest) =>
              match skipSpace rest with
              | ':' :: r => do
                  let (v, rest) ← readValue room fuel (skipSpace r)
                  match skipSpace rest with
                  | '\x7d' :: r => return ([(name, v)], r)
                  | ',' :: r =>
                      let (ms, r) ← readMembers room fuel (skipSpace r)
                      return ((name, v) :: ms, r)
                  | _ => .error .malformed
              | _ => .error .malformed
      | _ => .error .malformed

end

/-- The JSON value a text holds. -/
def parse (s : Text) : Except Fault Json := do
  let (v, rest) ← readValue depthLimit (s.length + 1) (skipSpace s)
  if (skipSpace rest).isEmpty then return v else .error .malformed

end Mycelium.Json
