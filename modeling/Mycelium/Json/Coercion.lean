import Mycelium.Json.Basic
import Mycelium.Number.Reading

/-!
# Values taken as another kind

A setting may hold a value of another kind than is needed.

* `holds`: false of null, `false`, zero, and everything empty.
* `toInt`: an integer, a truth value as 0 or 1, the integer part of a finite
  double, or the integer a string denotes.
* `toFloat`: a double, the double nearest to an integer, or the one a string
  denotes.
* `shown`: the text a value is put into a message as.
-/

namespace Mycelium.Json

/-- The kind of a value, as it is named in a message. -/
def kindName : Json → Text
  | .null => "NoneType".toList
  | .bool _ => "bool".toList
  | .int _ => "int".toList
  | .float _ => "float".toList
  | .str _ => "str".toList
  | .arr _ => "list".toList
  | .obj _ => "dict".toList

/-- Why a value cannot be taken as a number. -/
inductive Mismatch where
  /-- A value of this kind never is an integer. -/
  | notInteger (kind : Text)
  /-- A value of this kind never is a double. -/
  | notDouble (kind : Text)
  /-- A string denotes no integer. -/
  | integer (fault : Number.Fault)
  /-- A string denotes no double. -/
  | decimal (source : Text)
  /-- `nan` has no integer part. -/
  | nan
  /-- An infinity has no integer part. -/
  | infinite
  /-- An integer is outside the range of a double. -/
  | tooLarge
  deriving DecidableEq

/-- What a mismatch says. -/
def Mismatch.message : Mismatch → Text
  | .notInteger kind =>
      "int() argument must be a string, a bytes-like object or a real number, not '".toList ++
        kind ++ ['\x27']
  | .notDouble kind =>
      "float() argument must be a string or a real number, not '".toList ++ kind ++ ['\x27']
  | .integer fault => fault.message
  | .decimal source => "could not convert string to float: ".toList ++ source.quoted
  | .nan => "cannot convert float NaN to integer".toList
  | .infinite => "cannot convert float infinity to integer".toList
  | .tooLarge => "int too large to convert to float".toList

/-- Whether a value counts as true. -/
def holds : Json → Bool
  | .null => false
  | .bool b => b
  | .int n => n != 0
  | .float x => x != 0.0
  | .str s => !s.isEmpty
  | .arr xs => !xs.isEmpty
  | .obj ms => !ms.isEmpty

/-- A value, or another one if it does not count as true. -/
def orElse (v w : Json) : Json := if v.holds then v else w

/-- The double nearest to an integer. -/
def floatOfInt (n : Int) : Except Mismatch Float :=
  let x := Float.ofInt n
  if Binary64.isFinite x then .ok x else .error .tooLarge

/-- The integer part of a double. -/
def intOfFloat (x : Float) : Except Mismatch Int :=
  match Binary64.integerPart? x with
  | some n => .ok n
  | none => .error (if x.isNaN then .nan else .infinite)

/-- The integer a value is taken as. -/
def toInt : Json → Except Mismatch Int
  | .bool b => .ok (if b then 1 else 0)
  | .int n => .ok n
  | .float x => intOfFloat x
  | .str s =>
      match Number.readInt s with
      | .ok n => .ok n
      | .error e => .error (.integer e)
  | v => .error (.notInteger v.kindName)

/-- The double a value is taken as. -/
def toFloat : Json → Except Mismatch Float
  | .bool b => .ok (if b then 1.0 else 0.0)
  | .int n => floatOfInt n
  | .float x => .ok x
  | .str s =>
      match Number.readFloat? s with
      | some x => .ok x
      | none => .error (.decimal s)
  | v => .error (.notDouble v.kindName)

mutual

/-- A value as it is shown within another one. -/
def shownInside : Json → Text
  | .null => "None".toList
  | .bool true => "True".toList
  | .bool false => "False".toList
  | .int n => Layout.integer n
  | .float x => plainLayout.text x
  | .str s => s.quoted
  | .arr [] => "[]".toList
  | .arr (v :: vs) => ['['] ++ shownInside v ++ shownItems vs ++ [']']
  | .obj [] => ['\x7b', '\x7d']
  | .obj ((k, v) :: ms) =>
      ['\x7b'] ++ k.quoted ++ [':', ' '] ++ shownInside v ++ shownMembers ms ++ ['\x7d']

/-- Further items, each after a comma. -/
def shownItems : List Json → Text
  | [] => []
  | v :: vs => [',', ' '] ++ shownInside v ++ shownItems vs

/-- Further members, each after a comma. -/
def shownMembers : List (Text × Json) → Text
  | [] => []
  | (k, v) :: ms => [',', ' '] ++ k.quoted ++ [':', ' '] ++ shownInside v ++ shownMembers ms

end

/-- The text of a value in a message: a string stands for itself. -/
def shown : Json → Text
  | .str s => s
  | v => v.shownInside

end Mycelium.Json
