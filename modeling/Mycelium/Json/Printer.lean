import Mycelium.Json.Basic
import Mycelium.Number.Reading

/-!
# Writing JSON

A file is written in ASCII with two spaces of indentation per level.  An array
or object that is not empty has each of its items on a line of its own.  In a
string the quote, the backslash and the usual controls have short escapes; every
other character outside the printable ASCII range is written by its UTF-16
units.

What cannot be read cannot be written either: an integer of more than 4300 digits,
and a value that stands too deep.  The limit of the depth is a limit of the calls in
progress.  An array or object takes one, and so does whatever stands in it, but a
double takes two.
-/

namespace Mycelium.Json

/-- The layout of a double in JSON. -/
def layout : Layout := ⟨-4, 15, 2, "Infinity".toList, "NaN".toList⟩

/-- A UTF-16 unit as an escape. -/
def unitEscape (u : Nat) : Text := ['\\', 'u'] ++ Text.hexPadded 4 u

/-- A character as it is written between quotes. -/
def writtenChar (c : Char) : Text :=
  let n := c.toNat
  if c = '\x22' then ['\\', '\x22']
  else if c = '\\' then ['\\', '\\']
  else if c = '\n' then ['\\', 'n']
  else if c = '\r' then ['\\', 'r']
  else if c = '\t' then ['\\', 't']
  else if c = '\x08' then ['\\', 'b']
  else if c = '\x0C' then ['\\', 'f']
  else if 0x20 ≤ n && n ≤ 0x7E then [c]
  else if n < 0x10000 then unitEscape n
  else unitEscape (0xD800 + (n - 0x10000) / 0x400) ++ unitEscape (0xDC00 + (n - 0x10000) % 0x400)

/-- A string with its quotes. -/
def writtenString (s : Text) : Text := '\x22' :: (s.flatMap writtenChar ++ ['\x22'])

/-- The start of a line at a level of indentation. -/
def newLine (level : Nat) : Text := '\n' :: List.replicate (2 * level) ' '

mutual

/-- A value as it is written at a level of indentation. -/
def writtenAt (level : Nat) : Json → Text
  | .null => "null".toList
  | .bool true => "true".toList
  | .bool false => "false".toList
  | .int n => Layout.integer n
  | .float x => layout.text x
  | .str s => writtenString s
  | .arr [] => "[]".toList
  | .arr (v :: vs) =>
      ['['] ++ newLine (level + 1) ++ writtenAt (level + 1) v ++ writtenItems (level + 1) vs ++
        newLine level ++ [']']
  | .obj [] => ['\x7b', '\x7d']
  | .obj ((k, v) :: ms) =>
      ['\x7b'] ++ newLine (level + 1) ++ writtenString k ++ [':', ' '] ++ writtenAt (level + 1) v ++
        writtenMembers (level + 1) ms ++ newLine level ++ ['\x7d']

/-- Further items of an array, each after a comma. -/
def writtenItems (level : Nat) : List Json → Text
  | [] => []
  | v :: vs => [','] ++ newLine level ++ writtenAt level v ++ writtenItems level vs

/-- Further members of an object, each after a comma. -/
def writtenMembers (level : Nat) : List (Text × Json) → Text
  | [] => []
  | (k, v) :: ms =>
      [','] ++ newLine level ++ writtenString k ++ [':', ' '] ++ writtenAt level v ++
        writtenMembers level ms

end

/-- The text of a value, whatever its size. -/
def written (v : Json) : Text := writtenAt 0 v

/-! ## What is in the way -/

/-- Why a value cannot be written. -/
inductive Obstacle where
  /-- An integer has too many digits. -/
  | tooLong
  /-- A value stands too deep. -/
  | tooDeep
  deriving DecidableEq

/-- What an obstacle says.  Which call was one too many is said too, but that depends on the place;
it is left out here. -/
def Obstacle.message : Obstacle → Text
  | tooLong =>
      "Exceeds the limit (4300 digits) for integer string conversion; ".toList ++
        "use sys.set_int_max_str_digits() to increase the limit".toList
  | tooDeep => "maximum recursion depth exceeded".toList

mutual

/-- The first thing in a value that is in the way of writing it.  `room` is the number of
calls that may be in progress. -/
def obstacle? : (room : Nat) → Json → Option Obstacle
  | 0, _ => some .tooDeep
  | room + 1, v =>
      match v with
      | .int n =>
          if Number.digitLimit < (Layout.digits n.natAbs).length then some .tooLong else none
      | .float _ => if room = 0 then some .tooDeep else none
      | .arr vs => obstacleInItems? room vs
      | .obj ms => obstacleInMembers? room ms
      | _ => none

/-- The first thing that is in the way in items of an array. -/
def obstacleInItems? (room : Nat) : List Json → Option Obstacle
  | [] => none
  | v :: vs => (obstacle? room v).or (obstacleInItems? room vs)

/-- The first thing that is in the way in members of an object. -/
def obstacleInMembers? (room : Nat) : List (Text × Json) → Option Obstacle
  | [] => none
  | (_, v) :: ms => (obstacle? room v).or (obstacleInMembers? room ms)

end

/-- The text a value is written as, if nothing is in the way. -/
def print (v : Json) : Except Obstacle Text :=
  match obstacle? depthLimit v with
  | some o => .error o
  | none => .ok v.written

/-! ## What can be written -/

/-- A value can be written while so many calls may be in progress. -/
inductive Fits : (room : Nat) → Json → Prop where
  | null (room : Nat) : Fits (room + 1) .null
  | bool (room : Nat) (b : Bool) : Fits (room + 1) (.bool b)
  | int (room : Nat) {n : Int} (short : (Layout.digits n.natAbs).length ≤ Number.digitLimit) :
      Fits (room + 1) (.int n)
  | float (room : Nat) (x : Float) : Fits (room + 2) (.float x)
  | str (room : Nat) (s : Text) : Fits (room + 1) (.str s)
  | arr {room : Nat} {vs : List Json} (items : ∀ v ∈ vs, Fits room v) : Fits (room + 1) (.arr vs)
  | obj {room : Nat} {ms : Members} (members : ∀ m ∈ ms, Fits room m.2) :
      Fits (room + 1) (.obj ms)

/-- A value can be written. -/
def IsWritable (v : Json) : Prop := Fits depthLimit v

theorem not_fits_zero (v : Json) : ¬ Fits 0 v := nofun

/-- What stands in an object that fits has one call less. -/
theorem Fits.of_get? {room : Nat} {ms : Members} {name : Text} {v : Json}
    (h : Fits (room + 1) (.obj ms)) (hv : ms.get? name = some v) : Fits room v := by
  cases h with
  | obj members => exact members (name, v) (Entries.mem_of_get? hv)

mutual

/-- Nothing is in the way of writing a value if and only if it fits. -/
theorem obstacle?_eq_none_iff {room : Nat} (v : Json) : obstacle? room v = none ↔ Fits room v := by
  cases room with
  | zero => exact iff_of_false (by simp [obstacle?]) (not_fits_zero v)
  | succ room =>
      cases v with
      | null => exact iff_of_true rfl (.null room)
      | bool b => exact iff_of_true rfl (.bool room b)
      | str s => exact iff_of_true rfl (.str room s)
      | int n =>
          rw [obstacle?]
          constructor
          · intro h
            refine .int room (Nat.le_of_not_lt fun long => ?_)
            simp [long] at h
          · intro h
            cases h with
            | int _ short => exact if_neg (Nat.not_lt.2 short)
      | float x =>
          cases room with
          | zero => exact iff_of_false (by simp [obstacle?]) nofun
          | succ room => exact iff_of_true rfl (.float room x)
      | arr vs =>
          rw [obstacle?, obstacleInItems?_eq_none_iff vs]
          constructor
          · exact .arr
          · intro h
            cases h with
            | arr items => exact items
      | obj ms =>
          rw [obstacle?, obstacleInMembers?_eq_none_iff ms]
          constructor
          · exact .obj
          · intro h
            cases h with
            | obj members => exact members

theorem obstacleInItems?_eq_none_iff {room : Nat} (vs : List Json) :
    obstacleInItems? room vs = none ↔ ∀ v ∈ vs, Fits room v := by
  cases vs with
  | nil => simp [obstacleInItems?]
  | cons v vs =>
      rw [obstacleInItems?, Option.or_eq_none_iff, obstacle?_eq_none_iff v,
        obstacleInItems?_eq_none_iff vs, List.forall_mem_cons]

theorem obstacleInMembers?_eq_none_iff {room : Nat} (ms : Members) :
    obstacleInMembers? room ms = none ↔ ∀ m ∈ ms, Fits room m.2 := by
  cases ms with
  | nil => simp [obstacleInMembers?]
  | cons m ms =>
      rw [obstacleInMembers?, Option.or_eq_none_iff, obstacle?_eq_none_iff m.2,
        obstacleInMembers?_eq_none_iff ms, List.forall_mem_cons]

end

theorem print_of_isWritable {v : Json} (h : v.IsWritable) : v.print = .ok v.written := by
  rw [print, (obstacle?_eq_none_iff v).2 h]

theorem print_of_not_isWritable {v : Json} (h : ¬ v.IsWritable) : ∃ o, v.print = .error o := by
  cases ho : obstacle? depthLimit v with
  | none => exact absurd ((obstacle?_eq_none_iff v).1 ho) h
  | some o => exact ⟨o, by rw [print, ho]⟩

end Mycelium.Json
