import Mycelium.Text.Basic
import Mycelium.Number.Reading
import Mycelium.Markup.Names.Capital
import Mycelium.Markup.Names.FromA
import Mycelium.Markup.Names.FromE
import Mycelium.Markup.Names.FromM
import Mycelium.Markup.Names.FromS

/-!
# Character references

A character reference stands for one or two characters.

* By number: `&#` and decimal digits, or `&#x` and hexadecimal digits, with or
  without a semicolon.  A decimal number may have at most 4300 digits.
* By name: an ampersand and at most 32 characters that may stand in a name, with
  or without a semicolon.  The longest known name at the start counts, and what
  follows it is kept.  If no known name starts there, all of it is kept.

`resolve_of_not_mem` says that a text without an ampersand is left as it is.
-/

namespace Mycelium.Markup

/-! ## References by number -/

/-- The characters that the numbers 128 to 159 stand for. -/
def upperControls : List Nat := [
  0x20AC, 0x81, 0x201A, 0x192, 0x201E, 0x2026, 0x2020, 0x2021, 0x2C6, 0x2030, 0x160, 0x2039, 0x152,
  0x8D, 0x17D, 0x8F, 0x90, 0x2018, 0x2019, 0x201C, 0x201D, 0x2022, 0x2013, 0x2014, 0x2DC, 0x2122,
  0x161, 0x203A, 0x153, 0x9D, 0x17E, 0x178]

/-- Whether a number stands for no character at all. -/
def isVoid (n : Nat) : Bool :=
  (1 ≤ n && n ≤ 8) || n == 0xB || (0xE ≤ n && n ≤ 0x1F) || n == 0x7F ||
    (0xFDD0 ≤ n && n ≤ 0xFDEF) || (0xFFFE ≤ n % 0x10000 && n ≤ 0x10FFFF)

/-- The text that a number stands for. -/
def numbered (n : Nat) : Text :=
  if n = 0 then ['\uFFFD']
  else if 0x80 ≤ n && n ≤ 0x9F then [Char.ofNat (upperControls.getD (n - 0x80) 0)]
  else if (0xD800 ≤ n && n ≤ 0xDFFF) || 0x10FFFF < n then ['\uFFFD']
  else if isVoid n then []
  else [Char.ofNat n]

/-! ## References by name -/

/-- The known names and the texts they stand for. -/
def names : List (Text × Text) :=
  (Names.capital ++ Names.fromA ++ Names.fromE ++ Names.fromM ++ Names.fromS).map fun row =>
    (row.1.toList, row.2.map Char.ofNat)

/-- The row of the longest known name at the start of a text. -/
def longestName? (s : Text) : Option (Text × Text) :=
  names.foldl (fun best row =>
    if row.1.isPrefixOf s && (best.map (·.1.length)).getD 0 < row.1.length then some row
    else best) none

/-- Whether a character may stand in a name. -/
def isNameChar (c : Char) : Bool :=
  !(c = '\t' || c = '\n' || c = '\x0C' || c = ' ' || c = '<' || c = '&' || c = '#' || c = ';')

/-- The text that a name, with its semicolon if it has one, stands for. -/
def named (s : Text) : Text :=
  match longestName? s with
  | some row => row.2 ++ s.drop row.1.length
  | none => '&' :: s

/-! ## All references of a text -/

/-- The number of semicolons, none or one, at the start of a text. -/
def semicolon (s : Text) : Nat := if s.head? = some ';' then 1 else 0

/-- The reference that the text after an ampersand starts with: how many
characters it has and what it stands for. -/
def reference? : Text → Option (Nat × Except Number.Fault Text)
  | '#' :: r =>
      let ds := r.takeWhile Text.isAsciiDigit
      let hs := (r.drop 1).takeWhile fun c => (Text.hexValue? c).isSome
      if !ds.isEmpty then
        let size := 1 + ds.length + semicolon (r.drop ds.length)
        if Number.digitLimit < ds.length then some (size, .error (.tooLong ds.length))
        else some (size, .ok (numbered (Number.ofDigits ds)))
      else if (r.head? = some 'x' || r.head? = some 'X') && !hs.isEmpty then
        let n := hs.foldl (fun n c => 16 * n + (Text.hexValue? c).getD 0) 0
        some (2 + hs.length + semicolon (r.drop (1 + hs.length)), .ok (numbered n))
      else none
  | s =>
      let name := (s.takeWhile isNameChar).take 32
      if name.isEmpty then none
      else
        let size := name.length + semicolon (s.drop name.length)
        some (size, .ok (named (s.take size)))

/-- A text with its references resolved, the first `skip` characters of which
belong to one that was already found. -/
def resolveFrom : Nat → Text → Except Number.Fault Text
  | _, [] => .ok []
  | skip + 1, _ :: r => resolveFrom skip r
  | 0, c :: r =>
      if c = '&' then
        match reference? r with
        | some (size, meaning) => do
            let t ← meaning
            let rest ← resolveFrom size r
            return t ++ rest
        | none => (resolveFrom 0 r).map (c :: ·)
      else (resolveFrom 0 r).map (c :: ·)

/-- A text with its references resolved, from left to right. -/
def resolve (s : Text) : Except Number.Fault Text := resolveFrom 0 s

/-- A text without an ampersand is left as it is. -/
theorem resolve_of_not_mem {s : Text} (h : '&' ∉ s) : resolve s = .ok s := by
  rw [resolve]
  induction s with
  | nil => rfl
  | cons c r ih =>
      simp only [List.mem_cons, not_or] at h
      rw [resolveFrom, if_neg (Ne.symm h.1), ih h.2]
      rfl

end Mycelium.Markup
