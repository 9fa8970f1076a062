import Mycelium.Text.Basic
import Mycelium.Number.Shortest

/-!
# The layout of a number

A double is written by the digits of its shortest decimal.  A layout says where
the point goes: numbers whose first digit stands at an exponent within its
bounds are written out and always show a fraction, the others in scientific
notation with a signed exponent of a least width.
-/

namespace Mycelium

/-- How the digits of a number are laid out. -/
structure Layout where
  /-- The least exponent of a first digit that is written out. -/
  least : Int
  /-- The greatest exponent of a first digit that is written out. -/
  greatest : Int
  /-- The least number of digits of an exponent. -/
  exponentWidth : Nat
  /-- The text of an infinity, after its sign. -/
  infinite : Text
  /-- The text of no number. -/
  nan : Text

namespace Layout

/-- A natural number in decimal digits. -/
def digits (n : Nat) : Text := Nat.toDigits 10 n

/-- An integer in decimal digits, a minus sign in front of a negative one. -/
def integer (n : Int) : Text := if n < 0 then '-' :: digits n.natAbs else digits n.natAbs

/-- Digits written out, the first one standing at exponent `e`. -/
def positional (ds : Text) (e : Int) : Text :=
  if e < 0 then ['0', '.'] ++ List.replicate (e.natAbs - 1) '0' ++ ds
  else
    let whole := e.toNat + 1
    if ds.length ≤ whole then ds ++ List.replicate (whole - ds.length) '0' ++ ['.', '0']
    else ds.take whole ++ ['.'] ++ ds.drop whole

/-- Digits in scientific notation, the first one standing at exponent `e`. -/
def scientific (width : Nat) (ds : Text) (e : Int) : Text :=
  let ex := digits e.natAbs
  ds.take 1 ++ (if ds.length ≤ 1 then [] else '.' :: ds.drop 1) ++
    ['e', if e < 0 then '-' else '+'] ++ List.replicate (width - ex.length) '0' ++ ex

/-- The text of a double. -/
def text (l : Layout) (x : Float) : Text :=
  match Binary64.ofFloat x with
  | .nan => l.nan
  | .infinite negative => (if negative then ['-'] else []) ++ l.infinite
  | .finite negative m q =>
      (if negative then ['-'] else []) ++
        if m = 0 then ['0', '.', '0']
        else
          let (n, p) := Binary64.shortest m q
          let ds := digits n
          let e := p + ds.length - 1
          let ds := Text.trimEnd (· == '0') ds
          if l.least ≤ e && e ≤ l.greatest then positional ds e
          else scientific l.exponentWidth ds e

end Layout

/-- The layout of fitness marks and of numbers in messages: written out from
`0.0001` up to sixteen digits, else with an exponent of two digits or more. -/
def plainLayout : Layout := ⟨-4, 15, 2, "inf".toList, "nan".toList⟩

end Mycelium
