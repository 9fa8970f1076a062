import Mycelium.Json.Basic
import Mycelium.Number.Binary64

/-!
# Values that are alike, and their order

Two values are alike if they cannot be told apart by what they say.  Numbers are
alike if they are equal, whatever their kind, and a truth value is one of the
numbers zero and one.  Objects are alike if they have the same members in any
order.  `nan` is like no value, not even itself.

A value may exceed another one.  Numbers are compared exactly, and texts by their
code points.  A list is compared with another by the first items that are not alike,
or by length if there are none.  No other two values can be compared.
-/

namespace Mycelium.Json

mutual

/-- Whether two values are alike. -/
def alike : Json → Json → Bool
  | .null, .null => true
  | .str s, .str t => s == t
  | .bool a, .bool b => a == b
  | .bool a, .int n => n == if a then 1 else 0
  | .int n, .bool b => n == if b then 1 else 0
  | .int n, .int m => n == m
  | .float x, .float y => x == y
  | .float x, .int n => Binary64.isInt x n
  | .int n, .float x => Binary64.isInt x n
  | .float x, .bool b => x == if b then 1.0 else 0.0
  | .bool b, .float x => x == if b then 1.0 else 0.0
  | .arr xs, .arr ys => allAlike xs ys
  | .obj ms, .obj ns => ms.length == ns.length && membersAlike ms ns
  | _, _ => false

/-- Whether two lists have alike items. -/
def allAlike : List Json → List Json → Bool
  | [], [] => true
  | x :: xs, y :: ys => alike x y && allAlike xs ys
  | _, _ => false

/-- Whether all members of a first list are alike to those of the same name in a
second one. -/
def membersAlike : List (Text × Json) → Members → Bool
  | [], _ => true
  | (k, v) :: ms, ns =>
      (match ns.get? k with
        | some w => alike v w
        | none => false) && membersAlike ms ns

end

/-! ## The order -/

/-- A value as a number: an integer or a double. -/
def number? : Json → Option (Int ⊕ Float)
  | .bool b => some (.inl (if b then 1 else 0))
  | .int n => some (.inl n)
  | .float x => some (.inr x)
  | _ => none

/-- Whether a number exceeds another one. -/
def numberExceeds : Int ⊕ Float → Int ⊕ Float → Bool
  | .inl n, .inl m => m < n
  | .inl n, .inr y => Binary64.isBelowInt y n
  | .inr x, .inl m => Binary64.isBelowInt (-x) (-m)
  | .inr x, .inr y => y < x

mutual

/-- Whether a value exceeds another one, if they can be compared. -/
def exceeds? : Json → Json → Option Bool
  | .str s, .str t => some (decide (t < s))
  | .arr xs, .arr ys => listExceeds? xs ys
  | v, w => return numberExceeds (← v.number?) (← w.number?)

/-- Whether a list exceeds another one, if the items that decide can be compared. -/
def listExceeds? : List Json → List Json → Option Bool
  | [], _ => some false
  | _ :: _, [] => some true
  | x :: xs, y :: ys => if alike x y then listExceeds? xs ys else exceeds? x y

end

/-- Two integers can be compared, and exceed each other as numbers do. -/
theorem exceeds?_int (n m : Int) : exceeds? (.int n) (.int m) = some (decide (m < n)) := rfl

end Mycelium.Json
