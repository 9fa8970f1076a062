import Mycelium.Number.Binary64

/-!
# The shortest decimal of a double

Of all decimals that read back as a given double, the one with the fewest
digits is printed, and of those the nearest.

The decimals that read back as `m * 2 ^ q` are those of an interval around it.
It reaches halfway to the two neighbours, and its ends belong to it when `m` is
even.  Below a power of two the neighbour is only half as far away.  For one
digit, two digits and so on, the value's two neighbours among the decimals of
that many digits are tried: if any decimal of that length lies in the interval,
one of those two does.
-/

namespace Mycelium.Binary64

/-- An interval of quotients over a common denominator. -/
structure Interval where
  /-- The value itself. -/
  value : Nat
  /-- The lower end. -/
  low : Nat
  /-- The upper end. -/
  high : Nat
  /-- The denominator of the three. -/
  den : Nat
  /-- Whether the ends belong to the interval. -/
  closed : Bool

/-- The numbers that are rounded to `m * 2 ^ q`. -/
def Interval.around (m : Nat) (q : Int) : Interval :=
  let unit := Nat.pow 2 q.toNat
  { value := 4 * m * unit
    low := 4 * m * unit - (if m = Nat.pow 2 52 && -1074 < q then 1 else 2) * unit
    high := 4 * m * unit + 2 * unit
    den := 4 * Nat.pow 2 (-q).toNat
    closed := m % 2 == 0 }

/-- Whether the quotient `num / den` lies in an interval. -/
def Interval.has (i : Interval) (num den : Nat) : Bool :=
  let n := num * i.den
  if i.closed then i.low * den ≤ n && n ≤ i.high * den
  else i.low * den < n && n < i.high * den

/-- Whether `10 ^ p` is at most `num / den`. -/
def powerAtMost (p : Int) (num den : Nat) : Bool :=
  Nat.pow 10 p.toNat * den ≤ num * Nat.pow 10 (-p).toNat

/-- The exponent of the first digit of `num / den`, found upwards from a lower
bound in at most `fuel` steps. -/
def leadingFrom (num den : Nat) : Nat → Int → Int
  | 0, p => p
  | fuel + 1, p => if powerAtMost (p + 1) num den then leadingFrom num den fuel (p + 1) else p

/-- The exponent of the first digit of `m * 2 ^ q`.  A number below `2 ^ (e + 1)`
has its first digit at most one place above `e * log 2`. -/
def leading (m : Nat) (q : Int) : Int :=
  let (num, den) := ratio m q
  leadingFrom num den 4 (Int.fdiv ((m.log2 + q) * 30103) 100000 - 2)

/-- The decimal of the fewest digits among those with `digits` digits and more
that lies in an interval, as its digits and the exponent of the last one. -/
def shortestFrom (i : Interval) (first : Int) : Nat → Nat → Nat × Int
  | 0, digits =>
      let p := first + 1 - digits
      (roundDiv (i.value * Nat.pow 10 (-p).toNat) (i.den * Nat.pow 10 p.toNat), p)
  | fuel + 1, digits =>
      let p := first + 1 - digits
      let up := Nat.pow 10 p.toNat
      let down := Nat.pow 10 (-p).toNat
      let below := i.value * down / (i.den * up)
      let nearest := roundDiv (i.value * down) (i.den * up)
      let other := if nearest = below then below + 1 else below
      if i.has (nearest * up) down then (nearest, p)
      else if i.has (other * up) down then (other, p)
      else shortestFrom i first fuel (digits + 1)

/-- The digits of the shortest decimal of `m * 2 ^ q` and the exponent of the
last one.  Seventeen digits always suffice. -/
def shortest (m : Nat) (q : Int) : Nat × Int :=
  shortestFrom (.around m q) (leading m q) 17 1

end Mycelium.Binary64
