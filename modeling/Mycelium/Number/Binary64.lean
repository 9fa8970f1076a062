/-!
# Binary floating-point numbers

A finite double is `m * 2 ^ q` with a sign.  `Binary64.ofFloat` reads the parts
off its bits; `toInt?` is the integer part of a number, found exactly.
-/

namespace Mycelium

/-- The parts of a double. -/
inductive Binary64 where
  /-- No number. -/
  | nan
  /-- An infinity, by its sign. -/
  | infinite (negative : Bool)
  /-- The number `m * 2 ^ q`, by its sign. -/
  | finite (negative : Bool) (m : Nat) (q : Int)

namespace Binary64

/-- The parts of a double, read off its bits. -/
def ofFloat (x : Float) : Binary64 :=
  let bits := x.toBits.toNat
  let negative := bits / Nat.pow 2 63 == 1
  let exponent : Nat := bits / Nat.pow 2 52 % 2048
  let fraction : Nat := bits % Nat.pow 2 52
  if exponent = 2047 then if fraction = 0 then .infinite negative else .nan
  else if exponent = 0 then .finite negative fraction (-1074)
  else .finite negative (Nat.pow 2 52 + fraction) ((exponent : Int) - 1075)

/-- A quotient rounded to the nearest natural number, a tie to the even one. -/
def roundDiv (num den : Nat) : Nat :=
  let k := num / den
  let r := 2 * (num % den)
  if r < den || (r == den && k % 2 == 0) then k else k + 1

/-- A rounded quotient is at most half a unit off. -/
theorem roundDiv_near (num : Nat) {den : Nat} (h : 0 < den) :
    2 * (roundDiv num den * den) ≤ 2 * num + den ∧
      2 * num ≤ 2 * (roundDiv num den * den) + den := by
  have hd : num / den * den + num % den = num := Nat.div_add_mod' num den
  have hm := Nat.mod_lt num h
  simp only [roundDiv]
  split
  · next hc =>
      simp only [Bool.or_eq_true, decide_eq_true_eq, Bool.and_eq_true, beq_iff_eq] at hc
      omega
  · next hc =>
      simp only [Bool.or_eq_true, decide_eq_true_eq, Bool.and_eq_true, beq_iff_eq] at hc
      have : (num / den + 1) * den = num / den * den + den := by rw [Nat.add_mul, Nat.one_mul]
      omega

/-- `m * 2 ^ q` as a numerator and a denominator. -/
def ratio (m : Nat) (q : Int) : Nat × Nat := (m * Nat.pow 2 q.toNat, Nat.pow 2 (-q).toNat)

/-- Whether a double is a number and not infinite. -/
def isFinite (x : Float) : Bool :=
  match ofFloat x with
  | .finite .. => true
  | _ => false

/-- The integer that remains of a finite double when its fraction is dropped. -/
def integerPart? (x : Float) : Option Int :=
  match ofFloat x with
  | .finite negative m q =>
      let (num, den) := ratio m q
      let n : Int := (num / den : Nat)
      some (if negative then -n else n)
  | _ => none

/-- Whether a double is below an integer.  The numbers are compared exactly. -/
def isBelowInt (x : Float) (n : Int) : Bool :=
  match ofFloat x with
  | .nan => false
  | .infinite negative => negative
  | .finite negative m q =>
      let (num, den) := ratio m q
      (if negative then -(num : Int) else num) < n * den

/-- Whether a double is the same number as an integer. -/
def isInt (x : Float) (n : Int) : Bool :=
  match ofFloat x with
  | .finite negative m q =>
      let (num, den) := ratio m q
      (if negative then -(num : Int) else num) == n * den
  | _ => false

/-- A finite double rounded to a number of decimal places.  The exact value is
rounded, a tie to the even neighbour, and the double nearest to the result is
taken. -/
def roundTo (places : Nat) (x : Float) : Float :=
  match ofFloat x with
  | .finite negative m q =>
      let (num, den) := ratio m q
      let y := Float.ofScientific (roundDiv (num * Nat.pow 10 places) den) true places
      if negative then -y else y
  | _ => x

end Binary64

end Mycelium
