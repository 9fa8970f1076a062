import Mycelium.Random.Source

/-!
# Generators

* `Congruential`: a linear congruential generator with 64 bits of state.  A
  fraction has the upper 53 bits of the state, a number below a bound is the
  remainder of the upper 31 bits.
* `Tape`: a given list of integers that is read over and over; an empty one gives
  zeros.  A fraction is a thousandth of an entry, a number below a bound its
  remainder.

Both count the values that were drawn.  A `Generator` is one of the two.
-/

namespace Mycelium

/-- A linear congruential generator. -/
structure Congruential where
  /-- The state. -/
  state : UInt64
  /-- How many values were drawn. -/
  drawn : Nat

namespace Congruential

/-- The generator that starts from a seed. -/
def ofSeed (seed : Nat) : Congruential := ⟨seed.toUInt64, 0⟩

/-- The generator after the next draw. -/
def next (g : Congruential) : Congruential :=
  ⟨g.state * 6364136223846793005 + 1442695040888963407, g.drawn + 1⟩

instance : RandomSource Congruential where
  fraction g :=
    let g := g.next
    (Float.scaleB (g.state >>> 11).toFloat (-53), g)
  below n h g :=
    let g := g.next
    (⟨(g.state >>> 33).toNat % n, Nat.mod_lt _ h⟩, g)

end Congruential

/-- A list of integers that is read over and over. -/
structure Tape where
  /-- The integers. -/
  entries : List Int
  /-- How many values were drawn. -/
  drawn : Nat

namespace Tape

/-- The tape of a list, at its start. -/
def ofList (entries : List Int) : Tape := ⟨entries, 0⟩

/-- The next entry. -/
def entry (t : Tape) : Int := t.entries.getD (t.drawn % t.entries.length) 0

/-- The tape after the next draw. -/
def next (t : Tape) : Tape := { t with drawn := t.drawn + 1 }

/-- The double nearest to a thousandth of an integer. -/
def thousandth (n : Int) : Float :=
  let x := Float.ofScientific n.natAbs true 3
  if n < 0 then -x else x

instance : RandomSource Tape where
  fraction t := (thousandth t.entry, t.next)
  below n h t :=
    (⟨(t.entry % (n : Int)).toNat, by
      have hn : (0 : Int) < n := by omega
      have h1 := Int.emod_nonneg t.entry (Int.ne_of_gt hn)
      have h2 := Int.emod_lt_of_pos t.entry hn
      omega⟩, t.next)

end Tape

/-- A generator of either kind. -/
inductive Generator where
  /-- A congruential generator. -/
  | congruential (g : Congruential)
  /-- A tape. -/
  | tape (t : Tape)

namespace Generator

/-- How many values were drawn. -/
def drawn : Generator → Nat
  | congruential g => g.drawn
  | tape t => t.drawn

instance : RandomSource Generator where
  fraction
    | congruential g => let (x, g) := RandomSource.fraction g; (x, congruential g)
    | tape t => let (x, t) := RandomSource.fraction t; (x, tape t)
  below n h
    | congruential g => let (i, g) := RandomSource.below n h g; (i, congruential g)
    | tape t => let (i, t) := RandomSource.below n h t; (i, tape t)

end Generator

end Mycelium
