import Mycelium.Text.Basic

/-!
# Lineages

A lineage is a list of items, oldest first.  A limit other than zero keeps the
last so many items; a negative one drops that many items from the front whenever
an item is added.
-/

namespace Mycelium

/-- Items that were added one after the other, and how many are kept. -/
structure Lineage (α : Type) where
  /-- How many items are kept, zero for all. -/
  limit : Int
  /-- The items, oldest first. -/
  items : List α

namespace Lineage

variable {α : Type}

/-- The lineage without items. -/
def empty (limit : Int) : Lineage α := ⟨limit, []⟩

/-- The lineage with one more item. -/
def append (l : Lineage α) (x : α) : Lineage α :=
  let items := l.items ++ [x]
  if l.limit ≠ 0 && l.limit < items.length then { l with items := Text.keepLast l.limit items }
  else { l with items }

/-- The lineage of the items of a list, added in order. -/
def ofList (limit : Int) (xs : List α) : Lineage α := xs.foldl append (empty limit)

/-- The item that was added last. -/
def latest? (l : Lineage α) : Option α := l.items.getLast?

/-- The first item that no later one exceeds, if the items that meet can be compared. -/
def best? (exceeds? : α → α → Option Bool) (l : Lineage α) : Option (Option α) :=
  match l.items with
  | [] => some none
  | x :: xs => some <$> xs.foldlM (fun best y => return if ← exceeds? y best then y else best) x

/-- Of one item there is nothing to compare. -/
theorem best?_single (exceeds? : α → α → Option Bool) (limit : Int) (x : α) :
    best? exceeds? ⟨limit, [x]⟩ = some (some x) := rfl

end Lineage

end Mycelium
