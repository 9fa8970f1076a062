import Mycelium.Text.Basic

/-!
# Entries in the order they were added

Entries are pairs of a name and a value.  A new name comes last; a name that is
there keeps its place when its value changes.

`get?_put`, `get?_putAll` and `get?_erase` say what a look-up finds after a change,
`names_put` that putting keeps the order of the names, and `nodup_put` that it never
makes a name appear twice.
-/

namespace Mycelium

/-- Named values, in the order in which the names first appeared. -/
abbrev Entries (β : Type) := List (Text × β)

namespace Entries

variable {β : Type}

/-- The value under a name. -/
def get? : Entries β → Text → Option β
  | [], _ => none
  | (k, v) :: rest, name => if k = name then some v else get? rest name

/-- The entries with a value put under a name. -/
def put : Entries β → Text → β → Entries β
  | [], name, v => [(name, v)]
  | (k, w) :: rest, name, v => if k = name then (k, v) :: rest else (k, w) :: put rest name v

/-- The entries without those of one name. -/
def erase (es : Entries β) (name : Text) : Entries β := es.filter fun e => e.1 ≠ name

/-- The entries after all those of a second list were put in, in order. -/
def putAll (es extra : Entries β) : Entries β := extra.foldl (fun acc e => acc.put e.1 e.2) es

/-- The names of the entries. -/
def names (es : Entries β) : List Text := es.map (·.1)

@[simp] theorem get?_nil (name : Text) : get? ([] : Entries β) name = none := rfl

@[simp] theorem names_nil : names ([] : Entries β) = [] := rfl

@[simp] theorem names_cons (e : Text × β) (es : Entries β) :
    names (e :: es) = e.1 :: names es := rfl

/-- A look-up after a value was put in finds it under its name and what was there
before under every other. -/
theorem get?_put (es : Entries β) (name other : Text) (v : β) :
    (es.put name v).get? other = if name = other then some v else es.get? other := by
  induction es with
  | nil => rfl
  | cons e rest ih =>
      obtain ⟨k, w⟩ := e
      by_cases hk : k = name
      · subst hk
        by_cases ho : k = other <;> simp [put, get?, ho]
      · by_cases ho : k = other
        · subst ho
          simp [put, get?, hk, Ne.symm hk]
        · simp [put, get?, hk, ho, ih]

theorem mem_of_get? {es : Entries β} {name : Text} {v : β} (h : es.get? name = some v) :
    (name, v) ∈ es := by
  induction es with
  | nil => cases h
  | cons e rest ih =>
      rw [get?] at h
      split at h
      · next hk =>
          cases h
          exact hk ▸ List.mem_cons_self
      · exact List.mem_cons_of_mem e (ih h)

/-- Putting a value in adds its name at the end, unless it is there. -/
theorem names_put (es : Entries β) (name : Text) (v : β) :
    (es.put name v).names = if name ∈ es.names then es.names else es.names ++ [name] := by
  induction es with
  | nil => simp [put]
  | cons e rest ih =>
      obtain ⟨k, w⟩ := e
      by_cases hk : k = name
      · simp [put, hk]
      · have hn : name ≠ k := Ne.symm hk
        by_cases hm : name ∈ names rest <;> simp_all [put]

/-- Putting a value in never makes a name appear twice. -/
theorem nodup_put {es : Entries β} (h : es.names.Nodup) (name : Text) (v : β) :
    (es.put name v).names.Nodup := by
  rw [names_put]
  split
  · exact h
  · next hm =>
      rw [List.nodup_append]
      refine ⟨h, by simp, ?_⟩
      intro a ha b hb hab
      simp only [List.mem_singleton] at hb
      subst hb hab
      exact hm ha

/-- A look-up after the entries of one name were erased. -/
theorem get?_erase (es : Entries β) (name other : Text) :
    (es.erase name).get? other = if name = other then none else es.get? other := by
  induction es with
  | nil => simp [erase]
  | cons e rest ih =>
      obtain ⟨k, w⟩ := e
      simp only [erase] at ih
      by_cases hk : k = name
      · subst hk
        by_cases ho : k = other <;> simp_all [erase, get?]
      · by_cases ho : k = other
        · subst ho
          simp [erase, get?, hk, Ne.symm hk]
        · simp_all [erase, get?]

theorem get?_append (a b : Entries β) (name : Text) :
    get? (a ++ b) name = (a.get? name).or (b.get? name) := by
  induction a with
  | nil => rfl
  | cons e rest ih =>
      obtain ⟨k, w⟩ := e
      by_cases hk : k = name <;> simp [get?, hk, ih]

/-- A look-up after all entries of a list were put in finds the last of them under its
name, and what was there before if there is none. -/
theorem get?_putAll (es extra : Entries β) (name : Text) :
    (es.putAll extra).get? name = (get? extra.reverse name).or (es.get? name) := by
  induction extra generalizing es with
  | nil => rfl
  | cons e rest ih =>
      have h := ih (es.put e.1 e.2)
      simp only [putAll, List.foldl_cons] at h ⊢
      rw [h, get?_put, List.reverse_cons, get?_append]
      by_cases hk : e.1 = name <;> simp [get?, hk]

/-- Whether two lists of entries hold the same values under the same names, in any
order. -/
def same [DecidableEq β] (a b : Entries β) : Bool :=
  a.length == b.length && a.all fun e => b.get? e.1 == some e.2

end Entries

end Mycelium
