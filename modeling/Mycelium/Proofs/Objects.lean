import Mycelium.Proofs.Templates
import Mycelium.Proofs.Unreadable

/-!
# Objects that are read

A text may write a name twice in one object.  The value that is read keeps the last one, so
none of the objects in it has two members of one name (`hasDistinctNames_of_parse`), and a member
is found by its name wherever it stands (`Entries.get?_eq_some_iff`).

The readers of values, of items and of members call each other.  So this is shown of all three
together, by induction on the fuel.  The reader of members alone may come to a name twice: its
names are made distinct by the one who puts the members into the object.
-/

namespace Mycelium

namespace Entries

variable {β : Type} {es : Entries β} {name : Text}

theorem nodup_putAll (h : es.names.Nodup) (extra : Entries β) : (es.putAll extra).names.Nodup := by
  induction extra generalizing es with
  | nil => exact h
  | cons e rest ih => exact ih (nodup_put h e.1 e.2)

theorem mem_of_mem_putAll {extra : Entries β} {e : Text × β} (h : e ∈ es.putAll extra) :
    e ∈ es ∨ e ∈ extra := by
  induction extra generalizing es with
  | nil => exact .inl h
  | cons d rest ih =>
      obtain hput | hrest := ih h
      · obtain rfl | hes := mem_of_mem_put hput
        · exact .inr List.mem_cons_self
        · exact .inl hes
      · exact .inr (List.mem_cons_of_mem d hrest)

theorem isSome_get?_iff : (es.get? name).isSome = true ↔ name ∈ es.names := by
  induction es with
  | nil => simp
  | cons e rest ih =>
      obtain ⟨k, v⟩ := e
      by_cases h : k = name
      · simp [get?, h]
      · simp [get?, h, Ne.symm h, ih]

/-- Where names do not repeat, the last value of a name is the first one. -/
theorem get?_reverse (h : es.names.Nodup) : get? es.reverse name = es.get? name := by
  have hreverse : (names es.reverse).Nodup := by
    rw [names, List.map_reverse]
    exact List.nodup_reverse.2 h
  ext v
  rw [get?_eq_some_iff hreverse, get?_eq_some_iff h, List.mem_reverse]

end Entries

namespace Json

variable {α β : Type} {s : Text}

/-- In no object of a value two members have the same name. -/
inductive HasDistinctNames : Json → Prop where
  | null : HasDistinctNames .null
  | bool (b : Bool) : HasDistinctNames (.bool b)
  | int (n : Int) : HasDistinctNames (.int n)
  | float (x : Float) : HasDistinctNames (.float x)
  | str (t : Text) : HasDistinctNames (.str t)
  | arr {vs : List Json} (items : ∀ v ∈ vs, HasDistinctNames v) : HasDistinctNames (.arr vs)
  | obj {ms : Members} (nodup : ms.names.Nodup) (members : ∀ m ∈ ms, HasDistinctNames m.2) :
      HasDistinctNames (.obj ms)

/-- What a reader reads, if it reads anything, has a property. -/
def ReadsOnly (P : α → Prop) (r : Except Fault (α × Text)) : Prop := ∀ p, r = .ok p → P p.1

namespace ReadsOnly

variable {P : α → Prop} {Q : β → Prop} {r : Except Fault (α × Text)}

theorem value {a : α} (h : P a) (rest : Text) : ReadsOnly P (.ok (a, rest)) := by
  rintro p ⟨⟩
  exact h

theorem error (f : Fault) : ReadsOnly P (.error f) := by
  rintro p ⟨⟩

theorem bind (h : ReadsOnly P r) {f : α × Text → Except Fault (β × Text)}
    (next : ∀ a rest, P a → ReadsOnly Q (f (a, rest))) : ReadsOnly Q (r >>= f) := by
  cases r with
  | error f => exact error f
  | ok p => exact next p.1 p.2 (h p rfl)

theorem map (h : ReadsOnly P r) {f : α → β} (image : ∀ a, P a → Q (f a)) :
    ReadsOnly Q (r.map fun p => (f p.1, p.2)) := by
  cases r with
  | error f => exact error f
  | ok p => exact value (image p.1 (h p rfl)) p.2

end ReadsOnly

theorem readsOnly_readNumber (negative : Bool) (s : Text) :
    ReadsOnly HasDistinctNames (readNumber negative s) := by
  rw [readNumber]
  split
  · exact .error _
  · dsimp only
    split
    · split
      · exact .error _
      · exact .value (.int _) _
    · exact .value (.float _) _

/-- With some fuel all readers read values of which no object has a name twice. -/
structure ReadsDistinct (fuel : Nat) : Prop where
  value : ∀ room s, ReadsOnly HasDistinctNames (readValue room fuel s)
  items : ∀ room s, ReadsOnly (fun vs => ∀ v ∈ vs, HasDistinctNames v) (readItems room fuel s)
  members : ∀ room s, ReadsOnly (fun ms => ∀ m ∈ ms, HasDistinctNames m.2)
    (readMembers room fuel s)

variable {fuel : Nat}

/-- Members put together to an object. -/
theorem hasDistinctNames_putAll {ms : Members} (h : ∀ m ∈ ms, HasDistinctNames m.2) :
    HasDistinctNames (.obj (Entries.putAll [] ms)) := by
  refine .obj (Entries.nodup_putAll (by simp) ms) fun m hm => ?_
  obtain hnil | hms := Entries.mem_of_mem_putAll hm
  · cases hnil
  · exact h m hms

theorem readsDistinct_value (reads : ReadsDistinct fuel) (room : Nat) (s : Text) :
    ReadsOnly HasDistinctNames (readValue room (fuel + 1) s) := by
  rw [readValue.eq_def]
  dsimp only
  split
  · split
    · exact .value (.str _) _
    · exact .error _
  · split
    · exact .error _
    · exact .value (.obj (by simp) (by simp)) _
    · exact (reads.members _ _).map fun _ => hasDistinctNames_putAll
  · split
    · exact .error _
    · exact .value (.arr (by simp)) _
    · exact (reads.items _ _).map fun _ => .arr
  · split
    · exact .value (.float _) _
    · exact readsOnly_readNumber true _
  · split
    · exact .value .null _
    · exact .value (.bool true) _
    · exact .value (.bool false) _
    · exact .value (.float _) _
    · exact .value (.float _) _
    · exact readsOnly_readNumber false s

theorem readsDistinct_items (reads : ReadsDistinct fuel) (room : Nat) (s : Text) :
    ReadsOnly (fun vs => ∀ v ∈ vs, HasDistinctNames v) (readItems room (fuel + 1) s) := by
  rw [readItems.eq_def]
  refine (reads.value room s).bind fun v rest hv => ?_
  dsimp only
  split
  · exact .value (List.forall_mem_singleton.2 hv) _
  · exact (reads.items room _).bind fun vs r hvs => .value (List.forall_mem_cons.2 ⟨hv, hvs⟩) r
  · exact .error _

theorem readsDistinct_members (reads : ReadsDistinct fuel) (room : Nat) (s : Text) :
    ReadsOnly (fun ms => ∀ m ∈ ms, HasDistinctNames m.2) (readMembers room (fuel + 1) s) := by
  rw [readMembers.eq_def]
  dsimp only
  split
  · split
    · exact .error _
    · next name rest _ =>
        split
        · refine (reads.value room _).bind fun v rest hv => ?_
          dsimp only
          split
          · have hone : ∀ m ∈ [(name, v)], HasDistinctNames m.2 := by simpa using hv
            exact .value hone _
          · refine (reads.members room _).bind fun ms r hms => ?_
            have hall : ∀ m ∈ (name, v) :: ms, HasDistinctNames m.2 :=
              List.forall_mem_cons.2 ⟨hv, hms⟩
            exact .value hall r
          · exact .error _
        · exact .error _
  · exact .error _

theorem readsDistinct (fuel : Nat) : ReadsDistinct fuel := by
  induction fuel with
  | zero =>
      constructor
      · intro room s
        rw [readValue]
        exact .error _
      · intro room s
        rw [readItems]
        exact .error _
      · intro room s
        rw [readMembers]
        exact .error _
  | succ fuel ih =>
      constructor
      · exact readsDistinct_value ih
      · exact readsDistinct_items ih
      · exact readsDistinct_members ih

/-- No object in a value that is read has a name twice. -/
theorem hasDistinctNames_of_parse {v : Json} (h : parse s = .ok v) : HasDistinctNames v := by
  have hvalue := (readsDistinct (s.length + 1)).value depthLimit (skipSpace s)
  rw [parse] at h
  cases hr : readValue depthLimit (s.length + 1) (skipSpace s) with
  | error f =>
      rw [hr] at h
      cases h
  | ok p =>
      rw [hr] at h
      by_cases hrest : (skipSpace p.2).isEmpty = true
      · simp only [bind, Except.bind, hrest, if_true, pure, Except.pure, Except.ok.injEq] at h
        exact h ▸ hvalue p hr
      · simp [bind, Except.bind, hrest] at h

end Json

theorem File.Holds.hasDistinctNames {file : File} {v : Json} (h : file.Holds (some v)) :
    v.HasDistinctNames := by
  cases h with
  | value reads => exact Json.hasDistinctNames_of_parse reads

end Mycelium
