import Mycelium.Config.Basic
import Mycelium.Config.Breeding
import Mycelium.Fault
import Mycelium.Proofs.Range
import Mycelium.Proofs.Unreadable

/-!
# What comes of a tuneables file

Most of what can be wrong with a tuneables file is made good.  A text that does not follow the
grammar counts as empty, so does a part that is no object, and a value that is no number leaves
the usual rate.  `loads_or_fails` says that two things are not made good.

* The file is refused, for one of the reasons of `File.IsRefused`.
* A rate is set to a number that is out of range (`Overflows`): an infinity where an integer is
  needed, or an integer that no double is near to.

The ten rates are read one after the other, so what is said of one of them (`taken_ends`) is
said of all of them once they are seen as a list of entries (`map_toMembers_ratesOf`).
-/

namespace Mycelium.Config

open Json (Mismatch)

variable {usual v : Json} {m : Mismatch} {file : File} {held : Option Json}

/-! ## The parts -/

/-- The parts in a file that holds this. -/
def partsOf : Option Json → Members
  | some (.obj parts) => parts
  | _ => []

theorem tuneables_of_holds (h : file.withoutMark.Holds held) :
    tuneables file = .ok (partsOf held) := by
  rw [tuneables, h.json?_eq]
  cases held with
  | none => rfl
  | some v => cases v <;> rfl

theorem tuneables_of_isRefused {f : File.Fault} (h : file.withoutMark.IsRefused f) :
    tuneables file = .error f := by
  rw [tuneables, h.json?_eq]
  rfl

/-! ## One rate -/

/-- A value taken as a number of the kind of another one. -/
def sameKind (usual v : Json) : Except Mismatch Json :=
  match usual with
  | .float _ => v.toFloat.map .float
  | _ => v.toInt.map .int

/-- A value is a number out of the range of those that are needed. -/
inductive Overflows : (usual v : Json) → Mismatch → Prop where
  | tooLarge (x : Float) {n : Int} (large : Binary64.beyondDoubles ≤ n.natAbs) :
      Overflows (.float x) (.int n) .tooLarge
  | infinite (n : Int) {x : Float} {negative : Bool}
      (infinite : Binary64.ofFloat x = .infinite negative) :
      Overflows (.int n) (.float x) .infinite

/-- What a rate is set to: the number that its name gives, and the usual one if it gives none. -/
def setting (ms : Members) (e : Text × Json) : Text × Json :=
  (e.1, ((ms.get? e.1).bind fun v => (sameKind e.2 v).toOption).getD e.2)

/-- A rate that is read. -/
def taken (ms : Members) (e : Text × Json) : Except Mismatch (Text × Json) :=
  match ms.get? e.1 with
  | none => .ok e
  | some v =>
      match sameKind e.2 v with
      | .ok w => .ok (e.1, w)
      | .error m => if m.isOutOfRange then .error m else .ok e

theorem isNaN_iff (x : Float) : x.isNaN = true ↔ Binary64.ofFloat x = .nan := by
  have hx : x.isNaN = x.toModel.unpack.isNaN := rfl
  rw [hx, Binary64.ofFloat_eq]
  cases x.toModel.unpack <;> simp [Float.Model.UnpackedFloat.isNaN, Binary64.ofUnpacked]

theorem intOfFloat_of_nan {x : Float} (hx : Binary64.ofFloat x = .nan) :
    Json.intOfFloat x = .error .nan := by
  rw [Json.intOfFloat, Binary64.integerPart?, hx, (isNaN_iff x).2 hx]
  rfl

theorem intOfFloat_of_infinite {x : Float} {negative : Bool}
    (hx : Binary64.ofFloat x = .infinite negative) : Json.intOfFloat x = .error .infinite := by
  have hnumber : x.isNaN = false := by
    rw [← Bool.not_eq_true, isNaN_iff, hx]
    simp
  rw [Json.intOfFloat, Binary64.integerPart?, hx, hnumber]
  rfl

theorem map_eq_error_iff {α β : Type} {r : Except Mismatch α} {f : α → β} :
    r.map f = .error m ↔ r = .error m := by
  cases r <;> simp [Except.map]

theorem overflows_float_iff {x : Float} :
    Overflows (.float x) v m ↔ sameKind (.float x) v = .error m ∧ m.isOutOfRange = true := by
  have hkind : sameKind (.float x) v = .error m ↔ v.toFloat = .error m := map_eq_error_iff
  rw [hkind]
  constructor
  · intro h
    cases h with
    | tooLarge x large =>
        rw [Json.toFloat, Json.floatOfInt_eq, if_neg (Nat.not_lt.2 large)]
        exact ⟨rfl, rfl⟩
  · rintro ⟨h, hrange⟩
    obtain ⟨rfl, n, rfl, large⟩ | ⟨s, rfl⟩ | ⟨kind, rfl⟩ := Json.toFloat_eq_error h
    · exact .tooLarge x large
    · cases hrange
    · cases hrange

theorem overflows_int_iff {n : Int} :
    Overflows (.int n) v m ↔ sameKind (.int n) v = .error m ∧ m.isOutOfRange = true := by
  have hkind : sameKind (.int n) v = .error m ↔ v.toInt = .error m := map_eq_error_iff
  rw [hkind]
  constructor
  · intro h
    cases h with
    | infinite n hx => exact ⟨intOfFloat_of_infinite hx, rfl⟩
  · rintro ⟨h, hrange⟩
    cases v with
    | float x =>
        rw [Json.toInt] at h
        cases hx : Binary64.ofFloat x with
        | nan =>
            cases (intOfFloat_of_nan hx).symm.trans h
            cases hrange
        | infinite negative =>
            cases (intOfFloat_of_infinite hx).symm.trans h
            exact .infinite n hx
        | finite negative k q =>
            rw [Json.intOfFloat, Binary64.integerPart?, hx] at h
            cases h
    | str s =>
        rw [Json.toInt] at h
        split at h
        · cases h
        · cases h
          cases hrange
    | bool b => cases h
    | int k => cases h
    | null => cases h; cases hrange
    | arr vs => cases h; cases hrange
    | obj ms => cases h; cases hrange

/-- The usual rates are doubles and integers. -/
inductive IsRate : Json → Prop where
  | float (x : Float) : IsRate (.float x)
  | int (n : Int) : IsRate (.int n)

theorem IsRate.overflows_iff (h : IsRate usual) :
    Overflows usual v m ↔ sameKind usual v = .error m ∧ m.isOutOfRange = true := by
  cases h with
  | float x => exact overflows_float_iff
  | int n => exact overflows_int_iff

theorem isRate_of_mem_toMembers {r : Rates} {e : Text × Json} (h : e ∈ r.toMembers) :
    IsRate e.2 := by
  simp only [Rates.toMembers, List.mem_cons, List.not_mem_nil, or_false] at h
  rcases h with rfl | rfl | rfl | rfl | rfl | rfl | rfl | rfl | rfl | rfl <;> constructor

/-- The name of a rate gives a number that is out of range. -/
def Exceeds (ms : Members) (e : Text × Json) (m : Mismatch) : Prop :=
  ∃ v, ms.get? e.1 = some v ∧ Overflows e.2 v m

/-- A rate is set, unless its name gives a number that is out of range. -/
theorem taken_ends (ms : Members) {e : Text × Json} (h : IsRate e.2) :
    (taken ms e = .ok (setting ms e) ∧ ∀ m, ¬ Exceeds ms e m) ∨
    ∃ m, Exceeds ms e m ∧ taken ms e = .error m := by
  rw [taken, setting]
  cases hv : ms.get? e.1 with
  | none =>
      refine .inl ⟨rfl, ?_⟩
      intro m ⟨v, hsome, _⟩
      cases hv.symm.trans hsome
  | some v =>
      by_cases hover : ∃ m, Overflows e.2 v m
      · obtain ⟨m, hover⟩ := hover
        obtain ⟨hkind, hrange⟩ := h.overflows_iff.1 hover
        exact .inr ⟨m, ⟨v, hv, hover⟩, by simp [hkind, hrange]⟩
      · refine .inl ⟨?_, ?_⟩
        · cases hkind : sameKind e.2 v with
          | ok w => simp [hkind, Except.toOption]
          | error m =>
              have hrange : m.isOutOfRange = false := by
                rw [← Bool.not_eq_true]
                exact fun hrange => hover ⟨m, h.overflows_iff.2 ⟨hkind, hrange⟩⟩
              simp [hkind, hrange, Except.toOption]
        · intro m ⟨w, hw, hm⟩
          cases hv.symm.trans hw
          exact hover ⟨m, hm⟩

/-! ## All rates -/

/-- Rates of both kinds are read in the same way. -/
theorem taken_eq {α : Type} {take : Json → Except Mismatch α} {number : α → Json}
    (hkind : ∀ a v, sameKind (number a) v = (take v).map number) (ms : Members) (name : String)
    (a : α) : taken ms (name.toList, number a) =
      (fun b => (name.toList, number b)) <$> configured take ms name a := by
  rw [taken, configured]
  cases ms.get? name.toList with
  | none => rfl
  | some v =>
      dsimp only
      rw [hkind]
      cases take v with
      | ok b => rfl
      | error m => cases h : m.isOutOfRange <;> simp [Except.map, h]

theorem taken_float (ms : Members) (name : String) (x : Float) :
    taken ms (name.toList, .float x) =
      (fun b => (name.toList, .float b)) <$> configured Json.toFloat ms name x :=
  taken_eq (fun _ _ => rfl) ms name x

theorem taken_int (ms : Members) (name : String) (n : Int) :
    taken ms (name.toList, .int n) =
      (fun b => (name.toList, .int b)) <$> configured Json.toInt ms name n :=
  taken_eq (fun _ _ => rfl) ms name n

/-- The rates are read one after the other. -/
theorem map_toMembers_ratesOf (ms : Members) :
    Rates.toMembers <$> ratesOf ms = ({} : Rates).toMembers.mapM (taken ms) := by
  simp only [ratesOf, Rates.toMembers, List.mapM_cons, List.mapM_nil, taken_float, taken_int,
    map_bind, bind_map_left, map_pure, pure_bind, bind_assoc]

/-- What comes of a part that sets rates. -/
inductive Sets (ms : Members) : Except Mismatch Rates → Prop where
  | rates {r : Rates} (settings : r.toMembers = ({} : Rates).toMembers.map (setting ms))
      (within : ∀ e ∈ ({} : Rates).toMembers, ∀ m, ¬ Exceeds ms e m) : Sets ms (.ok r)
  | outOfRange {e : Text × Json} {m : Mismatch} (rate : e ∈ ({} : Rates).toMembers)
      (exceeds : Exceeds ms e m) : Sets ms (.error m)

/-- A list of rates is read up to the first one that is out of range. -/
theorem mapM_taken_ends (ms : Members) {es : Members} (rates : ∀ e ∈ es, IsRate e.2) :
    (es.mapM (taken ms) = .ok (es.map (setting ms)) ∧ ∀ e ∈ es, ∀ m, ¬ Exceeds ms e m) ∨
    ∃ e ∈ es, ∃ m, Exceeds ms e m ∧ es.mapM (taken ms) = .error m := by
  induction es with
  | nil => exact .inl ⟨rfl, by simp⟩
  | cons e es ih =>
      rw [List.mapM_cons]
      obtain ⟨hok, hwithin⟩ | ⟨m, hexceeds, herror⟩ := taken_ends ms (rates e List.mem_cons_self)
      · rw [hok]
        obtain ⟨hrest, hall⟩ | ⟨e', he', m, hexceeds, herror⟩ :=
          ih fun e he => rates e (List.mem_cons_of_mem _ he)
        · rw [hrest]
          exact .inl ⟨rfl, List.forall_mem_cons.2 ⟨hwithin, hall⟩⟩
        · rw [herror]
          exact .inr ⟨e', List.mem_cons_of_mem e he', m, hexceeds, rfl⟩
      · rw [herror]
        exact .inr ⟨e, List.mem_cons_self, m, hexceeds, rfl⟩

theorem sets_ratesOf (ms : Members) : Sets ms (ratesOf ms) := by
  have hmap := map_toMembers_ratesOf ms
  obtain ⟨hok, hwithin⟩ | ⟨e, he, m, hexceeds, herror⟩ :=
    mapM_taken_ends ms fun _ he => isRate_of_mem_toMembers (r := {}) he
  · rw [hok] at hmap
    cases hr : ratesOf ms with
    | ok r =>
        rw [hr] at hmap
        exact .rates (Except.ok.inj hmap) hwithin
    | error m =>
        rw [hr] at hmap
        cases hmap
  · rw [herror] at hmap
    cases hr : ratesOf ms with
    | ok r =>
        rw [hr] at hmap
        cases hmap
    | error m' =>
        rw [hr] at hmap
        cases hmap
        exact .outOfRange he hexceeds

/-- The rates in a tuneables file. -/
def loadRates (file : File) : Except Fault Rates := do
  let parts ← (tuneables file).mapError .file
  (rates parts).mapError .mismatch

/-- Whatever there is at the path of the tuneables, either the file is refused, and then both the
configuration and the rates are; or it holds something.  Then there is a configuration, and each
rate is set to the number that the file gives or to the usual one, unless a number is out of
range. -/
theorem loads_or_fails (env : Environment) (file : File) :
    (∃ f, file.withoutMark.IsRefused f ∧ load env file = .error f ∧
      loadRates file = .error (.file f)) ∨
    ∃ held r, file.withoutMark.Holds held ∧
      load env file = .ok (ofSources env (partsOf held)) ∧
      loadRates file = r.mapError .mismatch ∧ Sets (part (partsOf held) "evolution".toList) r := by
  obtain ⟨f, hf⟩ | ⟨held, hheld⟩ := File.refused_or_holds file.withoutMark
  · have htuneables := tuneables_of_isRefused hf
    refine .inl ⟨f, hf, ?_, ?_⟩
    · rw [load, htuneables]
      rfl
    · rw [loadRates, htuneables]
      rfl
  · have htuneables := tuneables_of_holds hheld
    refine .inr ⟨held, _, hheld, ?_, ?_, sets_ratesOf _⟩
    · rw [load, htuneables]
      rfl
    · rw [loadRates, htuneables]
      rfl

theorem load_fails_at_foreignBytes :
    (∃ f, load [] (.bytes ⟨#[0xff]⟩) = .error f) ∧
    ∃ m, rates [("evolution".toList, .obj [("max_rules".toList, .float (1.0 / 0.0))])] =
      .error m := by
  constructor
  · exact ⟨_, rfl⟩
  · exact ⟨.infinite, rfl⟩

end Mycelium.Config
