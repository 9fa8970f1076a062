import Mycelium.Proofs.Range
import Mycelium.Proofs.Unreadable
import Mycelium.Scheduler.Daemon

/-!
# What comes of the files of a scheduler

The state file and the heartbeat are read again by the next program and by a watchdog, whatever
they have become meanwhile.

* A state file is kept as it is read: the value that it holds, which need not be an object, or
  an empty object (`Keeps`).  A file that is refused is a fault.
* A heartbeat has an age, which is not below zero, or none (`Shows`).  That holds of refused files
  too, unless a value stands too deep.  A value that is no object is a fault, and so is a time
  that is an integer no double is near to.

`keeps_and_shows` says this of all files.
-/

namespace Mycelium.Scheduler

open Float.Model

variable {file : File} {held : Option Json} {now : Float}

/-- What is kept of a state file. -/
inductive Keeps (file : File) : Except File.Fault Json → Prop where
  | refused {f : File.Fault} (refused : file.IsRefused f) : Keeps file (.error f)
  | none (holds : file.Holds none) : Keeps file (.ok (.obj []))
  | value {v : Json} (holds : file.Holds (some v)) : Keeps file (.ok v)

theorem keeps_keptValue (file : File) : Keeps file (keptValue file) := by
  obtain ⟨f, hf⟩ | ⟨held, hheld⟩ := file.refused_or_holds
  · rw [keptValue, hf.json?_eq]
    exact .refused hf
  · rw [keptValue, hheld.json?_eq]
    cases held with
    | none => exact .none hheld
    | some v => exact .value hheld

/-! ## The age of a heartbeat -/

theorem le_of_lt {x y : Float} (h : x < y) : x ≤ y := by
  have hlt : UnpackedFloat.lt x.toModel.unpack y.toModel.unpack = true := of_decide_eq_true h
  refine decide_eq_true (show UnpackedFloat.le _ _ = true from ?_)
  rw [UnpackedFloat.lt, beq_iff_eq] at hlt
  rw [UnpackedFloat.le, hlt]
  rfl

/-- The time of a heartbeat, zero if there is none. -/
def timeOf (ms : Members) : Json := (ms.get? "ts".toList).getD (.int 0)

/-- What a heartbeat shows. -/
inductive Shows (file : File) (now : Float) : Except Fault (Option Float) → Prop where
  | refused {f : File.Fault} (refused : file.IsRefused f) (flat : ∀ kind, f ≠ .tooDeep kind) :
      Shows file now (.ok none)
  | tooDeep {kind : Text} (refused : file.IsRefused (.tooDeep kind)) :
      Shows file now (.error (.file (.tooDeep kind)))
  | none (holds : file.Holds none) : Shows file now (.ok none)
  | noObject {v : Json} (holds : file.Holds (some v)) (other : ∀ ms, v ≠ .obj ms) :
      Shows file now (.error (.noObject v.kindName))
  | tooLarge {ms : Members} {n : Int} (holds : file.Holds (some (.obj ms)))
      (time : timeOf ms = .int n) (large : Binary64.beyondDoubles ≤ n.natAbs) :
      Shows file now (.error (.mismatch .tooLarge))
  | noTime {ms : Members} {m : Json.Mismatch} (holds : file.Holds (some (.obj ms)))
      (time : (timeOf ms).toFloat = .error m) (within : m ≠ .tooLarge) : Shows file now (.ok none)
  | notAbove {ms : Members} {ts : Float} (holds : file.Holds (some (.obj ms)))
      (time : (timeOf ms).toFloat = .ok ts) (low : ts ≤ 0.0) : Shows file now (.ok none)
  | age {ms : Members} {ts age : Float} (holds : file.Holds (some (.obj ms)))
      (time : (timeOf ms).toFloat = .ok ts) (low : ¬ ts ≤ 0.0) (nonneg : 0.0 ≤ age)
      (exact : 0.0 < now - ts → age = now - ts) : Shows file now (.ok (some age))

theorem shows_ageOf {ms : Members} {ts : Float} (holds : file.Holds (some (.obj ms)))
    (time : (timeOf ms).toFloat = .ok ts) : Shows file now (.ok (ageOf ts now)) := by
  rw [ageOf]
  split
  · next low => exact .notAbove holds time low
  · next low =>
      dsimp only
      split
      · next above => exact .age holds time low (le_of_lt above) fun _ => rfl
      · next below => exact .age holds time low (by decide) fun above => absurd above below

theorem shows_ageOfValue {v : Json} (holds : file.Holds (some v)) (now : Float) :
    Shows file now (ageOfValue v now) := by
  cases v with
  | obj ms =>
      rw [ageOfValue, ← timeOf]
      cases hts : (timeOf ms).toFloat with
      | ok ts => exact shows_ageOf holds hts
      | error m =>
          obtain ⟨rfl, n, hn, large⟩ | ⟨s, rfl⟩ | ⟨kind, rfl⟩ := Json.toFloat_eq_error hts
          · exact .tooLarge holds hn large
          · exact .noTime holds hts (by simp)
          · exact .noTime holds hts (by simp)
  | null => exact .noObject holds (by simp)
  | bool b => exact .noObject holds (by simp)
  | int n => exact .noObject holds (by simp)
  | float x => exact .noObject holds (by simp)
  | str s => exact .noObject holds (by simp)
  | arr vs => exact .noObject holds (by simp)

theorem shows_heartbeatAge (file : File) (now : Float) :
    Shows file now (heartbeatAge file now) := by
  obtain ⟨f, hf⟩ | ⟨held, hheld⟩ := file.refused_or_holds
  · rw [heartbeatAge, hf.json?_eq]
    cases f with
    | notUtf8 => exact .refused hf (by simp)
    | number f => exact .refused hf (by simp)
    | tooDeep kind => exact .tooDeep hf
  · rw [heartbeatAge, hheld.json?_eq]
    cases held with
    | none => exact .none hheld
    | some v => exact shows_ageOfValue hheld now

/-- Whatever has become of the two files: the state is kept as it is read, and the heartbeat has
no age, or one that is not below zero, unless a fault comes of it. -/
theorem keeps_and_shows (state heartbeat : File) (now : Float) :
    Keeps state (keptValue state) ∧ Shows heartbeat now (heartbeatAge heartbeat now) :=
  ⟨keeps_keptValue state, shows_heartbeatAge heartbeat now⟩

theorem keptValue_fails_at_foreignBytes :
    (∃ f, keptValue (.bytes ⟨#[0xff]⟩) = .error f) ∧
    (∀ ms, keptValue (.bytes ⟨#[0x5b, 0x5d]⟩) ≠ .ok (.obj ms)) ∧
    ∃ f, heartbeatAge (.bytes ⟨#[0x5b, 0x5d]⟩) 1000.0 = .error f := by
  have hlist : keptValue (.bytes ⟨#[0x5b, 0x5d]⟩) = .ok (.arr []) := rfl
  refine ⟨⟨_, rfl⟩, ?_, ⟨_, rfl⟩⟩
  simp [hlist]

end Mycelium.Scheduler
