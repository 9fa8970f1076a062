import Mycelium.Proofs.Discipline

/-!
# Cycles exclude each other

Between the start and the stop of a cycle the call holds the lock.  Only while nobody
holds it a cycle starts, and only the call that holds it stops or completes one
(`Event.RespectsLock`).  So a call that holds the lock goes on holding it while it
waits, however many other calls go on (`holder_cons`).
-/

namespace Mycelium.Bot

variable {σ : Type}

/-- The call that is in a cycle. -/
def holder : List (Event σ) → Option Nat
  | [] => none
  | .changed c .start :: _ => some c
  | .changed _ .stop :: _ => none
  | _ :: h => holder h

/-- Whether an event starts, stops or completes a cycle. -/
def Event.isOfLock : Event σ → Bool
  | .changed _ .start => true
  | .changed _ .stop => true
  | .changed _ (.complete _ _ _ _) => true
  | _ => false

/-- Only a cycle may start, stop or complete one. -/
theorem isOfLock_of_mayAsk (op : Operation) (other : op ≠ .cycle) {e : Event σ} {q : Prompt σ}
    (asked : e.prompt? = some q) (may : op.mayAsk q = true) : e.isOfLock = false := by
  cases e with
  | changed c ch =>
      cases asked
      cases op with
      | cycle => exact absurd rfl other
      | _ => cases ch <;> first | rfl | exact absurd may Bool.false_ne_true
  | _ => rfl

/-- A cycle starts if nobody holds the lock, and it is stopped and completed by the call
that holds it. -/
def Event.RespectsLock (h : List (Event σ)) : Event σ → Prop
  | .changed _ .start => holder h = none
  | .changed c .stop => holder h = some c
  | .changed c (.complete _ _ _ _) => holder h = some c
  | _ => True

/-- Other calls leave the lock to the call that holds it. -/
theorem holder_cons {c : Nat} {e : Event σ} {h : List (Event σ)} (holds : holder h = some c)
    (other : e.call ≠ c) (respects : e.RespectsLock h) : holder (e :: h) = some c := by
  cases e with
  | changed d ch =>
      cases ch with
      | start => exact nomatch holds.symm.trans respects
      | stop => exact absurd (Option.some.inj (respects.symm.trans holds)) other
      | _ => exact holds
  | _ => exact holds

theorem holder_cons_of_not {e : Event σ} (not : e.isOfLock = false) (h : List (Event σ)) :
    holder (e :: h) = holder h := by
  cases e with
  | changed d ch => cases ch <;> first | rfl | cases not
  | _ => rfl

/-- The bot is busy while some call holds the lock. -/
structure World.IsLocked (w : World σ) : Prop where
  free : w.state.busy = false → holder w.history = none
  respects : Obeys Event.RespectsLock w.history

namespace World.IsLocked

variable {w : World σ} {c : Nat}

theorem after_of_not (locked : w.IsLocked) {e : Event σ} (not : e.isOfLock = false) :
    (w.after e).IsLocked := by
  cases e with
  | changed d ch =>
      cases ch <;> first | exact ⟨locked.free, trivial, locked.respects⟩ | cases not
  | _ => exact ⟨locked.free, trivial, locked.respects⟩

theorem start (locked : w.IsLocked) (free : holder w.history = none) :
    (w.after (.changed c .start)).IsLocked :=
  ⟨nofun, free, locked.respects⟩

theorem stop (locked : w.IsLocked) (holds : holder w.history = some c) :
    (w.after (.changed c .stop)).IsLocked :=
  ⟨fun _ => rfl, holds, locked.respects⟩

theorem complete (locked : w.IsLocked) (holds : holder w.history = some c) (published : Scored)
    (next : RuleSystem) (scored : Nat) (source : σ) :
    (w.after (.changed c (.complete published next scored source))).IsLocked :=
  ⟨locked.free, holds, locked.respects⟩

end World.IsLocked

end Mycelium.Bot
