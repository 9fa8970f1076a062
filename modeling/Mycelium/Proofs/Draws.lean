import Mycelium.Random.Source

/-!
# What comes out of a draw

A computation that draws from a random source has a result for every state of the source.
`Draw.Always` says that a property holds of all these results, whatever the source is.
There is one rule for each way to draw and for each way to go on, so the results of a
computation are found by going through its text.  `Draw.Yields` says that something is one of
these results.
-/

namespace Mycelium.Draw

variable {σ : Type} {α β : Type} {post post' : α → Prop}

/-- Whatever is drawn, the result has a property. -/
def Always (d : Draw σ α) (post : α → Prop) : Prop := ∀ s, post (d.run s).1

/-- Something may be the result. -/
def Yields (d : Draw σ α) (a : α) : Prop := ∃ s, (d.run s).1 = a

theorem always_yields (d : Draw σ α) : Always d d.Yields := fun s => ⟨s, rfl⟩

theorem Yields.of_always {d : Draw σ α} {a : α} (ha : d.Yields a) (h : Always d post) :
    post a := by
  obtain ⟨s, rfl⟩ := ha
  exact h s

/-- What goes on after a draw goes on with its result, from the state that the draw has left. -/
theorem run_bind {d : Draw σ α} (f : α → Draw σ β) {s s' : σ} {a : α} (h : d.run s = (a, s')) :
    (d >>= f).run s = (f a).run s' := by
  rw [StateT.run_bind, h]
  rfl

namespace Always

theorem mono {d : Draw σ α} (h : Always d post) (imp : ∀ a, post a → post' a) :
    Always d post' :=
  fun s => imp _ (h s)

theorem pure {a : α} (h : post a) : Always (Pure.pure a : Draw σ α) post := fun _ => h

theorem bind {d : Draw σ α} {f : α → Draw σ β} {post : β → Prop}
    (h : Always d fun a => Always (f a) post) : Always (d >>= f) post :=
  fun s => h s _

section Source

variable [RandomSource σ]

theorem below {n : Nat} {h : 0 < n} {post : Fin n → Prop} (all : ∀ i, post i) :
    Always (Draw.below n h : Draw σ (Fin n)) post :=
  fun _ => all _

theorem fraction {post : Float → Prop} (all : ∀ x, post x) :
    Always (Draw.fraction : Draw σ Float) post :=
  fun _ => all _

theorem chance {rate : Float} {post : Bool → Prop} (all : ∀ b, post b) :
    Always (Draw.chance rate : Draw σ Bool) post :=
  bind (fraction fun _ => pure (all _))

theorem perhaps {rate : Float} {d e : Draw σ α} (hd : Always d post) (he : Always e post) :
    Always (do if ← Draw.chance rate then d else e) post := by
  refine bind (chance fun b => ?_)
  cases b with
  | true => exact hd
  | false => exact he

theorem pick {xs : List α} {h : xs ≠ []} {post : { x // x ∈ xs } → Prop} (all : ∀ x, post x) :
    Always (Draw.pick xs h : Draw σ { x // x ∈ xs }) post :=
  bind (below fun _ => pure (all _))

end Source

end Always

end Mycelium.Draw
