import Mycelium.Proofs.Variations

/-!
# How another trigger is found

A trigger is changed until a change serves: it is not blank, and it is not the old trigger.  All
five changes can fail to serve, for a character may have no other case, a letter may be replaced by
itself, and blanks at the ends are dropped.

`Misses` follows the random source through the changes that do not serve, and `Finds` says how the
search ends: with the first change that serves, or with a letter that is added after all tries were
misses.  So `mutatedRule_finds` counts the changes.  It states them with `perturbed?`, which refuses
an empty text, and the outcome with `Rule.ofParts?`, which refuses a blank trigger: neither of them
ever does.
-/

namespace Mycelium.Breeding

variable {σ : Type} [RandomSource σ]

/-! ## Tries -/

/-- A text can take the place of a trigger. -/
structure Serves (t u : Text) : Prop where
  not_blank : Text.isBlankText u = false
  ne : u ≠ t

/-- Changes of a trigger that were drawn one after the other and do not serve, and the states of
the random source before and after them. -/
inductive Misses (t : Text) : List Text → σ → σ → Prop where
  | nil (s : σ) : Misses t [] s s
  | cons {u : Text} {us : List Text} {s s' rest : σ}
      (tried : (perturbed? t).run s = (some u, s')) (fails : ¬ Serves t u)
      (later : Misses t us s' rest) : Misses t (u :: us) s rest

/-- How another trigger is found within a number of tries. -/
inductive Finds (t : Text) (tries : Nat) (s rest : σ) (u : Text) : Prop where
  /-- A change serves, after fewer misses than there are tries. -/
  | changed {us : List Text} {s' : σ} (misses : Misses t us s s') (few : us.length < tries)
      (tried : (perturbed? t).run s' = (some u, rest)) (serves : Serves t u)
  /-- All tries were misses, and a letter is added. -/
  | extended {us : List Text} {s' : σ} {c : Char} (misses : Misses t us s s')
      (spent : us.length = tries) (drawn : letter.run s' = (c, rest)) (added : u = t ++ [c])

theorem run_perturbed? {t : Text} (h : t ≠ []) (s : σ) : ∃ u s',
    (perturbed t h).run s = (u, s') ∧ (perturbed? t).run s = (some u, s') := by
  refine ⟨((perturbed t h).run s).1, ((perturbed t h).run s).2, rfl, ?_⟩
  rw [perturbed?, dif_pos h]
  rfl

/-- One more miss in front takes one more try. -/
theorem Finds.cons {t u v : Text} {tries : Nat} {s s' rest : σ}
    (tried : (perturbed? t).run s = (some u, s')) (fails : ¬ Serves t u)
    (finds : Finds t tries s' rest v) : Finds t (tries + 1) s rest v := by
  cases finds with
  | changed misses few last serves =>
      exact .changed (.cons tried fails misses) (Nat.succ_lt_succ few) last serves
  | extended misses spent drawn added =>
      exact .extended (.cons tried fails misses) (congrArg Nat.succ spent) drawn added

theorem Finds.ne {t u : Text} {tries : Nat} {s rest : σ} (finds : Finds t tries s rest u) :
    u ≠ t := by
  cases finds with
  | changed _ _ _ serves => exact serves.ne
  | extended _ _ _ added =>
      rw [added]
      exact fun heq => List.cons_ne_nil _ _ (List.append_right_eq_self.1 heq)

theorem finds_otherTrigger (t : Trigger) (tries : Nat) (s : σ) :
    ∃ u rest, (otherTrigger t tries).run s = (u, rest) ∧ Finds t.1 tries s rest u.1 := by
  induction tries generalizing s with
  | zero => exact ⟨_, _, rfl, .extended (.nil s) rfl rfl rfl⟩
  | succ tries ih =>
      obtain ⟨u, s', hrun, tried⟩ := run_perturbed? t.ne_nil s
      rw [otherTrigger, Draw.run_bind _ hrun]
      by_cases serves : Serves t.1 u
      · rw [dif_pos serves.not_blank, if_pos serves.ne]
        exact ⟨_, _, rfl, .changed (.nil s) (Nat.succ_pos tries) tried serves⟩
      · obtain ⟨v, rest, hagain, finds⟩ := ih s'
        refine ⟨v, rest, ?_, finds.cons tried serves⟩
        split
        · next hblank =>
            rw [if_neg fun hne => serves ⟨hblank, hne⟩]
            exact hagain
        · exact hagain

/-! ## Mutated rules -/

/-- How a rule gets its response after its trigger was found. -/
inductive Answers (rates : Rates) (old : Text) (s rest : σ) : Text → Prop where
  /-- The response stays. -/
  | kept (stays : (Draw.chance rates.response).run s = (false, rest)) : Answers rates old s rest old
  /-- A response of the vocabulary takes its place. -/
  | replaced {s' : σ} {w : Text} (changes : (Draw.chance rates.response).run s = (true, s'))
      (drawn : response.run s' = (w, rest)) : Answers rates old s rest w

theorem Answers.eq_or_mem {rates : Rates} {old w : Text} {s rest : σ}
    (answers : Answers rates old s rest w) : w = old ∨ w ∈ responseWords := by
  cases answers with
  | kept _ => exact .inl rfl
  | @replaced s' _ _ drawn =>
      have hword := always_response s'
      rw [drawn] at hword
      exact .inr hword

theorem exists_answers (rates : Rates) (old : Text) (s : σ) (next : Text → Draw σ Rule) :
    ∃ w rest, Answers rates old s rest w ∧
      (do
        let w ← if ← Draw.chance rates.response then response else pure old
        next w : Draw σ Rule).run s = (next w).run rest := by
  rcases hchance : (Draw.chance rates.response).run s with ⟨_ | _, s'⟩
  · exact ⟨old, s', .kept hchance, Draw.run_bind _ hchance⟩
  · refine ⟨_, _, .replaced hchance rfl, ?_⟩
    exact (Draw.run_bind _ hchance).trans (Draw.run_bind _ rfl)

/-- A mutated rule has another trigger, which is not blank, the same condition and the same
template, and the same response or one of the vocabulary.  The trigger is changed no more often
than there are tries, and gets a letter only if all of them were misses. -/
theorem mutatedRule_finds (rates : Rates) (r : Rule) (source : σ) :
    ∃ q middle rest, (mutatedRule rates r).run source = (q, rest) ∧
      Finds r.trigger (max 1 rates.attempts).toNat source middle q.trigger ∧
      Answers rates r.response middle rest q.response ∧
      Rule.ofParts? q.trigger q.response r.condition r.template = some q ∧
      Text.isBlankText q.trigger = false ∧ q.trigger ≠ r.trigger ∧
      q.condition = r.condition ∧ q.template = r.template ∧
      (q.response = r.response ∨ q.response ∈ responseWords) := by
  obtain ⟨t, middle, htrigger, finds⟩ :=
    finds_otherTrigger ⟨r.trigger, r.trigger_not_blank⟩ rates.tries source
  obtain ⟨w, rest, answers, hresponse⟩ := exists_answers rates r.response middle fun w =>
    pure ⟨t.1, w, r.condition, r.template, t.2⟩
  refine ⟨⟨t.1, w, r.condition, r.template, t.2⟩, middle, rest, ?_, finds, answers,
    dif_pos t.2, t.2, finds.ne, rfl, rfl, answers.eq_or_mem⟩
  rw [mutatedRule, Draw.run_bind _ htrigger]
  exact hresponse

end Mycelium.Breeding
