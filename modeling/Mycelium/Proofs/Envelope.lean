import Mycelium.Proofs.Offspring

/-!
# What every evolved system keeps to

Breeding cannot fail: a pool that a parent is drawn from is not empty, a number is drawn
below a bound that is not zero, and a rule comes with a trigger that is not blank.  All
three are part of the types.  `evolved_keeps_bounds` says what else is true of the outcome,
for every pool, all fitnesses and rates, and whatever is drawn: also for systems without
rules, for fitnesses that are no numbers, and for bounds that contradict each other.

A separator or a line break in a bred rule was in the pool before (`IsBredFrom.exists_uses`),
as a change puts in nothing but letters and spaces.
-/

namespace Mycelium.Breeding

/-- A rule has a character in its trigger or in its response. -/
def Uses (c : Char) (r : Rule) : Prop := c ∈ r.trigger ∨ c ∈ r.response

variable {c : Char} {r q : Rule}

theorem IsOfVocabulary.not_uses (h : IsOfVocabulary r) (mark : c ∈ separators) : ¬ Uses c r := by
  rintro (hc | hc)
  · exact separator_not_mem mark (List.mem_append_left _ h.trigger) hc
  · exact separator_not_mem mark (List.mem_append_right _ h.response) hc

/-- A mutation puts no separator into a rule. -/
theorem IsMutantOf.uses (h : IsMutantOf r q) (mark : c ∈ separators) (hq : Uses c q) :
    Uses c r := by
  rcases hq with hc | hc
  · exact .inl (h.varies.mem_of_separator mark hc)
  · rcases h.response with heq | hword
    · exact .inr (heq ▸ hc)
    · exact absurd hc (separator_not_mem mark (List.mem_append_right _ hword))

/-- A separator in a bred rule was in a rule of a parent. -/
theorem IsBredFrom.exists_uses {parents : List RuleSystem} (h : IsBredFrom parents q)
    (mark : c ∈ separators) (hq : Uses c q) : ∃ s ∈ parents, ∃ r ∈ s.rules, Uses c r := by
  have hstock {r : Rule} (stock : IsStock parents r) (hr : Uses c r) :
      ∃ s ∈ parents, ∃ r ∈ s.rules, Uses c r := by
    rcases stock with ⟨s, hs, hrs⟩ | hnew
    · exact ⟨s, hs, r, hrs, hr⟩
    · exact absurd hr (hnew.not_uses mark)
  cases h with
  | kept stock => exact hstock stock hq
  | mutant stock hmutant => exact hstock stock (hmutant.uses mark hq)

/-- Evolution always gives a system.  It is not empty, has no more rules than allowed, and
has only one rule or keeps to its budget.  No trigger is blank, and every bar and every line
break in a trigger or a response was in the pool. -/
theorem evolved_keeps_bounds {σ : Type} [RandomSource σ] (rates : Rates) (current : Scored)
    (lineage others : List Scored) (source : σ) :
    ∃ s rest, (evolved rates current lineage others).run source = (s, rest) ∧
      s.rules ≠ [] ∧
      (s.rules.length : Int) ≤ max 1 rates.mostRules ∧
      (0 < rates.budget → s.rules.length = 1 ∨ (s.program.length : Int) ≤ rates.budget) ∧
      (∀ r ∈ s.rules, ∃ c ∈ r.trigger, Text.isBlank c = false) ∧
      ∀ c ∈ ['|', '\r', '\n'], (∃ r ∈ s.rules, c ∈ r.trigger ∨ c ∈ r.response) →
        ∃ x ∈ current :: lineage ++ others, ∃ r ∈ x.system.rules,
          c ∈ r.trigger ∨ c ∈ r.response := by
  rcases hrun : (evolved rates current lineage others).run source with ⟨s, rest⟩
  have hs : IsOffspringOf rates ((current :: lineage ++ others).map Scored.system) s := by
    have hall := always_evolved rates current lineage others source
    rwa [hrun] at hall
  refine ⟨s, rest, rfl, hs.ne_nil, ?_, hs.within, ?_, ?_⟩
  · have hlength := hs.length_le
    rw [Rates.atMost] at hlength
    omega
  · intro r _
    have hblank := r.trigger_not_blank
    simpa [Text.isBlankText] using hblank
  · rintro c mark ⟨q, hq, hc⟩
    obtain ⟨t, hmem, r, hr, hcr⟩ := (hs.bred q hq).exists_uses mark hc
    obtain ⟨x, hx, rfl⟩ := List.mem_map.1 hmem
    exact ⟨x, hx, r, hr, hcr⟩

end Mycelium.Breeding
