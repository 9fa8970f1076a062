import Mycelium.Proofs.Adoption
import Mycelium.Proofs.Offspring
import Mycelium.Random.Generator

/-!
# Whether programs stay readable when they are bred

Breeding keeps almost everything that a program needs to be read back: no blanks around the
texts, no bars and no line breaks, and conditions, templates and responses as they were or
from the vocabulary (`IsBredFrom.carried`).  It does not look at markers and labels.

* A change may complete the end marker in a trigger, say by leaving out a letter.
* A rule whose trigger starts with a label is read back only in the first place, and may come
  to stand in another one; and a change may complete a label as well.

`parse_evolved_iff` says that nothing else goes wrong, and that nothing goes wrong at all if
no trigger of the pool is one change away from a marker or a label.
-/

namespace Mycelium.Breeding

/-- A trigger that holds no end marker and does not start with a label, and gets neither by
one change. -/
structure IsSteady (t : Text) : Prop where
  no_stop : ∀ u, u = t ∨ Varies t u → ¬ Markers.usual.stop <:+: u
  no_label : ∀ u, u = t ∨ Varies t u → ¬ ruleLabel <+: u

variable {r q : Rule} {parents : List RuleSystem}

/-! ## The vocabulary -/

/-- Without a colon and a D in any case, one change gives neither a label nor an end marker. -/
theorem isSteady_of_not_mem {t : Text} (colon : ':' ∉ t) (upper : 'D' ∉ t)
    (lower : 'D' ∉ t.flatMap Text.swapCase) : IsSteady t where
  no_stop := by
    have hmem : 'D' ∈ Markers.usual.stop := by decide
    rintro u (rfl | hu) hi
    · exact upper (hi.subset hmem)
    · rcases hu.mem (hi.subset hmem) with h | ⟨c, hc, h⟩ | h | h
      · exact upper h
      · exact lower (List.mem_flatMap.2 ⟨c, hc, h⟩)
      · exact absurd h (by decide)
      · exact absurd h (by decide)
  no_label := by
    have hmem : ':' ∈ ruleLabel := by decide
    rintro u (rfl | hu) hp
    · exact colon (hp.subset hmem)
    · exact colon (hu.mem_of_mark (by decide) (by decide) (hp.subset hmem))

theorem isSteady_of_mem_triggerWords {w : Text} (h : w ∈ triggerWords) : IsSteady w := by
  have hwords : ∀ w ∈ triggerWords,
      ':' ∉ w ∧ 'D' ∉ w ∧ 'D' ∉ w.flatMap Text.swapCase := by decide +kernel
  obtain ⟨colon, upper, lower⟩ := hwords w h
  exact isSteady_of_not_mem colon upper lower

theorem isCarried_of_mem_words {w : Text} (h : w ∈ triggerWords ++ responseWords) :
    Text.IsCarried w := by
  have hwords : ∀ w ∈ triggerWords ++ responseWords,
      Text.strip w = w ∧ ¬ Markers.usual.stop <:+: w := by decide +kernel
  obtain ⟨stripped, no_stop⟩ := hwords w h
  exact {
    stripped := stripped
    no_bar := separator_not_mem (by decide) h
    no_return := separator_not_mem (by decide) h
    no_feed := separator_not_mem (by decide) h
    no_stop := no_stop }

theorem IsOfVocabulary.carried (h : IsOfVocabulary r) : r.Consists Text.IsCarried where
  trigger := isCarried_of_mem_words (List.mem_append_left _ h.trigger)
  response := isCarried_of_mem_words (List.mem_append_right _ h.response)
  condition _ hc := absurd (h.condition.symm.trans hc) nofun
  name _ he := absurd (h.template ▸ he) List.not_mem_nil
  value _ he := absurd (h.template ▸ he) List.not_mem_nil

/-! ## Rules that are bred -/

/-- A mutant of a rule that is carried is carried, unless the end marker came into its
trigger. -/
theorem IsMutantOf.carried (h : IsMutantOf r q) (hr : r.Consists Text.IsCarried)
    (unstopped : ¬ Markers.usual.stop <:+: q.trigger) : q.Consists Text.IsCarried where
  trigger := {
    stripped := h.varies.stripped r.trigger_ne_nil hr.trigger.stripped
    no_bar := fun hc => hr.trigger.no_bar (h.varies.mem_of_separator (by decide) hc)
    no_return := fun hc => hr.trigger.no_return (h.varies.mem_of_separator (by decide) hc)
    no_feed := fun hc => hr.trigger.no_feed (h.varies.mem_of_separator (by decide) hc)
    no_stop := unstopped }
  response := by
    rcases h.response with heq | hword
    · exact heq ▸ hr.response
    · exact isCarried_of_mem_words (List.mem_append_right _ hword)
  condition := h.condition ▸ hr.condition
  name := h.template ▸ hr.name
  value := h.template ▸ hr.value

theorem IsBredFrom.carried (h : IsBredFrom parents q)
    (clean : ∀ s ∈ parents, ∀ r ∈ s.rules, r.Consists Text.IsCarried)
    (unstopped : ¬ Markers.usual.stop <:+: q.trigger) : q.Consists Text.IsCarried := by
  have hstock {r : Rule} (stock : IsStock parents r) : r.Consists Text.IsCarried := by
    rcases stock with ⟨s, hs, hr⟩ | hnew
    · exact clean s hs r hr
    · exact hnew.carried
  cases h with
  | kept stock => exact hstock stock
  | mutant stock hmutant => exact hmutant.carried (hstock stock) unstopped

/-- What is bred from steady triggers has neither an end marker nor a label. -/
theorem IsBredFrom.unmarked (h : IsBredFrom parents q)
    (steady : ∀ s ∈ parents, ∀ r ∈ s.rules, IsSteady r.trigger) :
    ¬ Markers.usual.stop <:+: q.trigger ∧ ¬ ruleLabel <+: q.trigger := by
  have hstock {r : Rule} (stock : IsStock parents r) : IsSteady r.trigger := by
    rcases stock with ⟨s, hs, hr⟩ | hnew
    · exact steady s hs r hr
    · exact isSteady_of_mem_triggerWords hnew.trigger
  cases h with
  | kept stock => exact ⟨(hstock stock).no_stop _ (.inl rfl), (hstock stock).no_label _ (.inl rfl)⟩
  | mutant stock hmutant =>
      exact ⟨(hstock stock).no_stop _ (.inr hmutant.varies),
        (hstock stock).no_label _ (.inr hmutant.varies)⟩

/-! ## Systems that are bred -/

theorem IsOffspringOf.isWireClean_iff {rates : Rates} {s : RuleSystem}
    (h : IsOffspringOf rates parents s)
    (clean : ∀ p ∈ parents, ∀ r ∈ p.rules, r.Consists Text.IsCarried) :
    s.IsWireClean ↔ (∀ r ∈ s.rules, ¬ Markers.usual.stop <:+: r.trigger) ∧
      ∀ r ∈ s.rules.tail, ¬ ruleLabel <+: r.trigger := by
  constructor
  · exact fun hs => ⟨fun r hr => (hs.rules r hr).trigger.no_stop, hs.labels⟩
  · exact fun ⟨unstopped, unlabelled⟩ =>
      ⟨fun r hr => (h.bred r hr).carried clean (unstopped r hr), unlabelled⟩

/-- If every system of the pool is read back from its program, the evolved system is read
back exactly if no trigger holds the end marker and no trigger but the first starts with a
label.  It is read back in any case if the triggers of the pool are steady. -/
theorem parse_evolved_iff {σ : Type} [RandomSource σ] (rates : Rates) (current : Scored)
    (lineage others : List Scored) (source : σ)
    (read : ∀ x ∈ current :: lineage ++ others,
      ∃ t, Program.parse .usual x.system.program = .ok t ∧ (t == x.system) = true) :
    ∃ s rest, (evolved rates current lineage others).run source = (s, rest) ∧
      ((∃ t, Program.parse .usual s.program = .ok t ∧ (t == s) = true) ↔
        (∀ r ∈ s.rules, ¬ Markers.usual.stop <:+: r.trigger) ∧
          ∀ r ∈ s.rules.tail, ¬ ruleLabel <+: r.trigger) ∧
      ((∀ x ∈ current :: lineage ++ others, ∀ r ∈ x.system.rules, IsSteady r.trigger) →
        ∃ t, Program.parse .usual s.program = .ok t ∧ (t == s) = true) := by
  rcases hrun : (evolved rates current lineage others).run source with ⟨s, rest⟩
  have hs : IsOffspringOf rates ((current :: lineage ++ others).map Scored.system) s := by
    have hall := always_evolved rates current lineage others source
    rwa [hrun] at hall
  have clean : ∀ p ∈ (current :: lineage ++ others).map Scored.system,
      ∀ r ∈ p.rules, r.Consists Text.IsCarried := by
    rintro p hp r hr
    obtain ⟨x, hx, rfl⟩ := List.mem_map.1 hp
    obtain ⟨t, ht, same⟩ := read x hx
    exact (RuleSystem.isWireClean_of_parse_program ht same).rules r hr
  have hread : (∃ t, Program.parse .usual s.program = .ok t ∧ (t == s) = true) ↔
      (∀ r ∈ s.rules, ¬ Markers.usual.stop <:+: r.trigger) ∧
        ∀ r ∈ s.rules.tail, ¬ ruleLabel <+: r.trigger := by
    rw [← hs.isWireClean_iff clean]
    constructor
    · exact fun ⟨t, ht, same⟩ => RuleSystem.isWireClean_of_parse_program ht same
    · exact fun hclean => ⟨s, hclean.parse_program, s.same_refl⟩
  refine ⟨s, rest, rfl, hread, fun steady => hread.2 ?_⟩
  have hunmarked : ∀ q ∈ s.rules,
      ¬ Markers.usual.stop <:+: q.trigger ∧ ¬ ruleLabel <+: q.trigger := by
    intro q hq
    refine (hs.bred q hq).unmarked fun p hp r hr => ?_
    obtain ⟨x, hx, rfl⟩ := List.mem_map.1 hp
    exact steady x hx r hr
  exact ⟨fun q hq => (hunmarked q hq).1, fun q hq => (hunmarked q (List.mem_of_mem_tail hq)).2⟩

/-- What is bred from the fallback system alone is read back. -/
theorem parse_evolved_fallback :
    ∃ s rest, (evolved {} ⟨Publication.fallback, 0.5⟩ [] []).run (Tape.ofList [3, 1, 4, 1, 5]) =
        (s, rest) ∧
      ∃ t, Program.parse .usual s.program = .ok t ∧ (t == s) = true := by
  have read : ∀ x ∈ [(⟨Publication.fallback, 0.5⟩ : Scored)],
      ∃ t, Program.parse .usual x.system.program = .ok t ∧ (t == x.system) = true := by
    intro x hx
    obtain rfl := List.mem_singleton.1 hx
    exact ⟨Publication.fallback, rfl, Publication.fallback.same_refl⟩
  have steady : ∀ x ∈ [(⟨Publication.fallback, 0.5⟩ : Scored)],
      ∀ r ∈ x.system.rules, IsSteady r.trigger := by
    intro x hx r hr
    obtain rfl := List.mem_singleton.1 hx
    obtain rfl := List.mem_singleton.1 hr
    exact isSteady_of_not_mem (by decide) (by decide) (by decide)
  obtain ⟨s, rest, hrun, -, hsteady⟩ :=
    parse_evolved_iff {} ⟨Publication.fallback, 0.5⟩ [] [] (Tape.ofList [3, 1, 4, 1, 5]) read
  exact ⟨s, rest, hrun, hsteady steady⟩

/-- A rule whose trigger is the end marker with one letter too many. -/
def almostStop : RuleSystem := ⟨[Publication.plainRule "FUNGxIEND" "b" (by decide)]⟩

/-- The same rule without that letter. -/
def stopped : RuleSystem := ⟨[Publication.plainRule "FUNGIEND" "b" (by decide)]⟩

/-- One change makes an end marker, so that the evolved system is not read back although the
only system of the pool is. -/
theorem parse_evolved_stopped :
    (∃ t, Program.parse .usual almostStop.program = .ok t ∧ (t == almostStop) = true) ∧
      ((evolved {} ⟨almostStop, 0.0⟩ [] []).run
        (Tape.ofList [0, 0, 0, 999, 0, 1, 4, 999, 999, 999])).1 = stopped ∧
      ¬ ∃ t, Program.parse .usual stopped.program = .ok t ∧ (t == stopped) = true := by
  refine ⟨⟨almostStop, rfl, almostStop.same_refl⟩, by rfl, ?_⟩
  rintro ⟨t, ht, same⟩
  have hclean := RuleSystem.isWireClean_of_parse_program ht same
  exact (hclean.rules _ List.mem_cons_self).trigger.no_stop (List.infix_refl _)

end Mycelium.Breeding
