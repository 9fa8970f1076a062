import Mycelium.Proofs.RoundTrip
import Mycelium.Publication

/-!
# Systems that are read and published again

A bot adopts a system that it has read, and later publishes it.  The texts of a system
that was read have no bars, no line breaks and no blanks around them.  Two things may be
in them all the same that a program does not carry:

* an end marker, which had a line break inside it when it was read, so that it did not
  end the program;
* a label in front of a later trigger, as reading drops one label but not a second one.

`parse_publication_iff` says that a system is read back from its publication unless one
of these two is in it.
-/

namespace Mycelium

variable {s : RuleSystem} {x : Text}

/-! ## What stands behind a program -/

namespace Program

/-- What stands behind a program is not read. -/
theorem interior_program_append (s : RuleSystem) (rest : Text) :
    interior .usual (s.program ++ rest) = interior .usual s.program := by
  have hstart (rest : Text) : Text.cut Markers.usual.start (s.program ++ rest) =
      some ([], ' ' :: s.body ++ [' '] ++ Markers.usual.stop ++ rest) := by
    have hprogram : s.program ++ rest =
        [] ++ Markers.usual.start ++ (' ' :: s.body ++ [' '] ++ Markers.usual.stop ++ rest) := by
      simp only [RuleSystem.program, List.nil_append, List.cons_append, List.append_assoc]
    rw [hprogram]
    exact Text.cut_append (by decide) (by decide) _
  have halone := hstart []
  rw [List.append_nil, List.append_nil] at halone
  cases hstop : Text.cut Markers.usual.stop (' ' :: s.body ++ [' '] ++ Markers.usual.stop) with
  | none => exact absurd List.infix_append_right (Text.cut_eq_none_iff.1 hstop)
  | some parts =>
      rw [interior, interior, hstart, halone]
      simp only [hstop, Text.cut_append_right (by decide) hstop rest]

theorem parse_program_append (s : RuleSystem) (rest : Text) :
    parse .usual (s.program ++ rest) = parse .usual s.program := by
  rw [parse, parse, interior_program_append]

end Program

/-- A publication is read like its program. -/
theorem Publication.parse_ofText (s : RuleSystem) (fitness hashtag : Text) :
    Program.parse .usual (ofText s fitness hashtag).message =
      Program.parse .usual s.program := by
  rw [ofText, List.append_assoc, List.append_assoc]
  exact Program.parse_program_append s _

/-! ## What was read -/

namespace RuleSystem

/-- The texts of a system that was read are carried, unless they hold the end marker. -/
theorem carried_of_parse (read : Program.parse .usual x = .ok s)
    (unstopped : ∀ r ∈ s.rules, r.Consists (¬ Markers.usual.stop <:+: ·)) :
    ∀ r ∈ s.rules, r.Consists Text.IsCarried := by
  obtain ⟨body, hbody, -⟩ := Program.parse_eq_ok_iff.1 read
  obtain ⟨pre, raw, post, -, -, hraw⟩ := Program.exists_of_interior_eq_ok (by decide) hbody
  have hbreak : '\r' ∉ body ∧ '\n' ∉ body := by simp [hraw]
  intro r hr
  have hparts := Program.consists_of_parse hbody read r hr
  refine (hparts.and (unstopped r hr)).mono fun t ht => ?_
  exact {
    ht.1.toIsPlain with
    no_return := fun hm => hbreak.1 (ht.1.stands.subset hm)
    no_feed := fun hm => hbreak.2 (ht.1.stands.subset hm)
    no_stop := ht.2 }

theorem isWireClean_iff_of_parse (read : Program.parse .usual x = .ok s) :
    s.IsWireClean ↔ (∀ r ∈ s.rules, r.Consists (¬ Markers.usual.stop <:+: ·)) ∧
      ∀ r ∈ s.rules.tail, ¬ ruleLabel <+: r.trigger := by
  constructor
  · exact fun clean => ⟨fun r hr => (clean.rules r hr).mono fun _ ht => ht.no_stop, clean.labels⟩
  · exact fun ⟨unstopped, unlabelled⟩ => ⟨carried_of_parse read unstopped, unlabelled⟩

end RuleSystem

/-! ## Publications of what was read -/

namespace Publication

/-- A system that was read is read back from its publication, whatever its fitness and the
hashtag are, exactly if it holds no end marker and no trigger but the first starts with a
label. -/
theorem parse_publication_iff (read : Program.parse .usual x = .ok s) (fitness : Float)
    (hashtag : Text) :
    (∃ t, Program.parse .usual (ofScore s fitness hashtag).message = .ok t ∧ (t == s) = true) ↔
      (∀ r ∈ s.rules, r.Consists (¬ Markers.usual.stop <:+: ·)) ∧
        ∀ r ∈ s.rules.tail, ¬ ruleLabel <+: r.trigger := by
  rw [ofScore, parse_ofText, ← RuleSystem.isWireClean_iff_of_parse read]
  constructor
  · rintro ⟨t, reread, same⟩
    exact RuleSystem.isWireClean_of_parse_program reread same
  · exact fun clean => ⟨s, clean.parse_program, s.same_refl⟩

/-- The fallback system is read back from its publication. -/
theorem parse_publication_fallback :
    Program.parse .usual "FUNGISTART RULE:Hello|RESPONSE:Hello, Fediverse user! FUNGIEND".toList =
        .ok fallback ∧
      ∃ t, Program.parse .usual (ofScore fallback 0.5 "fungifeed".toList).message = .ok t ∧
        (t == fallback) = true := by
  have read : Program.parse .usual
      "FUNGISTART RULE:Hello|RESPONSE:Hello, Fediverse user! FUNGIEND".toList = .ok fallback := rfl
  refine ⟨read, (parse_publication_iff read 0.5 "fungifeed".toList).2 ⟨?_, ?_⟩⟩
  · intro r hr
    obtain rfl := List.mem_singleton.1 hr
    exact {
      trigger := by decide
      response := by decide
      condition := nofun
      name := by simp [fallbackRule, Template.empty]
      value := by simp [fallbackRule, Template.empty] }
  · exact fun r hr => absurd hr List.not_mem_nil

/-- A rule without condition and template. -/
def plainRule (trigger response : String) (h : Text.isBlankText trigger.toList = false) : Rule :=
  ⟨trigger.toList, response.toList, none, .empty, h⟩

/-- An end marker that a line break takes apart is read as text, and ends the publication
early. -/
example : ∃ s t,
    Program.parse .usual "FUNGISTART RULE:a|RESPONSE:FUNGI\nEND b FUNGIEND".toList = .ok s ∧
      Program.parse .usual (ofScore s 0.5 "fungifeed".toList).message = .ok t ∧
      s.pairs = [("a".toList, "FUNGIEND b".toList)] ∧ t.pairs = [("a".toList, [])] := by
  refine ⟨⟨[plainRule "a" "FUNGIEND b" (by decide)]⟩, ⟨[plainRule "a" "" (by decide)]⟩, rfl, ?_,
    rfl, rfl⟩
  rw [ofScore, parse_ofText]
  rfl

/-- Of two labels in front of a later trigger one is dropped when it is read, and the other
one when its publication is read. -/
theorem parse_publication_twoLabels :
    ∃ s t, Program.parse .usual
        "FUNGISTART RULE:a|RESPONSE:b|RULE:RULE:RULE:c|RESPONSE:d FUNGIEND".toList = .ok s ∧
      Program.parse .usual (ofScore s 0.5 "fungifeed".toList).message = .ok t ∧
      s.pairs = [("a".toList, "b".toList), ("RULE:c".toList, "d".toList)] ∧
      t.pairs = [("a".toList, "b".toList), ("c".toList, "d".toList)] := by
  let first := plainRule "a" "b" (by decide)
  refine ⟨⟨[first, plainRule "RULE:c" "d" (by decide)]⟩, ⟨[first, plainRule "c" "d" (by decide)]⟩,
    rfl, ?_, rfl, rfl⟩
  rw [ofScore, parse_ofText]
  rfl

end Publication

end Mycelium
