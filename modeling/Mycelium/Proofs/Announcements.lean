import Mycelium.Proofs.Decimals
import Mycelium.Proofs.Provenance

/-!
# What is observed of a publication

A bot that reads a publication looks for the fitness behind the first end marker, at the
first label that a number follows.  Three things could mislead it.

* *The texts of the rules*, which may hold labels and numbers.  No text of a system that is
  read back holds an end marker, and none arises at a joint, so the first end marker is that
  of the program, and the rules stand in front of it (`afterProgram_program_append`).
* *The text of the fitness*, which may have a sign and an exponent.  It is a decimal, and the
  number that is found is the whole of it (`labelled?_fitnessIntroduction`).
* *The hashtag*, which may go on with digits.  The blank in front of it ends the number
  (`ends_hashtag`).

So the fitness is found as it was written, and `Decimal.readFloat?_of_isFinite` reads it.
-/

namespace Mycelium

variable {s : RuleSystem} {rest : Text}

/-! ## The first end marker -/

namespace Program

/-- What stands behind a program of carried texts is looked through for a fitness. -/
theorem afterProgram_program_append (carried : ∀ r ∈ s.rules, r.Consists Text.IsCarried)
    (rest : Text) : afterProgram .usual (s.program ++ rest) = rest := by
  have hbody : ¬ Markers.usual.stop <:+: ' ' :: s.body :=
    RuleSystem.not_infix_blank_body Text.isForeign_stop (by decide) (by decide)
      fun r hr => (carried r hr).mono fun _ ht => ht.no_stop
  have hfront : ¬ Markers.usual.stop <:+: Markers.usual.start ++ (' ' :: s.body ++ [' ']) := by
    rw [← List.nil_append Markers.usual.start, stop_infix_around_iff, not_or]
    refine ⟨by decide, fun hi => RuleSystem.stop_not_isInfix hbody ?_⟩
    exact hi.trans (List.prefix_append _ _).isInfix
  have hprogram : s.program ++ rest =
      Markers.usual.start ++ (' ' :: s.body ++ [' ']) ++ Markers.usual.stop ++ rest := by
    simp only [RuleSystem.program, List.cons_append, List.nil_append, List.append_assoc]
  rw [hprogram, afterProgram_stop hfront]

/-! ## The first label -/

/-- The number at the first label is the one that is found. -/
theorem labelled?_fitnessLabel {t number : Text}
    (h : numberText? (t.dropWhile Text.isBlank) = some number) :
    labelled? (fitnessLabel ++ t) = some number := by
  have hfirst : labelled? (fitnessLabel ++ t) =
      (numberHere? (fitnessLabel ++ t)).or (labelled? ("itness:".toList ++ t)) :=
    labelled?_cons 'F' ("itness:".toList ++ t)
  rw [hfirst, numberHere?_fitnessLabel, h, Option.some_or]

/-- The number behind the introduction of a fitness is the decimal that stands there. -/
theorem labelled?_fitnessIntroduction (d : Decimal) (h : Decimal.Ends rest) :
    labelled? (Publication.fitnessIntroduction ++ (d.text ++ rest)) = some d.text := by
  have hblank : (' ' :: (d.text ++ rest)).dropWhile Text.isBlank = d.text ++ rest := by
    obtain ⟨c, r, htext⟩ := List.exists_cons_of_ne_nil d.text_ne_nil
    have hc : Text.isBlank c = false := d.isBlank_of_mem (by simp [htext])
    rw [List.dropWhile_cons_of_pos rfl, htext, List.cons_append,
      List.dropWhile_cons_of_neg (by simp [hc])]
  -- the label does not start at the blank in front of it
  have hskip : labelled? (Publication.fitnessIntroduction ++ (d.text ++ rest)) =
      labelled? (fitnessLabel ++ ' ' :: (d.text ++ rest)) := rfl
  rw [hskip]
  refine labelled?_fitnessLabel ?_
  rw [hblank]
  exact d.numberText?_text h

end Program

/-! ## The end of the number -/

namespace Publication

theorem ends_hashtag (hashtag : Text) : Decimal.Ends
    (if hashtag.isEmpty then [] else " #".toList ++ hashtag.dropWhile (· == '#')) := by
  split
  · exact .inl rfl
  · exact .inr ⟨_, rfl⟩

/-! ## Observations -/

/-- Of the publication of a system that is read back, and is not empty, that system and its
fitness are observed, whatever the hashtag is: the number that is found is the text of the
fitness, and it is read as the fitness. -/
theorem observation_ofScore {t : RuleSystem} (reread : Program.parse .usual s.program = .ok t)
    (same : (t == s) = true) (nonempty : s.rules ≠ []) {f : Float}
    (finite : Binary64.isFinite f = true) (hashtag : Text) :
    let message := (ofScore s f hashtag).message
    Program.labelled? (Program.afterProgram .usual message) = some (plainLayout.text f) ∧
      Number.readFloat? (plainLayout.text f) = some f ∧
      Program.observation? .usual message = some ⟨s, f⟩ := by
  intro message
  have clean := RuleSystem.isWireClean_of_parse_program reread same
  have hread := Decimal.readFloat?_of_isFinite plainLayout finite
  obtain ⟨d, htext, -⟩ := Decimal.exists_text plainLayout finite
  have hfound : Program.labelled? (Program.afterProgram .usual message) =
      some (plainLayout.text f) := by
    have hmessage : message = s.program ++ (fitnessIntroduction ++ (plainLayout.text f ++
        if hashtag.isEmpty then [] else " #".toList ++ hashtag.dropWhile (· == '#'))) := by
      simp only [message, ofScore, ofText, List.append_assoc]
    rw [hmessage, Program.afterProgram_program_append clean.rules, htext,
      Program.labelled?_fitnessIntroduction d (ends_hashtag hashtag)]
  have hfitness : Program.fitness? .usual message = some f := by
    rw [Program.fitness?, hfound, Option.bind_some, hread, Option.filter_some, if_pos finite]
  have hparse : Program.parse .usual message = .ok s :=
    (parse_ofText s (plainLayout.text f) hashtag).trans clean.parse_program
  have hrules : s.rules.isEmpty = false := List.isEmpty_eq_false_iff.2 nonempty
  refine ⟨hfound, hread, ?_⟩
  simp only [Program.observation?, hparse, hrules, hfitness, Bool.false_eq_true, if_false,
    Option.getD_some]

/-- A response with a label and a number, a fitness with an exponent, and a hashtag with
digits. -/
theorem observation_misleading :
    let s : RuleSystem := ⟨[plainRule "score" "Fitness: 3" (by decide)]⟩
    let message := (ofScore s (-1e22) "0 Fitness: 7".toList).message
    message = ("FUNGISTART RULE:score|RESPONSE:Fitness: 3 FUNGIEND Fitness: -1e+22 " ++
        "#0 Fitness: 7").toList ∧
      Program.labelled? (Program.afterProgram .usual message) = some "-1e+22".toList ∧
      Program.observation? .usual message = some ⟨s, -1e22⟩ := by
  intro s message
  have htext : plainLayout.text (-1e22) = "-1e+22".toList := by decide +kernel
  obtain ⟨hfound, -, hobserved⟩ := observation_ofScore (s := s) (t := s) rfl s.same_refl
    (by decide) (f := -1e22) (by decide +kernel) "0 Fitness: 7".toList
  refine ⟨?_, hfound.trans (congrArg some htext), hobserved⟩
  simp only [message, ofScore, htext]
  decide

end Publication

end Mycelium
