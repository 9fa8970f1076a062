import Mycelium.Proofs.Commentary
import Mycelium.Program.Fitness

/-!
# Where the fitness of an observation stands

A program and its fitness are looked for one by one.  The program is what stands between the first
start marker and the first end marker behind it.  The fitness is the first labelled number behind
the first end marker of the whole text.  `fitness_observed` says which number that is.

* If there is no end marker in the commentary in front of the program, it is the first number
  behind the program.
* If there is one, numbers that follow it in the commentary come first, then those inside the
  program, and those behind the program come last.

So the fitness may be none that was published with the program.  A label does not reach across a
marker, and neither does a number, for both are over where a marker starts
(`labelled?_mark`).
-/

namespace Mycelium.Program

/-! ## The end of a number -/

/-- A character with which no number goes on. -/
structure EndsNumber (c : Char) : Prop where
  not_digit : Text.isDigit c = false
  not_mark : c ∉ ['-', '+', '.', 'e', 'E']

theorem digitsAfter_isPrefix (c : Char) (s : Text) : digitsAfter c s <+: s := by
  cases s with
  | nil => exact List.prefix_rfl
  | cons d r =>
      simp only [digitsAfter]
      split
      · rw [List.cons_prefix_cons]
        exact ⟨rfl, List.takeWhile_prefix Text.isDigit⟩
      · exact List.nil_prefix

section EndsNumber

variable {c : Char} (h : EndsNumber c) (r v : Text)

include h

theorem takeWhile_isDigit_append :
    (r ++ c :: v).takeWhile Text.isDigit = r.takeWhile Text.isDigit := by
  induction r with
  | nil => simp [h.not_digit]
  | cons d r ih => simp only [List.cons_append, List.takeWhile_cons, ih]

theorem digitsAfter_append : digitsAfter '.' (r ++ c :: v) = digitsAfter '.' r := by
  cases r with
  | nil =>
      have hpoint : c ≠ '.' := fun heq => h.not_mark (by simp [heq])
      simp [digitsAfter, hpoint]
  | cons d r =>
      simp only [List.cons_append, digitsAfter, takeWhile_isDigit_append h]

theorem exponentText_append : exponentText (r ++ c :: v) = exponentText r := by
  have hmarks := h.not_mark
  simp only [List.mem_cons, List.not_mem_nil, or_false, not_or] at hmarks
  obtain ⟨hminus, hplus, -, hsmall, hcapital⟩ := hmarks
  cases r with
  | nil => simp [exponentText, hsmall, hcapital]
  | cons d r =>
      cases r with
      | nil => simp [exponentText, hminus, hplus, h.not_digit]
      | cons e r =>
          have hdigits := takeWhile_isDigit_append h
          by_cases hsign : e = '-' ∨ e = '+'
          · simp [exponentText, hsign, hdigits]
          · have hrest := hdigits (e :: r) v
            rw [List.cons_append] at hrest
            simp [exponentText, hsign, hrest]

theorem numberText?_append : numberText? (r ++ c :: v) = numberText? r := by
  have hminus : c ≠ '-' := fun heq => h.not_mark (by simp [heq])
  cases r with
  | nil => simp [numberText?, hminus, h.not_digit]
  | cons d r =>
      have hdrop : (d :: r ++ c :: v).drop (if d = '-' then ['-'] else [] : Text).length =
          (d :: r).drop (if d = '-' then ['-'] else [] : Text).length ++ c :: v := by
        split <;> rfl
      simp only [numberText?, List.cons_append, List.head?_cons, Option.some.injEq] at hdrop ⊢
      rw [hdrop]
      generalize (d :: r).drop (if d = '-' then ['-'] else [] : Text).length = t
      have hwhole := (List.takeWhile_prefix Text.isDigit (l := t)).length_le
      have hfraction :=
        (digitsAfter_isPrefix '.' (t.drop (t.takeWhile Text.isDigit).length)).length_le
      rw [List.length_drop] at hfraction
      rw [takeWhile_isDigit_append h, List.drop_append_of_le_length hwhole, digitsAfter_append h,
        List.drop_append_of_le_length (by omega), exponentText_append h]

end EndsNumber

/-! ## Labels around a marker -/

/-- The number behind a label at the start of a text. -/
def numberHere? (s : Text) : Option Text :=
  if fitnessLabel.isPrefixOf s then
    numberText? ((s.drop fitnessLabel.length).dropWhile Text.isBlank)
  else none

theorem labelled?_cons (c : Char) (r : Text) :
    labelled? (c :: r) = (numberHere? (c :: r)).or (labelled? r) := by
  rw [labelled?, numberHere?]
  split
  · next hnumber => rw [hnumber, Option.some_or]
  · next hnone => rw [hnone, Option.none_or]

theorem numberHere?_of_unlabelled {s : Text} (h : ¬ fitnessLabel <+: s) : numberHere? s = none := by
  rw [numberHere?, if_neg (by rwa [List.isPrefixOf_iff_prefix])]

theorem numberHere?_fitnessLabel (t : Text) :
    numberHere? (fitnessLabel ++ t) = numberText? (t.dropWhile Text.isBlank) := by
  rw [numberHere?, if_pos (List.isPrefixOf_iff_prefix.2 (List.prefix_append fitnessLabel t)),
    List.drop_left]

theorem endsNumber_mark : EndsNumber 'F' := ⟨by decide, by decide⟩

theorem dropWhile_isBlank_append (t v : Text) :
    (t ++ 'F' :: v).dropWhile Text.isBlank = t.dropWhile Text.isBlank ++ 'F' :: v := by
  have hmark : Text.isBlank 'F' = false := by decide
  induction t with
  | nil => simp [hmark]
  | cons c t ih =>
      simp only [List.cons_append, List.dropWhile_cons, ih]
      split <;> rfl

/-- Where a marker starts, a label that began before it is over, and so is its number. -/
theorem numberHere?_append {s : Text} (hs : s ≠ []) (v : Text) :
    numberHere? (s ++ 'F' :: v) = numberHere? s := by
  have hlabel : fitnessLabel <+: s ++ 'F' :: v ↔ fitnessLabel <+: s :=
    Text.prefix_append_mark_iff (w := "itness:".toList) (by decide) hs
  by_cases hp : fitnessLabel <+: s
  · obtain ⟨t, rfl⟩ := hp
    rw [List.append_assoc, numberHere?_fitnessLabel, numberHere?_fitnessLabel,
      dropWhile_isBlank_append, numberText?_append endsNumber_mark]
  · rw [numberHere?_of_unlabelled hp, numberHere?_of_unlabelled (by rwa [hlabel])]

theorem labelled?_append (u v : Text) :
    labelled? (u ++ 'F' :: v) = (labelled? u).or (labelled? ('F' :: v)) := by
  induction u with
  | nil => rfl
  | cons c u ih =>
      have hhere := numberHere?_append (List.cons_ne_nil c u) v
      rw [List.cons_append] at hhere
      rw [List.cons_append, labelled?_cons, labelled?_cons, hhere, ih, Option.or_assoc]

theorem labelled?_append_of_not_mem {u : Text} (h : 'F' ∉ u) (v : Text) :
    labelled? (u ++ v) = labelled? v := by
  induction u with
  | nil => rfl
  | cons c u ih =>
      simp only [List.mem_cons, not_or] at h
      have hlabel : ¬ fitnessLabel <+: c :: (u ++ v) := by
        intro hp
        exact h.1 (List.cons_prefix_cons.1 (show 'F' :: "itness:".toList <+: _ from hp)).1
      rw [List.cons_append, labelled?_cons, numberHere?_of_unlabelled hlabel, ih h.2,
        Option.none_or]

/-- A number is found in front of a marker or behind it. -/
theorem labelled?_mark {mark : Text} (h : mark ∈ [Markers.usual.start, Markers.usual.stop])
    (u v : Text) : labelled? (u ++ mark ++ v) = (labelled? u).or (labelled? v) := by
  have hmark : ∃ w, mark = 'F' :: 'U' :: w ∧ 'F' ∉ 'U' :: w := by
    simp only [List.mem_cons, List.not_mem_nil, or_false] at h
    cases h with
    | inl h => exact ⟨"NGISTART".toList, h.trans (by decide), by decide⟩
    | inr h => exact ⟨"NGIEND".toList, h.trans (by decide), by decide⟩
  obtain ⟨w, rfl, hw⟩ := hmark
  have hlabel : ¬ fitnessLabel <+: 'F' :: ('U' :: w ++ v) := by
    intro hp
    have hsecond : 'F' :: 'i' :: "tness:".toList <+: 'F' :: 'U' :: (w ++ v) := hp
    simp at hsecond
  rw [List.append_assoc, List.cons_append, labelled?_append, labelled?_cons,
    numberHere?_of_unlabelled hlabel, Option.none_or, labelled?_append_of_not_mem hw]

/-! ## The fitness of an observation -/

/-- The fitness that a number gives: zero if there is no number, or if it is too large. -/
def fitnessOf (number : Option Text) : Float :=
  ((number.bind Number.readFloat?).filter Binary64.isFinite).getD 0.0

variable {pre x : Text}

theorem afterProgram_stop {a : Text} (unstopped : ¬ Markers.usual.stop <:+: a) (rest : Text) :
    afterProgram .usual (a ++ Markers.usual.stop ++ rest) = rest := by
  have hcut : Text.cut Markers.usual.stop (a ++ Markers.usual.stop ++ rest) = some (a, rest) :=
    Text.cut_mark (by decide) unstopped rest
  rw [afterProgram, hcut, Option.map_some, Option.getD_some]

/-- No end marker arises where a start marker is written between two texts. -/
theorem stop_infix_around_iff :
    Markers.usual.stop <:+: pre ++ Markers.usual.start ++ x ↔
      Markers.usual.stop <:+: pre ∨ Markers.usual.stop <:+: x := by
  have hstart : ¬ 'F' :: "UNGIEND".toList <+: 'F' :: ("UNGISTART".toList ++ x) := by
    intro hp
    simp at hp
  have hjoin := Text.infix_append_mark_iff (a := pre) (b := "UNGISTART".toList ++ x)
    (show 'F' ∉ "UNGIEND".toList by decide)
  have hbehind := Text.infix_append_of_not_mem (b := x) (w := "UNGIEND".toList)
    (show 'F' ∉ "UNGISTART".toList by decide)
  rw [List.infix_cons_iff, hbehind] at hjoin
  rw [List.append_assoc]
  exact hjoin.trans (or_congr_right (or_iff_right hstart))

theorem observed_eq_fitnessOf {s : Text} {o : Scored} (h : observation? .usual s = some o) :
    parse .usual s = .ok o.system ∧
      o.fitness = fitnessOf (labelled? (afterProgram .usual s)) := by
  rw [observation?] at h
  split at h
  · next system hparse =>
      split at h
      · cases h
      · cases h
        exact ⟨hparse, rfl⟩
  · cases h

/-- The fitness of an observation is read behind its program, whatever the commentary is, as long
as there is no end marker in it.  Behind an end marker in the commentary the first number counts,
be it in the commentary, inside the program or behind it. -/
theorem fitness_observed (unstarted : ¬ Markers.usual.start <:+: pre)
    (unstopped : ¬ Markers.usual.stop <:+: x) {post : Text} {o : Scored}
    (observed : observation? .usual
      (pre ++ Markers.usual.start ++ x ++ Markers.usual.stop ++ post) = some o) :
    parse .usual (Markers.usual.start ++ x ++ Markers.usual.stop) = .ok o.system ∧
      (¬ Markers.usual.stop <:+: pre → o.fitness = fitnessOf (labelled? post)) ∧
      ∀ a b, pre = a ++ Markers.usual.stop ++ b → ¬ Markers.usual.stop <:+: a →
        o.fitness = fitnessOf ((labelled? b).or ((labelled? x).or (labelled? post))) := by
  obtain ⟨hparse, hfitness⟩ := observed_eq_fitnessOf observed
  refine ⟨?_, fun unmarked => ?_, ?_⟩
  · rw [parse_alone unstopped, ← hparse, parse_around unstarted unstopped]
  · have hfront : ¬ Markers.usual.stop <:+: pre ++ Markers.usual.start ++ x := by
      rw [stop_infix_around_iff, not_or]
      exact ⟨unmarked, unstopped⟩
    rw [hfitness, afterProgram_stop hfront]
  · rintro a b rfl unmarked
    have hrest : a ++ Markers.usual.stop ++ b ++ Markers.usual.start ++ x ++ Markers.usual.stop ++
        post = a ++ Markers.usual.stop ++
          (b ++ Markers.usual.start ++ (x ++ Markers.usual.stop ++ post)) := by
      simp only [List.append_assoc]
    rw [hfitness, hrest, afterProgram_stop unmarked, labelled?_mark (by simp),
      labelled?_mark (by simp)]

/-- A number in the commentary, and one inside the program. -/
theorem fitness_observed_commented :
    let pre := "Mine had Fitness: 8 once. ".toList
    let x := " RULE:score|RESPONSE:Fitness: 9 ".toList
    let post := " Fitness: 3.5 #fungifeed".toList
    ¬ Markers.usual.start <:+: pre ∧ ¬ Markers.usual.stop <:+: x ∧
      ∃ o, observation? .usual
          (pre ++ Markers.usual.start ++ x ++ Markers.usual.stop ++ post) = some o ∧
        o.fitness = 3.5 := by
  intro pre x post
  have unstarted : ¬ Markers.usual.start <:+: pre := by decide
  have unstopped : ¬ Markers.usual.stop <:+: x := by decide
  have hsome : (observation? .usual
      (pre ++ Markers.usual.start ++ x ++ Markers.usual.stop ++ post)).isSome = true := by
    decide +kernel
  obtain ⟨o, observed⟩ := Option.isSome_iff_exists.1 hsome
  have hnumber : fitnessOf (labelled? post) = 3.5 := by decide +kernel
  obtain ⟨-, hfitness, -⟩ := fitness_observed unstarted unstopped observed
  exact ⟨unstarted, unstopped, o, observed, (hfitness (by decide)).trans hnumber⟩

/-- The fitness is that of another program, the end of which is in the commentary. -/
theorem fitness_observed_stopped :
    let pre := "Mine ended FUNGIEND Fitness: 9. See ".toList
    let x := " RULE:a|RESPONSE:b ".toList
    let post := " Fitness: 1".toList
    ¬ Markers.usual.start <:+: pre ∧ ¬ Markers.usual.stop <:+: x ∧
      fitnessOf (labelled? post) = 1 ∧
      ∃ o, observation? .usual
          (pre ++ Markers.usual.start ++ x ++ Markers.usual.stop ++ post) = some o ∧
        o.fitness = 9 ∧ o.fitness ≠ fitnessOf (labelled? post) := by
  intro pre x post
  have hnumber : fitnessOf (labelled? post) = 1 := by decide +kernel
  have hfound : (observation? .usual
      (pre ++ Markers.usual.start ++ x ++ Markers.usual.stop ++ post)).map Scored.fitness =
        some 9 := by
    decide +kernel
  obtain ⟨o, observed, hfitness⟩ := Option.map_eq_some_iff.1 hfound
  refine ⟨by decide, by decide, hnumber, o, observed, hfitness, ?_⟩
  rw [hfitness, hnumber]
  decide +kernel

end Mycelium.Program
