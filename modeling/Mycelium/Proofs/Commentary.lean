import Mycelium.Proofs.Adoption

/-!
# What reading passes over

A message may hold more than a program: commentary around it, line breaks in it, and clauses
without content.  `parse_ignores_commentary` says that none of this makes a difference.

* *Commentary.*  Neither marker overlaps itself, so the program is the text between them,
  whatever stands around them (`interior_around`).
* *Line breaks* are gone before anything is looked for in the program.  They may stand inside a
  key or a separator.
* *Hollow clauses* hold neither a separator nor a marker, so they are pieces of their own wherever
  they are put in, and are passed over (`Padded.clauses_join`).

What is left makes a rule system, or holds a clause that is malformed.  A rule that is made last
(`made`) may refuse its trigger.  No rule does (`made_eq`): a trigger is stripped when it is read, a
stripped text is blank only if it is empty, and a clause without a trigger is malformed.
-/

namespace Mycelium

namespace Text

/-- A text without its line breaks. -/
def oneLine (s : Text) : Text := s.filter fun c => c ≠ '\r' && c ≠ '\n'

variable {s : Text} {c : Char}

theorem mem_oneLine : c ∈ oneLine s ↔ c ∈ s ∧ c ≠ '\r' ∧ c ≠ '\n' := by
  simp [oneLine]

@[simp] theorem oneLine_oneLine (s : Text) : oneLine (oneLine s) = oneLine s := by
  simp [oneLine]

theorem oneLine_eq_self_of_subset {t : Text} (h : s ⊆ oneLine t) : oneLine s = s := by
  rw [oneLine, List.filter_eq_self]
  intro c hc
  simpa using (mem_oneLine.1 (h hc)).2

end Text

namespace Program

variable {pre x : Text}

/-! ## Commentary -/

/-- A text with an end marker still holds it without its line breaks. -/
theorem stop_infix_oneLine (h : Markers.usual.stop <:+: x) :
    Markers.usual.stop <:+: Text.oneLine x := by
  have hstop : Text.oneLine Markers.usual.stop = Markers.usual.stop := by decide
  rw [← hstop]
  exact h.filter _

theorem interior_around (unstarted : ¬ Markers.usual.start <:+: pre)
    (unstopped : ¬ Markers.usual.stop <:+: x) (post : Text) :
    interior .usual (pre ++ Markers.usual.start ++ x ++ Markers.usual.stop ++ post) =
      .ok (Text.oneLine x) := by
  have hstart : Text.cut Markers.usual.start
      (pre ++ Markers.usual.start ++ (x ++ Markers.usual.stop ++ post)) =
        some (pre, x ++ Markers.usual.stop ++ post) :=
    Text.cut_mark (by decide) unstarted _
  have hstop : Text.cut Markers.usual.stop (x ++ Markers.usual.stop ++ post) = some (x, post) :=
    Text.cut_mark (by decide) unstopped post
  rw [List.append_assoc _ x, List.append_assoc _ (x ++ _), interior, hstart]
  simp only [hstop]
  rfl

theorem parse_around (unstarted : ¬ Markers.usual.start <:+: pre)
    (unstopped : ¬ Markers.usual.stop <:+: x) (post : Text) :
    parse .usual (pre ++ Markers.usual.start ++ x ++ Markers.usual.stop ++ post) = (do
      let rules ← (clauses (Text.oneLine x)).mapM readClause
      return ⟨rules⟩) := by
  rw [parse, interior_around unstarted unstopped post]
  rfl

theorem parse_alone (unstopped : ¬ Markers.usual.stop <:+: x) :
    parse .usual (Markers.usual.start ++ x ++ Markers.usual.stop) = (do
      let rules ← (clauses (Text.oneLine x)).mapM readClause
      return ⟨rules⟩) := by
  have unstarted : ¬ Markers.usual.start <:+: [] := by decide
  have haround := parse_around unstarted unstopped []
  rwa [List.nil_append, List.append_nil] at haround

/-! ## Hollow clauses -/

/-- A clause that holds nothing but blanks and bars. -/
def IsHollow (p : Text) : Prop := ∀ c ∈ p, c = '|' ∨ Text.isBlank c = true

instance : DecidablePred IsHollow :=
  fun p => List.decidableBAll (fun c => c = '|' ∨ Text.isBlank c = true) p

theorem isVoid_iff {p : Text} : isVoid p = true ↔ IsHollow p := by
  simp only [isVoid, Text.isBlankText, List.all_eq_true, List.mem_filter, decide_eq_true_eq]
  constructor
  · intro h c hc
    by_cases hbar : c = '|'
    · exact .inl hbar
    · exact .inr (h c ⟨hc, hbar⟩)
  · intro h c hc
    exact (h c hc.1).resolve_left hc.2

/-- Clauses, and the same clauses with hollow ones put in before, between and behind them. -/
inductive Padded : List Text → List Text → Prop where
  | nil : Padded [] []
  | clause {ps qs : List Text} (p : Text) (rest : Padded ps qs) : Padded (p :: ps) (p :: qs)
  | hollow {ps qs : List Text} {p : Text} (hollow : IsHollow p) (rest : Padded ps qs) :
      Padded ps (p :: qs)

namespace Padded

variable {ps qs : List Text}

theorem mem (h : Padded ps qs) {q : Text} (hq : q ∈ qs) : q ∈ ps ∨ IsHollow q := by
  induction h with
  | nil => cases hq
  | clause p _ ih =>
      cases hq with
      | head => exact .inl List.mem_cons_self
      | tail _ hq => exact (ih hq).imp_left (List.mem_cons_of_mem p)
  | hollow hp _ ih =>
      cases hq with
      | head => exact .inr hp
      | tail _ hq => exact ih hq

theorem ne_nil (h : Padded ps qs) (hps : ps ≠ []) : qs ≠ [] := by
  cases h with
  | nil => exact hps
  | clause | hollow => exact List.cons_ne_nil _ _

/-- What is put in is passed over, with its line breaks and without them. -/
theorem filter_isVoid (h : Padded ps qs) (hps : ∀ p ∈ ps, Text.oneLine p = p) :
    ((qs.map Text.oneLine).map Text.strip).filter (fun p => !isVoid p) =
      (ps.map Text.strip).filter fun p => !isVoid p := by
  induction h with
  | nil => rfl
  | clause p _ ih =>
      have hp := hps p List.mem_cons_self
      have hrest := ih fun q hq => hps q (List.mem_cons_of_mem p hq)
      simp only [List.map_cons, List.filter_cons, hp, hrest]
  | @hollow _ _ p hp _ ih =>
      have hvoid : isVoid (Text.strip (Text.oneLine p)) = true := by
        rw [isVoid_iff]
        intro c hc
        have hline : c ∈ Text.oneLine p := (Text.trim_isInfix Text.isBlank _).subset hc
        exact hp c (Text.mem_oneLine.1 hline).1
      rw [← ih hps]
      simp [hvoid]

variable {body : Text}

theorem clauses_join (hbody : Text.oneLine body = body)
    (h : Padded (Text.pieces ruleSeparator body) qs) :
    clauses (Text.oneLine (Text.join ruleSeparator qs)) = clauses body := by
  have hsep : ruleSeparator ≠ [] := List.cons_ne_nil _ _
  have hlines : ∀ p ∈ Text.pieces ruleSeparator body, Text.oneLine p = p := by
    intro p hp
    have hsub := (Text.infix_of_mem_pieces hsep hp).subset
    rw [← hbody] at hsub
    exact Text.oneLine_eq_self_of_subset hsub
  -- no separator begins in what was put in, so that the parts that are joined are the pieces
  have hwhole : ∀ q ∈ qs.map Text.oneLine, ¬ ruleSeparator <:+: q ++ ruleSeparator.dropLast := by
    intro q hq
    obtain ⟨p, hp, rfl⟩ := List.mem_map.1 hq
    apply Text.not_infix_append_dropLast (by decide)
    cases h.mem hp with
    | inl hp =>
        rw [hlines p hp]
        exact Text.not_infix_of_mem_pieces hsep hp
    | inr hp =>
        intro hi
        have hr : 'R' ∈ Text.oneLine p := hi.subset (by decide)
        exact absurd (hp 'R' (Text.mem_oneLine.1 hr).1) (by decide)
  have hne : qs.map Text.oneLine ≠ [] := by
    have hpieces : Text.pieces ruleSeparator body ≠ [] := Text.piecesFrom_ne_nil _ _ _
    simpa using h.ne_nil hpieces
  have hjoin : Text.oneLine (Text.join ruleSeparator qs) =
      Text.join ruleSeparator (qs.map Text.oneLine) := Text.filter_join _ qs
  rw [clauses, hjoin, Text.pieces_join hsep hne hwhole, h.filter_isVoid hlines, clauses]

theorem not_stop_infix_join (unstopped : ¬ Markers.usual.stop <:+: body)
    (h : Padded (Text.pieces ruleSeparator body) qs) :
    ¬ Markers.usual.stop <:+: Text.join ruleSeparator qs := by
  intro hi
  obtain ⟨q, hq, hi⟩ := (Text.infix_join_iff (by decide) (by decide)).1 hi
  cases h.mem hq with
  | inl hp => exact unstopped (hi.trans (Text.infix_of_mem_pieces (List.cons_ne_nil _ _) hp))
  | inr hp => exact absurd (hp 'F' (hi.subset (by decide))) (by decide)

end Padded

/-! ## Rules that are made last -/

theorem isBlankText_readTrigger (s : Text) :
    Text.isBlankText (readTrigger s) = (readTrigger s).isEmpty := by
  rw [readTrigger]
  split
  · exact Text.isBlankText_strip _
  · exact Text.isBlankText_strip s

theorem madeOf_eq (clause : Text) : madeOf clause = (readClause clause).mapError .malformed := by
  have hblank := isBlankText_readTrigger ((Text.pieces ['|'] clause).headD [])
  simp only [madeOf, readClause, ← hblank]
  split
  · next hempty =>
      rw [dif_neg (by rw [hempty]; decide)]
      rfl
  · next hsome =>
      have hsome := Bool.eq_false_iff.2 hsome
      rw [dif_pos hsome]
      cases ((Text.pieces ['|'] clause).drop 1).foldl Parts.read {} with
      | mk response condition template =>
          cases response with
          | none => rfl
          | some response =>
              simp only [Rule.ofParts?]
              rw [dif_pos hsome]
              rfl

theorem mapM_mapError {α β ε ε' : Type} (f : α → Except ε β) (g : ε → ε') (xs : List α) :
    (xs.mapM fun x => (f x).mapError g) = (xs.mapM f).mapError g := by
  induction xs with
  | nil => rfl
  | cons x xs ih =>
      rw [List.mapM_cons, List.mapM_cons, ih]
      cases f x with
      | error e => rfl
      | ok y => cases xs.mapM f <;> rfl

/-- No rule refuses its trigger, whatever the text and the markers are. -/
theorem made_eq (m : Markers) (s : Text) : made m s = (parse m s).mapError .malformed := by
  rw [made, parse, funext madeOf_eq]
  cases interior m s with
  | error e => rfl
  | ok body =>
      have hrules := mapM_mapError readClause Refusal.malformed (clauses body)
      show ((clauses body).mapM _ >>= _) = Except.mapError _ ((clauses body).mapM _ >>= _)
      rw [hrules]
      cases (clauses body).mapM readClause <;> rfl

/-! ## What makes no difference -/

/-- A program is read as if there were no commentary around it, no line breaks in it and no hollow
clauses among its clauses.  Whatever the text is, the only way to fail is that it is malformed. -/
theorem parse_ignores_commentary (unstarted : ¬ Markers.usual.start <:+: pre)
    (unstopped : ¬ Markers.usual.stop <:+: Text.oneLine x) (post : Text) :
    parse .usual (pre ++ Markers.usual.start ++ x ++ Markers.usual.stop ++ post) =
        parse .usual (Markers.usual.start ++ Text.oneLine x ++ Markers.usual.stop) ∧
      (∀ qs, Padded (Text.pieces ruleSeparator (Text.oneLine x)) qs →
        parse .usual (pre ++ Markers.usual.start ++ Text.join ruleSeparator qs ++
            Markers.usual.stop ++ post) =
          parse .usual (Markers.usual.start ++ Text.oneLine x ++ Markers.usual.stop)) ∧
      ∀ m s, made m s = (parse m s).mapError .malformed := by
  have hline := Text.oneLine_oneLine x
  have halone := parse_alone unstopped
  rw [hline] at halone
  refine ⟨?_, fun qs padded => ?_, made_eq⟩
  · have hraw : ¬ Markers.usual.stop <:+: x := fun hi => unstopped (stop_infix_oneLine hi)
    rw [halone, parse_around unstarted hraw]
  · rw [halone, parse_around unstarted (padded.not_stop_infix_join unstopped),
      padded.clauses_join hline]

/-- A line break inside a key and one inside a separator, and hollow clauses everywhere. -/
theorem parse_ignores_commentary_post :
    let pre := "FUNGIEND? Look: ".toList
    let x := "RULE:a|RESP\nONSE:b|\r\nRULE:c|RESPONSE:d".toList
    let post := " Fitness: 1 FUNGISTART".toList
    let padded := " |RULE:RULE:a|RESPONSE:b|RULE:\n|RULE:c|RESPONSE:d|RULE:||".toList
    let system : RuleSystem :=
      ⟨[Publication.plainRule "a" "b" (by decide), Publication.plainRule "c" "d" (by decide)]⟩
    ¬ Markers.usual.start <:+: pre ∧ ¬ Markers.usual.stop <:+: Text.oneLine x ∧
      parse .usual (pre ++ Markers.usual.start ++ x ++ Markers.usual.stop ++ post) = .ok system ∧
      parse .usual (pre ++ Markers.usual.start ++ padded ++ Markers.usual.stop ++ post) =
        .ok system := by
  intro pre x post padded system
  have unstarted : ¬ Markers.usual.start <:+: pre := by decide
  have unstopped : ¬ Markers.usual.stop <:+: Text.oneLine x := by decide
  obtain ⟨hread, hpadded, -⟩ := parse_ignores_commentary unstarted unstopped post
  have halone : parse .usual (Markers.usual.start ++ Text.oneLine x ++ Markers.usual.stop) =
      .ok system := rfl
  have hollow : Padded (Text.pieces ruleSeparator (Text.oneLine x))
      [" |".toList, "RULE:a|RESPONSE:b".toList, "\n".toList, "c|RESPONSE:d".toList,
        "||".toList] :=
    .hollow (by decide) (.clause _ (.hollow (by decide) (.clause _ (.hollow (by decide) .nil))))
  exact ⟨unstarted, unstopped, hread.trans halone, (hpadded _ hollow).trans halone⟩

end Program

end Mycelium
