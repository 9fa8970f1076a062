import Mycelium.Proofs.Clauses

/-!
# Which rule systems survive being written and read

A program escapes nothing, so not every rule system can be read back from its own
program.  `RuleSystem.IsWireClean` says which ones can: those whose texts have no
blanks around them and hold neither a bar nor a line break nor the end marker, whose
templates keep to commas and equals signs, and of which no trigger but the first
starts with a label.  `parse_program_iff` says that these and no others are read
back.

*Sufficient.*  No marker and no separator arises across a joint
(`not_infix_body`, `pieces_body`), so the clauses are found as they were written.

*Necessary.*  Whatever is read has these properties but for the end marker and the
label.  What was read has no line breaks, so the program had none, so the text
between the markers was read as it stands, and it does not hold the end marker.
-/

namespace Mycelium

/-- A text that a program carries. -/
structure Text.IsCarried (t : Text) : Prop extends Text.IsPlain t where
  /-- There is no carriage return in it. -/
  no_return : '\r' ∉ t
  /-- There is no line feed in it. -/
  no_feed : '\n' ∉ t
  /-- There is no end marker in it. -/
  no_stop : ¬ Markers.usual.stop <:+: t

/-- A rule system that a program carries. -/
structure RuleSystem.IsWireClean (s : RuleSystem) : Prop where
  /-- Every text of a rule is carried. -/
  rules : ∀ r ∈ s.rules, r.Consists Text.IsCarried
  /-- Only the first trigger may start with a label. -/
  labels : ∀ r ∈ s.rules.tail, ¬ ruleLabel <+: r.trigger

variable {s : RuleSystem} {pat : Text}

/-! ## The body of a program -/

namespace RuleSystem

theorem body_cons (r : Rule) (rs : List Rule) :
    body ⟨r :: rs⟩ = ruleLabel ++ Text.join ruleSeparator ((r :: rs).map Rule.clause) := by
  have hne : (Text.join ruleSeparator ((r :: rs).map Rule.clause)).isEmpty = false := by
    have hr := r.clause_ne_nil
    cases rs <;> simp [Text.join, hr]
  simp only [body, hne]
  rfl

/-- The labelled clauses stand between bars. -/
theorem body_eq_join (s : RuleSystem) :
    s.body = Text.join ['|'] (s.rules.map fun r => ruleLabel ++ r.clause) := by
  obtain ⟨rules⟩ := s
  cases rules with
  | nil => rfl
  | cons r rs =>
      rw [body_cons]
      induction rs generalizing r with
      | nil => rfl
      | cons q qs ih =>
          simp only [List.map_cons, Text.join] at ih ⊢
          rw [← ih q]
          simp [ruleSeparator]

theorem not_infix_body (hf : pat.IsForeign) (hbar : '|' ∉ pat)
    (h : ∀ r ∈ s.rules, r.Consists (¬ pat <:+: ·)) : ¬ pat <:+: s.body := by
  rw [body_eq_join, Text.infix_join_char_iff hbar hf.ne_nil]
  rintro ⟨_, hm, hi⟩
  obtain ⟨r, hr, rfl⟩ := List.mem_map.1 hm
  exact Rule.not_infix_labelled hf (w := "RULE".toList) (by simp)
    (Rule.not_infix_clause hf hbar (h r hr)) hi

/-- The body stands between blanks. -/
theorem not_infix_blank_body (hf : pat.IsForeign) (hbar : '|' ∉ pat) (hblank : ' ' ∉ pat)
    (h : ∀ r ∈ s.rules, r.Consists (¬ pat <:+: ·)) : ¬ pat <:+: ' ' :: s.body := by
  have hsplit := Text.infix_append_cons_iff (a := []) (b := s.body) hblank hf.ne_nil
  rw [List.nil_append] at hsplit
  rw [hsplit, List.infix_nil]
  rintro (hi | hi)
  · exact hf.ne_nil hi
  · exact not_infix_body hf hbar h hi

/-- The clauses of the program of a system: only the first one has a label. -/
def clauses (s : RuleSystem) : List Text :=
  match s.rules with
  | [] => []
  | r :: rs => (ruleLabel ++ r.clause) :: rs.map Rule.clause

end RuleSystem

/-- No separator begins in a clause, and a bar behind it begins none but its own. -/
theorem Rule.Consists.separator_not_isInfix {r : Rule} (h : r.Consists Text.IsPlain) {t : Text}
    (ht : '|' ∉ t) : ¬ ruleSeparator <:+: t ++ r.clause ++ ruleSeparator.dropLast := by
  have hjoin : t ++ r.clause ++ ruleSeparator.dropLast =
      Text.join ['|'] ((t ++ r.trigger) :: r.details ++ ["RULE".toList]) := by
    rw [Rule.clause_eq, Text.append_join, Text.join_append_singleton (List.cons_ne_nil _ _),
      List.append_assoc]
    rfl
  have hbars : ∀ p ∈ (t ++ r.trigger) :: r.details ++ ["RULE".toList], '|' ∉ p := by
    intro p hp
    rw [List.cons_append, List.mem_cons, List.mem_append, List.mem_singleton] at hp
    rcases hp with rfl | hp | rfl
    · rw [List.mem_append, not_or]
      exact ⟨ht, h.trigger.no_bar⟩
    · exact h.bar_not_mem_details p hp
    · decide
  rw [hjoin]
  intro hi
  obtain ⟨p, hp, hpre⟩ := Text.exists_prefix_of_cons_infix_join (by decide) hbars hi
  rw [List.cons_append, List.tail_cons, List.mem_append, List.mem_singleton] at hp
  have hword : ∀ w ∈ ["RESPONSE:".toList, "CONDITION:".toList, "TEMPLATE:".toList],
      ¬ ruleLabel <+: w ∧ ruleLabel.length ≤ w.length := by decide
  have hlonger : ∀ w ∈ ["RESPONSE:".toList, "CONDITION:".toList, "TEMPLATE:".toList], ∀ x,
      ¬ ruleLabel <+: w ++ x := by
    intro w hw x hx
    obtain ⟨hno, hlen⟩ := hword w hw
    exact hno (List.prefix_of_prefix_length_le hx (List.prefix_append w x) hlen)
  rcases hp with hp | rfl
  · obtain rfl | ⟨c, -, rfl⟩ | rfl := Rule.mem_details hp
    · exact hlonger _ (by simp) _ hpre
    · exact hlonger _ (by simp) _ hpre
    · exact hlonger _ (by simp) _ hpre
  · exact absurd hpre (by decide)

theorem Rule.Consists.strip_clause {r : Rule} (h : r.Consists Text.IsPlain) :
    Text.strip r.clause = r.clause := by
  rw [Rule.clause_eq]
  refine Text.trim_join fun p hp => ?_
  rcases List.mem_cons.1 hp with rfl | hp
  · exact ⟨r.trigger_ne_nil, h.trigger.stripped⟩
  · have hlabelled : ∀ w ∈ ["RESPONSE:".toList, "CONDITION:".toList, "TEMPLATE:".toList], ∀ x,
        Text.strip x = x → w ++ x ≠ [] ∧ Text.strip (w ++ x) = w ++ x := by
      intro w hw x hx
      have hne : w ≠ [] := by
        rintro rfl
        exact absurd hw (by decide)
      have hstrip : Text.strip w = w := by
        revert w
        decide
      exact ⟨by simp [hne], Text.trim_append hne hstrip hx⟩
    obtain rfl | ⟨c, hc, rfl⟩ | rfl := Rule.mem_details hp
    · exact hlabelled _ (by simp) _ h.response.stripped
    · exact hlabelled _ (by simp) _ (h.condition c hc).1.stripped
    · exact hlabelled _ (by simp) _ h.strip_written

theorem Rule.Consists.isVoid_clause {r : Rule} (h : r.Consists Text.IsPlain) {t : Text} :
    Program.isVoid (t ++ r.clause) = false := by
  have hblank : ¬ ∀ c ∈ r.trigger, Text.isBlank c = true := by
    have := r.trigger_not_blank
    simpa [Text.isBlankText] using this
  simp only [not_forall] at hblank
  obtain ⟨c, hc, hb⟩ := hblank
  have hmem : c ∈ t ++ r.clause := List.mem_append_right t (r.trigger_prefix_clause.subset hc)
  have hbar : c ≠ '|' := by
    rintro rfl
    exact h.trigger.no_bar hc
  rw [Program.isVoid, Text.isBlankText, List.all_eq_false]
  exact ⟨c, List.mem_filter.2 ⟨hmem, by simpa using hbar⟩, hb⟩

namespace RuleSystem

/-- The pieces of a body between blanks are the clauses of the system. -/
theorem clauses_body (h : ∀ r ∈ s.rules, r.Consists Text.IsPlain) :
    Program.clauses (' ' :: s.body ++ [' ']) = s.clauses := by
  have hsep : ruleSeparator ≠ [] := by decide
  have hblank : ∀ d ∈ [' '], Text.isBlank d = true := List.forall_mem_singleton.2 rfl
  -- the blank at the end belongs to the last piece, whichever that is
  have hpieces : ∀ (rs : List Rule) (r : Rule) (t : Text),
      (∀ q ∈ r :: rs, q.Consists Text.IsPlain) → '|' ∉ t → (Text.pieces ruleSeparator
        (Text.join ruleSeparator ((t ++ r.clause) :: rs.map Rule.clause) ++ [' '])).map Text.strip =
        Text.strip (t ++ r.clause) :: rs.map Rule.clause := by
    intro rs
    induction rs with
    | nil =>
        intro r t hr ht
        have hi := (hr r List.mem_cons_self).separator_not_isInfix ht
        have hnone : ¬ ruleSeparator <:+: t ++ r.clause ++ [' '] := by
          rw [Text.infix_append_cons_iff (by decide) hsep]
          rintro (hj | hj)
          · exact hi (List.infix_append_of_infix_left hj)
          · exact hsep (List.infix_nil.1 hj)
        rw [List.map_nil, Text.join, Text.pieces_of_cut_eq_none (Text.cut_eq_none_iff.2 hnone)]
        simp only [List.map_cons, List.map_nil, Text.strip, Text.trim_append_right hblank]
    | cons q qs ih =>
        intro r t hr ht
        have hi := (hr r List.mem_cons_self).separator_not_isInfix ht
        have hq := hr q (List.mem_cons_of_mem r List.mem_cons_self)
        have hrest := ih q [] (fun p hp => hr p (List.mem_cons_of_mem r hp)) List.not_mem_nil
        rw [List.nil_append, hq.strip_clause] at hrest
        rw [List.map_cons, Text.join, List.append_assoc,
          Text.pieces_of_cut_eq_some hsep (Text.cut_append hsep hi _), List.map_cons, hrest]
  obtain ⟨rules⟩ := s
  cases rules with
  | nil => decide
  | cons r rs =>
      have hr := h r List.mem_cons_self
      have hstrip : Text.strip (' ' :: ruleLabel ++ r.clause) = ruleLabel ++ r.clause := by
        have hlabel : Text.strip (ruleLabel ++ r.clause) = ruleLabel ++ r.clause :=
          Text.trim_append (by decide) (by decide) hr.strip_clause
        exact (Text.trim_append_left (a := [' ']) hblank).trans hlabel
      have hvoid : ∀ p ∈ (ruleLabel ++ r.clause) :: rs.map Rule.clause,
          (!Program.isVoid p) = true := by
        intro p hp
        rw [Bool.not_eq_true']
        rcases List.mem_cons.1 hp with rfl | hp
        · exact hr.isVoid_clause
        · obtain ⟨q, hq, rfl⟩ := List.mem_map.1 hp
          exact (h q (List.mem_cons_of_mem r hq)).isVoid_clause (t := [])
      rw [Program.clauses, body_cons, List.map_cons, ← List.cons_append, Text.append_join,
        hpieces rs r (' ' :: ruleLabel) h (by decide), hstrip]
      exact List.filter_eq_self.2 hvoid

/-- The end marker behind a body is the first one, unless the body holds another. -/
theorem stop_not_isInfix (h : ¬ Markers.usual.stop <:+: ' ' :: s.body) :
    ¬ Markers.usual.stop <:+: ' ' :: s.body ++ [' '] ++ Markers.usual.stop.dropLast := by
  rw [List.append_assoc, List.singleton_append, Text.infix_append_cons_iff (by decide) (by decide)]
  rintro (hi | hi)
  · exact h hi
  · exact absurd hi (by decide)

end RuleSystem

/-! ## Reading a program -/

namespace Program

theorem mapM_eq_ok_iff {α β ε : Type} {f : α → Except ε β} {xs : List α} {ys : List β} :
    xs.mapM f = .ok ys ↔ List.Forall₂ (fun x y => f x = .ok y) xs ys := by
  induction xs generalizing ys with
  | nil =>
      rw [List.mapM_nil, List.forall₂_nil_left_iff]
      exact ⟨fun h => by cases h; rfl, fun h => by rw [h]; rfl⟩
  | cons x xs ih =>
      rw [List.mapM_cons, List.forall₂_cons_left_iff]
      constructor
      · intro h
        cases hx : f x with
        | error e => rw [hx] at h; cases h
        | ok y =>
            cases hxs : xs.mapM f with
            | error e => rw [hx, hxs] at h; cases h
            | ok zs =>
                rw [hx, hxs] at h
                cases h
                exact ⟨y, zs, rfl, ih.1 hxs, rfl⟩
      · rintro ⟨y, zs, hx, hxs, rfl⟩
        rw [hx, ih.2 hxs]
        rfl

theorem parse_eq_ok_iff {m : Markers} {x : Text} {t : RuleSystem} :
    parse m x = .ok t ↔ ∃ body, interior m x = .ok body ∧
      List.Forall₂ (fun c r => readClause c = .ok r) (clauses body) t.rules := by
  rw [parse]
  constructor
  · intro h
    cases hi : interior m x with
    | error e => rw [hi] at h; cases h
    | ok body =>
        cases hr : (clauses body).mapM readClause with
        | error e =>
            rw [hi] at h
            change (clauses body).mapM readClause >>= _ = _ at h
            rw [hr] at h
            cases h
        | ok rules =>
            rw [hi] at h
            change (clauses body).mapM readClause >>= _ = _ at h
            rw [hr] at h
            cases h
            exact ⟨body, rfl, mapM_eq_ok_iff.1 hr⟩
  · rintro ⟨body, hi, hr⟩
    rw [hi]
    change (clauses body).mapM readClause >>= _ = _
    rw [mapM_eq_ok_iff.2 hr]
    rfl

/-- What is between the markers was cut at the first end marker, and lost its line
breaks. -/
theorem exists_of_interior_eq_ok {m : Markers} (hm : m.stop ≠ []) {x body : Text}
    (h : interior m x = .ok body) : ∃ pre raw post, x = pre ++ m.start ++ (raw ++ m.stop ++ post) ∧
      ¬ m.stop <:+: raw ∧ body = raw.filter fun c => c ≠ '\r' && c ≠ '\n' := by
  rw [interior] at h
  split at h
  · cases h
  · next pre rest hstart =>
      split at h
      · cases h
      · next raw post hstop =>
          cases h
          exact ⟨pre, raw, post, by rw [← Text.cut_eq_some hstop, Text.cut_eq_some hstart],
            Text.not_infix_of_cut hm hstop, rfl⟩

theorem infix_of_mem_clauses {body c : Text} (h : c ∈ clauses body) : c <:+: body := by
  obtain ⟨p, hp, rfl⟩ := List.mem_map.1 (List.mem_filter.1 h).1
  exact (Text.trim_isInfix _ p).trans (Text.infix_of_mem_pieces (by decide) hp)

theorem exists_mem_of_forall₂ {α β : Type} {R : α → β → Prop} {xs : List α} {ys : List β} {y : β}
    (h : List.Forall₂ R xs ys) (hy : y ∈ ys) : ∃ x ∈ xs, R x y := by
  induction h with
  | nil => cases hy
  | cons hxy _ ih =>
      rcases List.mem_cons.1 hy with rfl | hy
      · exact ⟨_, List.mem_cons_self, hxy⟩
      · obtain ⟨x, hx, hR⟩ := ih hy
        exact ⟨x, List.mem_cons_of_mem _ hx, hR⟩

theorem forall₂_comp {α β γ : Type} {R : α → β → Prop} {S : β → γ → Prop} {xs : List α}
    {ys : List β} {zs : List γ} (h : List.Forall₂ R xs ys) (h' : List.Forall₂ S ys zs) :
    List.Forall₂ (fun x z => ∃ y, R x y ∧ S y z) xs zs := by
  induction h generalizing zs with
  | nil => cases h'; exact .nil
  | cons hxy _ ih =>
      cases h' with
      | cons hyz h' => exact .cons ⟨_, hxy, hyz⟩ (ih h')

/-- The rules that were read consist of texts that stand between the markers. -/
theorem consists_of_parse {m : Markers} {x body : Text} {t : RuleSystem}
    (hi : interior m x = .ok body) (h : parse m x = .ok t) :
    ∀ r ∈ t.rules, r.Consists (Text.IsPartOf body) := by
  intro r hr
  obtain ⟨body', hi', hread⟩ := parse_eq_ok_iff.1 h
  cases hi.symm.trans hi'
  obtain ⟨c, hc, hrc⟩ := exists_mem_of_forall₂ hread hr
  exact (consists_of_readClause hrc).mono fun p hp =>
    ⟨hp.toIsPlain, hp.stands.trans (infix_of_mem_clauses hc)⟩

/-- The body of a program without end markers and line breaks is found. -/
theorem interior_program (hstop : ¬ Markers.usual.stop <:+: ' ' :: s.body) (hr : '\r' ∉ s.body)
    (hn : '\n' ∉ s.body) : interior .usual s.program = .ok (' ' :: s.body ++ [' ']) := by
  have hstart : Text.cut Markers.usual.start s.program =
      some ([], ' ' :: s.body ++ [' '] ++ Markers.usual.stop) := by
    have hprogram : s.program =
        [] ++ Markers.usual.start ++ (' ' :: s.body ++ [' '] ++ Markers.usual.stop) := by
      simp only [RuleSystem.program, List.nil_append, List.cons_append, List.append_assoc]
    rw [hprogram]
    exact Text.cut_append (by decide) (by decide) _
  have hend : Text.cut Markers.usual.stop (' ' :: s.body ++ [' '] ++ Markers.usual.stop) =
      some (' ' :: s.body ++ [' '], []) := by
    have hcut := Text.cut_append (by decide) (RuleSystem.stop_not_isInfix hstop) []
    rwa [List.append_nil] at hcut
  have hfilter : (' ' :: s.body ++ [' ']).filter (fun c => c ≠ '\r' && c ≠ '\n') =
      ' ' :: s.body ++ [' '] := by
    rw [List.filter_eq_self]
    intro c hc
    rw [List.cons_append, List.mem_cons, List.mem_append, List.mem_singleton] at hc
    rcases hc with rfl | hc | rfl
    · decide
    · have h1 : c ≠ '\r' := fun h => hr (h ▸ hc)
      have h2 : c ≠ '\n' := fun h => hn (h ▸ hc)
      simp [h1, h2]
    · decide
  rw [interior, hstart]
  simp only [hend, hfilter]

end Program

/-! ## Round trips -/

theorem Text.isForeign_return : Text.IsForeign ['\r'] where
  ne_nil := List.cons_ne_nil _ _
  marks := by simp
  words := by simp only [List.singleton_infix_iff]; decide

theorem Text.isForeign_feed : Text.IsForeign ['\n'] where
  ne_nil := List.cons_ne_nil _ _
  marks := by simp
  words := by simp only [List.singleton_infix_iff]; decide

theorem Text.isForeign_stop : Text.IsForeign Markers.usual.stop where
  ne_nil := by decide
  marks := by
    rw [List.forall_mem_cons, List.forall_mem_cons, List.forall_mem_singleton]
    decide
  words := by decide

namespace RuleSystem

theorem not_mem_body {c : Char} (hf : Text.IsForeign [c]) (hbar : c ≠ '|')
    (h : ∀ r ∈ s.rules, r.Consists (c ∉ ·)) : c ∉ s.body := by
  rw [← List.singleton_infix_iff]
  refine not_infix_body hf (by simpa using hbar.symm) fun r hr => (h r hr).mono fun t ht => ?_
  rwa [List.singleton_infix_iff]

/-- The interior of the program of carried texts is its body. -/
theorem interior_program_of_carried (h : ∀ r ∈ s.rules, r.Consists Text.IsCarried) :
    Program.interior .usual s.program = .ok (' ' :: s.body ++ [' ']) := by
  refine Program.interior_program ?_ ?_ ?_
  · exact not_infix_blank_body Text.isForeign_stop (by decide) (by decide)
      fun r hr => (h r hr).mono fun t ht => ht.no_stop
  · exact not_mem_body Text.isForeign_return (by decide)
      fun r hr => (h r hr).mono fun t ht => ht.no_return
  · exact not_mem_body Text.isForeign_feed (by decide)
      fun r hr => (h r hr).mono fun t ht => ht.no_feed

theorem plain_of_carried (h : ∀ r ∈ s.rules, r.Consists Text.IsCarried) :
    ∀ r ∈ s.rules, r.Consists Text.IsPlain :=
  fun r hr => (h r hr).mono fun _ ht => ht.toIsPlain

/-- A wire-clean system is read back rule by rule. -/
theorem IsWireClean.parse_program (h : s.IsWireClean) : Program.parse .usual s.program = .ok s := by
  refine Program.parse_eq_ok_iff.2 ⟨_, interior_program_of_carried h.rules, ?_⟩
  have hplain := plain_of_carried h.rules
  rw [clauses_body hplain]
  have hlabels := h.labels
  obtain ⟨rules⟩ := s
  cases rules with
  | nil => exact .nil
  | cons r rs =>
      refine .cons (Program.readClause_label_clause (hplain r List.mem_cons_self)) ?_
      rw [List.forall₂_map_left_iff, List.forall₂_same]
      intro q hq
      exact Program.readClause_clause (hplain q (List.mem_cons_of_mem r hq)) (hlabels q hq)

/-- What is read back from a program has texts that are carried. -/
theorem carried_of_parse_program {t : RuleSystem} (h : Program.parse .usual s.program = .ok t)
    (hs : (t == s) = true) : ∀ r ∈ s.rules, r.Consists Text.IsCarried := by
  obtain ⟨body, hi, -⟩ := Program.parse_eq_ok_iff.1 h
  obtain ⟨pre, raw, post, hx, hstop, hbody⟩ := Program.exists_of_interior_eq_ok (by decide) hi
  have hpart : ∀ r ∈ s.rules, r.Consists (Text.IsPartOf body) := by
    intro r hr
    obtain ⟨q, hq, hqr⟩ := Program.exists_mem_of_forall₂ (RuleSystem.same_iff.1 hs) hr
    exact (Program.consists_of_parse hi h q hq).of_same hqr
  have hbreak : ∀ c ∈ ['\r', '\n'], c ∉ body := by
    intro c hc
    rw [hbody]
    revert c
    simp
  -- the system has no line breaks, for it was read, so its program has none
  have hprogram : ∀ c ∈ ['\r', '\n'], c ∉ s.program := by
    intro c hc
    have hforeign : Text.IsForeign [c] := by
      rw [List.mem_pair] at hc
      rcases hc with rfl | rfl
      · exact Text.isForeign_return
      · exact Text.isForeign_feed
    have houter : c ∉ Markers.usual.start ∧ c ≠ ' ' ∧ c ∉ Markers.usual.stop ∧ c ≠ '|' := by
      rcases List.mem_pair.1 hc with rfl | rfl <;> decide
    have hinner : c ∉ s.body := not_mem_body hforeign houter.2.2.2
      fun r hr => (hpart r hr).mono fun t ht hm => hbreak c hc (ht.stands.subset hm)
    simp only [program, List.mem_append, List.mem_singleton, not_or]
    exact ⟨⟨⟨⟨houter.1, houter.2.1⟩, hinner⟩, houter.2.1⟩, houter.2.2.1⟩
  have hraw : body = raw := by
    rw [hbody, List.filter_eq_self]
    intro c hc
    have hmem : c ∈ s.program := by
      rw [hx]
      simp [hc]
    have h1 : c ≠ '\r' := fun h => hprogram c (by simp [h]) hmem
    have h2 : c ≠ '\n' := fun h => hprogram c (by simp [h]) hmem
    simp [h1, h2]
  intro r hr
  refine (hpart r hr).mono fun t ht => ⟨ht.toIsPlain, ?_, ?_, ?_⟩
  · exact fun hm => hbreak '\r' (by simp) (ht.stands.subset hm)
  · exact fun hm => hbreak '\n' (by simp) (ht.stands.subset hm)
  · exact fun hm => hstop (hraw ▸ hm.trans ht.stands)

/-- A label in front of a later trigger is lost. -/
theorem label_of_parse_program {t : RuleSystem} (h : Program.parse .usual s.program = .ok t)
    (hs : (t == s) = true) : ∀ r ∈ s.rules.tail, ¬ ruleLabel <+: r.trigger := by
  have hcarried := carried_of_parse_program h hs
  have hplain := plain_of_carried hcarried
  obtain ⟨body, hi, hread⟩ := Program.parse_eq_ok_iff.1 h
  cases (interior_program_of_carried hcarried).symm.trans hi
  rw [clauses_body hplain] at hread
  have hsame := RuleSystem.same_iff.1 hs
  obtain ⟨rules⟩ := s
  cases rules with
  | nil => simp
  | cons r rs =>
      obtain ⟨_, qs, -, hqs, hq⟩ := List.forall₂_cons_left_iff.1 hread
      rw [hq] at hsame
      cases hsame with
      | cons _ hsame =>
          have haligned := Program.forall₂_comp (List.forall₂_map_left_iff.1 hqs) hsame
          intro r' hr' hl
          obtain ⟨q, hread, hqr⟩ := List.forall₂_same.1 haligned r' hr'
          refine Program.trigger_ne_of_readClause_clause ?_ hl hread (Rule.same_iff.1 hqr).1
          exact hplain r' (List.mem_cons_of_mem r hr')

theorem isWireClean_of_parse_program {t : RuleSystem}
    (h : Program.parse .usual s.program = .ok t) (hs : (t == s) = true) : s.IsWireClean :=
  ⟨carried_of_parse_program h hs, label_of_parse_program h hs⟩

/-- Exactly the wire-clean systems are read back from their programs. -/
theorem parse_program_iff (s : RuleSystem) :
    (∃ t, Program.parse .usual s.program = .ok t ∧ (t == s) = true) ↔ s.IsWireClean := by
  constructor
  · rintro ⟨t, h, hs⟩
    exact ⟨carried_of_parse_program h hs, label_of_parse_program h hs⟩
  · intro h
    exact ⟨s, h.parse_program, s.same_refl⟩

end RuleSystem

end Mycelium
