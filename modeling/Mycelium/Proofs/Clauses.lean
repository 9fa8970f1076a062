import Mycelium.Program.Parser
import Mycelium.Proofs.Cutting
import Mycelium.Proofs.Templates

/-!
# Clauses written and read

*Reading.*  The texts of a rule that was read from a clause are parts of the clause
without bars and without blanks around them, its condition is not empty, and its
template keeps to the commas and equals signs (`consists_of_readClause`).

*Writing.*  A clause of such texts is taken to the parts that it was made of, and
every part is read back (`readClause_of_parts`).  Only a label in front of the
trigger is lost.
-/

namespace Mycelium

/-! ## What a rule consists of -/

/-- Every text of a rule is of some kind.  The condition is not empty, and the names
and values of the template are told apart by commas and equals signs. -/
structure Rule.Consists (kind : Text → Prop) (r : Rule) : Prop where
  trigger : kind r.trigger
  response : kind r.response
  condition : ∀ c, r.condition = some c → kind c ∧ c ≠ []
  name : ∀ e ∈ r.template.entries, kind e.1 ∧ e.1 ≠ [] ∧ '=' ∉ e.1 ∧ ',' ∉ e.1
  value : ∀ e ∈ r.template.entries, kind e.2 ∧ ',' ∉ e.2

namespace Rule.Consists

variable {kind other : Text → Prop} {r s : Rule}

theorem mono (h : ∀ t, kind t → other t) (hr : r.Consists kind) : r.Consists other where
  trigger := h _ hr.trigger
  response := h _ hr.response
  condition c hc := ⟨h _ (hr.condition c hc).1, (hr.condition c hc).2⟩
  name e he := ⟨h _ (hr.name e he).1, (hr.name e he).2⟩
  value e he := ⟨h _ (hr.value e he).1, (hr.value e he).2⟩

theorem and (h : r.Consists kind) (h' : r.Consists other) :
    r.Consists fun t => kind t ∧ other t where
  trigger := ⟨h.trigger, h'.trigger⟩
  response := ⟨h.response, h'.response⟩
  condition c hc := ⟨⟨(h.condition c hc).1, (h'.condition c hc).1⟩, (h.condition c hc).2⟩
  name e he := ⟨⟨(h.name e he).1, (h'.name e he).1⟩, (h.name e he).2⟩
  value e he := ⟨⟨(h.value e he).1, (h'.value e he).1⟩, (h.value e he).2⟩

/-- Rules that are the same consist of the same texts. -/
theorem of_same (h : (r == s) = true) (hr : r.Consists kind) : s.Consists kind := by
  obtain ⟨ht, hresp, hc, hp⟩ := Rule.same_iff.1 h
  exact {
    trigger := ht ▸ hr.trigger
    response := hresp ▸ hr.response
    condition := fun c hs => hr.condition c (hc.trans hs)
    name := fun e he => hr.name e (hp.mem_iff.2 he)
    value := fun e he => hr.value e (hp.mem_iff.2 he) }

end Rule.Consists

/-- A text without bars and without blanks around it. -/
structure Text.IsPlain (t : Text) : Prop where
  /-- There are no blanks around it. -/
  stripped : Text.strip t = t
  /-- There is no bar in it. -/
  no_bar : '|' ∉ t

/-- A text without blanks around it that stands in another one, where no bar stands. -/
structure Text.IsPartOf (source t : Text) : Prop extends Text.IsPlain t where
  /-- It stands in the source. -/
  stands : t <:+: source

namespace Program

/-! ## Reading -/

theorem isPartOf_strip {source p t : Text} (hp : p <:+: source) (hbar : '|' ∉ p) (ht : t <:+: p) :
    Text.IsPartOf source (Text.strip t) where
  stripped := Text.trim_trim _ t
  no_bar h := hbar (((Text.trim_isInfix _ t).trans ht).subset h)
  stands := ((Text.trim_isInfix _ t).trans ht).trans hp

theorem isPartOf_readTrigger {source p : Text} (hp : p <:+: source) (hbar : '|' ∉ p) :
    Text.IsPartOf source (readTrigger p) := by
  rw [readTrigger]
  split
  · refine isPartOf_strip hp hbar ?_
    exact (List.drop_suffix _ _).isInfix.trans (Text.trim_isInfix _ p)
  · exact isPartOf_strip hp hbar List.infix_rfl

/-- An entry of a template that was read stands between two commas, and is cut at the
first equals sign. -/
theorem mem_readTemplate {s : Text} {e : Text × Text} (h : e ∈ (readTemplate s).entries) :
    ∃ piece ∈ Text.pieces [','] s, ∃ name value, Text.cut ['='] piece = some (name, value) ∧
      e = (Text.strip name, Text.strip value) ∧ Text.strip name ≠ [] := by
  have hstep : ∀ (ps : List Text) (t : Template), e ∈ (ps.foldl readEntry t).entries →
      e ∈ t.entries ∨ ∃ piece ∈ ps, ∃ name value, Text.cut ['='] piece = some (name, value) ∧
        e = (Text.strip name, Text.strip value) ∧ Text.strip name ≠ [] := by
    intro ps
    induction ps with
    | nil => exact fun t ht => .inl ht
    | cons p ps ih =>
        intro t ht
        obtain ht | ⟨piece, hm, hx⟩ := ih _ ht
        · rw [readEntry] at ht
          split at ht
          · exact .inl ht
          · next name value hcut =>
              dsimp only at ht
              split at ht
              · exact .inl ht
              · next hne =>
                  rcases Entries.mem_of_mem_put ht with rfl | ht
                  · exact .inr ⟨p, List.mem_cons_self, name, value, hcut, rfl, by simpa using hne⟩
                  · exact .inl ht
        · exact .inr ⟨piece, List.mem_cons_of_mem p hm, hx⟩
  rcases hstep _ _ h with h | h
  · exact absurd h List.not_mem_nil
  · exact h

/-- What the parts of a clause have said so far consists of texts of some kind. -/
structure Parts.Consist (kind : Text → Prop) (p : Parts) : Prop where
  response : ∀ x, p.response = some x → kind x
  condition : ∀ c, p.condition = some c → kind c
  name : ∀ e ∈ p.template.entries, kind e.1 ∧ e.1 ≠ [] ∧ '=' ∉ e.1 ∧ ',' ∉ e.1
  value : ∀ e ∈ p.template.entries, kind e.2 ∧ ',' ∉ e.2

/-- A part without bars adds texts that stand in the source if it does. -/
theorem Parts.Consist.read {source part : Text} {p : Parts} (h : p.Consist (Text.IsPartOf source))
    (hpart : part <:+: source) (hbar : '|' ∉ part) :
    (p.read part).Consist (Text.IsPartOf source) := by
  rw [Parts.read]
  split
  · exact h
  · next key value hcut =>
      have hvalue : value <:+: part := by
        rw [Text.cut_eq_some hcut]
        exact List.infix_append_right
      have hpartOf := isPartOf_strip hpart hbar hvalue
      dsimp only
      split
      · exact { h with response := fun x hx => by cases hx; exact hpartOf }
      · split
        · exact { h with condition := fun c hc => by cases hc; exact hpartOf }
        · split
          · have hentry : ∀ e ∈ (readTemplate (Text.strip value)).entries,
                (Text.IsPartOf source e.1 ∧ e.1 ≠ [] ∧ '=' ∉ e.1 ∧ ',' ∉ e.1) ∧
                  Text.IsPartOf source e.2 ∧ ',' ∉ e.2 := by
              intro e he
              obtain ⟨piece, hm, name, val, hc, rfl, hne⟩ := mem_readTemplate he
              have hpiece : piece <:+: part :=
                (Text.infix_of_mem_pieces (List.cons_ne_nil _ _) hm).trans
                  ((Text.trim_isInfix _ _).trans hvalue)
              have hcomma := Text.not_mem_of_mem_pieces_char hm
              have heq := Text.not_mem_of_cut_char hc
              have hn : name <:+: piece := by
                rw [Text.cut_eq_some hc, List.append_assoc]
                exact List.infix_append_left
              have hv : val <:+: piece := by
                rw [Text.cut_eq_some hc]
                exact List.infix_append_right
              have hsn : Text.strip name <:+: name := Text.trim_isInfix _ _
              have hsv : Text.strip val <:+: val := Text.trim_isInfix _ _
              exact ⟨⟨isPartOf_strip hpart hbar (hn.trans hpiece), hne,
                  fun hm => heq (hsn.subset hm), fun hm => hcomma ((hsn.trans hn).subset hm)⟩,
                isPartOf_strip hpart hbar (hv.trans hpiece),
                fun hm => hcomma ((hsv.trans hv).subset hm)⟩
            exact { h with
              name := fun e he => (hentry e he).1
              value := fun e he => (hentry e he).2 }
          · exact h

/-- A rule that was read consists of texts that stand in its clause. -/
theorem consists_of_readClause {clause : Text} {r : Rule} (h : readClause clause = .ok r) :
    r.Consists (Text.IsPartOf clause) := by
  have hstands : ∀ p ∈ Text.pieces ['|'] clause, p <:+: clause := fun p =>
    Text.infix_of_mem_pieces (List.cons_ne_nil _ _)
  have hbar : ∀ p ∈ Text.pieces ['|'] clause, '|' ∉ p := fun p => Text.not_mem_of_mem_pieces_char
  rw [readClause] at h
  obtain ⟨first, rest, hparts⟩ := List.exists_cons_of_ne_nil
    (show Text.pieces ['|'] clause ≠ [] from Text.piecesFrom_ne_nil _ _ _)
  simp only [hparts, List.headD_cons, List.drop_one, List.tail_cons] at h hstands hbar
  split at h
  · have hread : ∀ (ps : List Text) (p : Parts), ps ⊆ rest →
        p.Consist (Text.IsPartOf clause) →
          (ps.foldl Parts.read p).Consist (Text.IsPartOf clause) := by
      intro ps
      induction ps with
      | nil => exact fun p _ hp => hp
      | cons part ps ih =>
          intro p hps hp
          have hm : part ∈ first :: rest := List.mem_cons_of_mem first (hps List.mem_cons_self)
          exact ih _ (fun x hx => hps (List.mem_cons_of_mem part hx))
            (hp.read (hstands part hm) (hbar part hm))
    have hnone : ({} : Parts).Consist (Text.IsPartOf clause) := by
      constructor <;> simp [Template.empty]
    have hp := hread rest {} (fun x hx => hx) hnone
    split at h
    · cases h
    · next response hresponse =>
        cases h
        exact {
          trigger := isPartOf_readTrigger (hstands first List.mem_cons_self)
            (hbar first List.mem_cons_self)
          response := hp.response response hresponse
          condition := by
            intro c hc
            obtain ⟨hc, hne⟩ := Option.filter_eq_some_iff.1 hc
            exact ⟨hp.condition c hc, by simpa using hne⟩
          name := hp.name
          value := hp.value }
  · cases h

end Program

/-! ## The parts of a clause -/

/-- The parts of the clause of a rule that follow its trigger. -/
def Rule.details (r : Rule) : List Text :=
  ["RESPONSE:".toList ++ r.response] ++
    (match r.condition with
      | some c => if c.isEmpty then [] else ["CONDITION:".toList ++ c]
      | none => []) ++
    if r.template.entries.isEmpty then [] else ["TEMPLATE:".toList ++ r.template.written]

namespace Rule

theorem clause_eq (r : Rule) : r.clause = Text.join ['|'] (r.trigger :: r.details) := by
  rw [clause, details]
  rfl

theorem trigger_prefix_clause (r : Rule) : r.trigger <+: r.clause := by
  rw [clause_eq]
  exact Text.prefix_join _ _

theorem clause_ne_nil (r : Rule) : r.clause ≠ [] :=
  fun h => r.trigger_ne_nil (List.prefix_nil.1 (h ▸ r.trigger_prefix_clause))

theorem mem_details {r : Rule} {p : Text} (h : p ∈ r.details) :
    p = "RESPONSE:".toList ++ r.response ∨
      (∃ c, r.condition = some c ∧ p = "CONDITION:".toList ++ c) ∨
      p = "TEMPLATE:".toList ++ r.template.written := by
  simp only [details, List.mem_append, List.mem_singleton] at h
  rcases h with (h | h) | h
  · exact .inl h
  · cases hc : r.condition with
    | none => simp [hc] at h
    | some c =>
        by_cases hn : c.isEmpty
        · simp [hc, hn] at h
        · simp only [hc, hn] at h
          exact .inr (.inl ⟨c, rfl, by simpa using h⟩)
  · by_cases hn : r.template.entries.isEmpty
    · simp [hn] at h
    · exact .inr (.inr (by simpa [hn] using h))

end Rule

/-! ## What does not arise in writing -/

/-- A pattern that nothing between the texts of a clause is a part of. -/
structure Text.IsForeign (pat : Text) : Prop where
  ne_nil : pat ≠ []
  marks : ∀ c ∈ [':', '=', ','], c ∉ pat
  words : ∀ w ∈ ["RULE".toList, "RESPONSE".toList, "CONDITION".toList, "TEMPLATE".toList],
    ¬ pat <:+: w

variable {pat : Text}

theorem Template.not_infix_written {t : Template} (hf : pat.IsForeign)
    (h : ∀ e ∈ t.entries, ¬ pat <:+: e.1 ∧ ¬ pat <:+: e.2) : ¬ pat <:+: t.written := by
  rw [written, Text.infix_join_char_iff (hf.marks ',' (by simp)) hf.ne_nil]
  rintro ⟨_, hm, hi⟩
  obtain ⟨e, he, rfl⟩ := List.mem_map.1 hm
  rw [List.append_assoc, List.singleton_append,
    Text.infix_append_cons_iff (hf.marks '=' (by simp)) hf.ne_nil] at hi
  rcases hi with hi | hi
  · exact (h e he).1 hi
  · exact (h e he).2 hi

namespace Rule

variable {r : Rule}

/-- A text behind a word and a colon. -/
theorem not_infix_labelled (hf : pat.IsForeign) {w t : Text}
    (hw : w ∈ ["RULE".toList, "RESPONSE".toList, "CONDITION".toList, "TEMPLATE".toList])
    (ht : ¬ pat <:+: t) : ¬ pat <:+: w ++ ':' :: t := by
  rw [Text.infix_append_cons_iff (hf.marks ':' (by simp)) hf.ne_nil]
  rintro (hi | hi)
  · exact hf.words w hw hi
  · exact ht hi

theorem not_infix_details (hf : pat.IsForeign) (h : r.Consists (¬ pat <:+: ·)) :
    ∀ p ∈ r.details, ¬ pat <:+: p := by
  intro p hp
  obtain rfl | ⟨c, hc, rfl⟩ | rfl := mem_details hp
  · exact not_infix_labelled hf (w := "RESPONSE".toList) (by simp) h.response
  · exact not_infix_labelled hf (w := "CONDITION".toList) (by simp) (h.condition c hc).1
  · refine not_infix_labelled hf (w := "TEMPLATE".toList) (by simp) ?_
    exact Template.not_infix_written hf fun e he => ⟨(h.name e he).1, (h.value e he).1⟩

theorem not_infix_clause (hf : pat.IsForeign) (hbar : '|' ∉ pat)
    (h : r.Consists (¬ pat <:+: ·)) : ¬ pat <:+: r.clause := by
  rw [clause_eq, Text.infix_join_char_iff hbar hf.ne_nil]
  rintro ⟨p, hp, hi⟩
  rcases List.mem_cons.1 hp with rfl | hp
  · exact h.trigger hi
  · exact not_infix_details hf h p hp hi

end Rule

/-! ## What was written is read -/

theorem Text.isForeign_bar : Text.IsForeign ['|'] where
  ne_nil := List.cons_ne_nil _ _
  marks := by simp
  words := by simp only [List.singleton_infix_iff]; decide

namespace Program

theorem read_response (p : Parts) (t : Text) :
    p.read ("RESPONSE:".toList ++ t) = { p with response := some (Text.strip t) } := by
  have hcut : Text.cut [':'] ("RESPONSE:".toList ++ t) = some ("RESPONSE".toList, t) :=
    Text.cut_char (a := "RESPONSE".toList) (by decide) t
  have hkey : Text.strip "RESPONSE".toList = "RESPONSE".toList := by decide
  rw [Parts.read, hcut]
  simp only [hkey, if_true]

theorem read_condition (p : Parts) (t : Text) :
    p.read ("CONDITION:".toList ++ t) = { p with condition := some (Text.strip t) } := by
  have hcut : Text.cut [':'] ("CONDITION:".toList ++ t) = some ("CONDITION".toList, t) :=
    Text.cut_char (a := "CONDITION".toList) (by decide) t
  have hkey : Text.strip "CONDITION".toList = "CONDITION".toList := by decide
  have hne : "CONDITION".toList ≠ "RESPONSE".toList := by decide
  rw [Parts.read, hcut]
  simp only [hkey, if_neg hne, if_true]

theorem read_template (p : Parts) (t : Text) :
    p.read ("TEMPLATE:".toList ++ t) = { p with template := readTemplate (Text.strip t) } := by
  have hcut : Text.cut [':'] ("TEMPLATE:".toList ++ t) = some ("TEMPLATE".toList, t) :=
    Text.cut_char (a := "TEMPLATE".toList) (by decide) t
  have hkey : Text.strip "TEMPLATE".toList = "TEMPLATE".toList := by decide
  have hne : "TEMPLATE".toList ≠ "RESPONSE".toList := by decide
  have hne' : "TEMPLATE".toList ≠ "CONDITION".toList := by decide
  rw [Parts.read, hcut]
  simp only [hkey, if_neg hne, if_neg hne', if_true]

end Program

namespace Rule.Consists

variable {r : Rule}

theorem strip_entry (h : r.Consists Text.IsPlain) {e : Text × Text}
    (he : e ∈ r.template.entries) : Text.strip (e.1 ++ ['='] ++ e.2) = e.1 ++ ['='] ++ e.2 := by
  have hname : Text.strip (e.1 ++ ['=']) = e.1 ++ ['='] :=
    Text.trim_append (h.name e he).2.1 (h.name e he).1.stripped (by decide)
  exact Text.trim_append (by simp) hname (h.value e he).1.stripped

theorem strip_written (h : r.Consists Text.IsPlain) :
    Text.strip r.template.written = r.template.written := by
  refine Text.trim_join fun t ht => ?_
  obtain ⟨e, he, rfl⟩ := List.mem_map.1 ht
  exact ⟨by simp, h.strip_entry he⟩

theorem readTemplate_written (h : r.Consists Text.IsPlain) :
    Program.readTemplate r.template.written = r.template := by
  by_cases hempty : r.template.entries = []
  · have hw : r.template.written = [] := by simp [Template.written, hempty, Text.join]
    rw [hw]
    exact Template.eq_of_entries_eq hempty.symm
  · have hcomma : ∀ t ∈ r.template.entries.map fun e => e.1 ++ ['='] ++ e.2, ',' ∉ t := by
      intro t ht
      obtain ⟨e, he, rfl⟩ := List.mem_map.1 ht
      simp [(h.name e he).2.2.2, (h.value e he).2]
    have hentry : ∀ (t : Template), ∀ e ∈ r.template.entries,
        Program.readEntry t (e.1 ++ ['='] ++ e.2) = t.put e.1 e.2 := by
      intro t e he
      have hcut : Text.cut ['='] (e.1 ++ ['='] ++ e.2) = some (e.1, e.2) := by
        simpa using Text.cut_char (h.name e he).2.2.1 e.2
      have hne : e.1.isEmpty = false := by simpa using (h.name e he).2.1
      rw [Program.readEntry, hcut]
      simp [(h.name e he).1.stripped, (h.value e he).1.stripped, hne]
    rw [Program.readTemplate, Template.written,
      Text.pieces_join_char (by simpa using hempty) hcomma, List.foldl_map,
      List.foldl_ext _ _ _ hentry]
    exact Template.ofList_entries r.template

theorem bar_not_mem_details (h : r.Consists Text.IsPlain) : ∀ p ∈ r.details, '|' ∉ p := by
  have hbar : r.Consists (¬ ['|'] <:+: ·) := h.mono fun t ht => by
    rw [List.singleton_infix_iff]
    exact ht.no_bar
  intro p hp
  have hd := not_infix_details Text.isForeign_bar hbar p hp
  rwa [List.singleton_infix_iff] at hd

theorem pieces_join_details (h : r.Consists Text.IsPlain) {t : Text} (ht : '|' ∉ t) :
    Text.pieces ['|'] (Text.join ['|'] (t :: r.details)) = t :: r.details := by
  refine Text.pieces_join_char (List.cons_ne_nil _ _) fun p hp => ?_
  rcases List.mem_cons.1 hp with rfl | hp
  · exact ht
  · exact h.bar_not_mem_details p hp

/-- The parts of a clause say what the rule says. -/
theorem foldl_read_details (h : r.Consists Text.IsPlain) :
    r.details.foldl Program.Parts.read {} = ⟨some r.response, r.condition, r.template⟩ := by
  rw [details, List.foldl_append, List.foldl_append, List.foldl_cons, List.foldl_nil,
    Program.read_response, h.response.stripped]
  have hcondition : ∀ p : Program.Parts, p.condition = none →
      (match r.condition with
        | some c => if c.isEmpty then [] else ["CONDITION:".toList ++ c]
        | none => []).foldl Program.Parts.read p = { p with condition := r.condition } := by
    intro p hp
    cases hc : r.condition with
    | none =>
        obtain ⟨response, condition, template⟩ := p
        subst hp
        rfl
    | some c =>
        have hne : ¬ c.isEmpty = true := by simpa using (h.condition c hc).2
        simp only [if_neg hne, List.foldl_cons, List.foldl_nil]
        rw [Program.read_condition, (h.condition c hc).1.stripped]
  have htemplate : ∀ p : Program.Parts, p.template = .empty →
      (if r.template.entries.isEmpty then []
        else ["TEMPLATE:".toList ++ r.template.written]).foldl Program.Parts.read p =
        { p with template := r.template } := by
    intro p hp
    split
    · next hempty =>
        have ht : p.template = r.template :=
          hp.trans (Template.eq_of_entries_eq (List.isEmpty_iff.1 hempty).symm)
        rw [← ht]
        rfl
    · rw [List.foldl_cons, List.foldl_nil, Program.read_template, h.strip_written,
        h.readTemplate_written]
  rw [hcondition _ rfl, htemplate _ rfl]

end Rule.Consists

namespace Program

variable {r : Rule}

/-- A clause of which the first part is read as the trigger of a rule, and the others
are those of the rule, is read as that rule. -/
theorem readClause_join (h : r.Consists Text.IsPlain) {t : Text} (hbar : '|' ∉ t)
    (ht : readTrigger t = r.trigger) :
    readClause (Text.join ['|'] (t :: r.details)) = .ok r := by
  have hfilter : r.condition.filter (fun c => !c.isEmpty) = r.condition := by
    cases hc : r.condition with
    | none => rfl
    | some c =>
        have hne := (h.condition c hc).2
        simpa [Option.filter] using hne
  rw [readClause, h.pieces_join_details hbar]
  simp only [List.headD_cons, List.drop_one, List.tail_cons, ht, h.foldl_read_details, hfilter]
  rw [dif_pos r.trigger_not_blank]

/-- A clause is read as its rule, unless its trigger starts with a label. -/
theorem readClause_clause (h : r.Consists Text.IsPlain) (hl : ¬ ruleLabel <+: r.trigger) :
    readClause r.clause = .ok r := by
  rw [Rule.clause_eq]
  refine readClause_join h h.trigger.no_bar ?_
  rw [readTrigger, h.trigger.stripped, if_neg (by rwa [List.isPrefixOf_iff_prefix])]

/-- A clause with a label in front is read as its rule. -/
theorem readClause_label_clause (h : r.Consists Text.IsPlain) :
    readClause (ruleLabel ++ r.clause) = .ok r := by
  have hjoin : ruleLabel ++ r.clause = Text.join ['|'] ((ruleLabel ++ r.trigger) :: r.details) := by
    rw [Rule.clause_eq]
    rfl
  have hbar : '|' ∉ ruleLabel ++ r.trigger := by
    rw [List.mem_append]
    rintro (hm | hm)
    · exact absurd hm (by decide)
    · exact h.trigger.no_bar hm
  rw [hjoin]
  refine readClause_join h hbar ?_
  have hstrip : Text.strip (ruleLabel ++ r.trigger) = ruleLabel ++ r.trigger :=
    Text.trim_append (by decide) (by decide) h.trigger.stripped
  have hpre : ruleLabel.isPrefixOf (ruleLabel ++ r.trigger) = true := by
    rw [List.isPrefixOf_iff_prefix]
    exact List.prefix_append _ _
  rw [readTrigger, hstrip, if_pos hpre, List.drop_left, h.trigger.stripped]

theorem trigger_of_readClause {clause : Text} (h : readClause clause = .ok r) :
    r.trigger = readTrigger ((Text.pieces ['|'] clause).headD []) := by
  rw [readClause] at h
  split at h
  · simp only at h
    split at h
    · cases h
    · cases h
      rfl
  · cases h

/-- A label in front of a trigger is lost. -/
theorem trigger_ne_of_readClause_clause (h : r.Consists Text.IsPlain) (hl : ruleLabel <+: r.trigger)
    {r' : Rule} (hr : readClause r.clause = .ok r') : r'.trigger ≠ r.trigger := by
  rw [trigger_of_readClause hr, Rule.clause_eq, h.pieces_join_details h.trigger.no_bar,
    List.headD_cons, readTrigger, h.trigger.stripped, if_pos (List.isPrefixOf_iff_prefix.2 hl)]
  intro he
  have hshort := (Text.trim_isInfix Text.isBlank (r.trigger.drop ruleLabel.length)).length_le
  have hlong := hl.length_le
  have hlabel : 0 < ruleLabel.length := by decide
  have hlen := congrArg List.length he
  rw [List.length_drop] at hshort
  rw [Text.strip] at hlen
  omega

end Program

end Mycelium
