import Mycelium.Proofs.Dealings
import Mycelium.Proofs.Offspring
import Mycelium.Proofs.Posts

/-!
# The lineage is the account of what was published

A cycle that is completed has turned to the scorer once and has published one message, and
nothing else.  `Reaches.keepsAccounts` says that the lineage has what was published in the
completed cycles, with the score that it got in that cycle, and that the messages said so.

What a cycle has done before it is completed is followed by a discipline (`accounts`).  No
lock is needed for it: what others do between the questions of a cycle changes neither what
the cycle has published nor what score it has got.

A first rule system comes from a program with a rule, and what the bot's own engine breeds has
a rule.  So there is always something to publish, and the fault that nothing is can only come
from outside.
-/

namespace Mycelium.Bot

variable {σ : Type} {c d : Nat} {e : Event σ} {h : List (Event σ)} {w : World σ} {x : Scored}

/-! ## What holds at every moment -/

/-- A call may end because there is no rule: it was told so, or it is not a cycle. -/
def Excused (c : Nat) (h : List (Event σ)) : Prop :=
  Brought .noRule c h ∨ ∃ op, op ≠ .cycle ∧ .began c op ∈ h

theorem Excused.cons (excused : Excused c h) : Excused c (e :: h) :=
  excused.imp (·.cons) fun ⟨op, other, hop⟩ => ⟨op, other, List.mem_cons_of_mem e hop⟩

/-- The accounts of a bot are in order. -/
structure World.IsAccounted (settings : Settings) (w : World σ) : Prop where
  /-- Once it has had a first rule system, the bot has a rule. -/
  fruitful : w.state.seeded = true → w.state.current.rules ≠ []
  /-- A call completes at most one cycle. -/
  once : ((completed w.history).map Prod.fst).Nodup
  /-- A completed cycle has got its score and has published with it. -/
  dealt : ∀ c x, (c, x) ∈ completed w.history → dealings c w.history = dealingsOf settings x
  /-- That there is no rule to publish ends a cycle only if it was told so. -/
  blameless : ∀ c, .ended c (.error .noRule) ∈ w.history → Excused c w.history

/-- Every call that has completed a cycle has ended. -/
def World.IsConcluded (w : World σ) : Prop :=
  ∀ c x, (c, x) ∈ completed w.history → ∃ r, .ended c r ∈ w.history

/-- What is bred has a rule. -/
def Event.BreedsRules (_ : List (Event σ)) : Event σ → Prop
  | .answered _ (.breed _ _ _ _) (.ok next, _) => next.rules ≠ []
  | _ => True

/-- The discipline of the accounts. -/
def accounts (settings : Settings) : Discipline σ where
  assumed := Event.BreedsRules
  always := World.IsAccounted settings
  settled := World.IsConcluded

/-- Whether an event neither gives the bot a rule system nor ends a call. -/
def Event.isQuiet : Event σ → Bool
  | .changed _ (.seed _) => false
  | .changed _ (.complete _ _ _ _) => false
  | .ended _ _ => false
  | _ => true

variable {settings : Settings} {ds : List Dealing}

theorem completion?_of_isQuiet (quiet : e.isQuiet = true) : e.completion? = none := by
  cases e with
  | changed d ch => cases ch <;> first | rfl | cases quiet
  | _ => rfl

/-- Answering neither gives the bot a rule system nor deals. -/
theorem isQuiet_of_prompt? {q : Prompt σ} (asked : e.prompt? = some q)
    (kind : (q.isOfAnswer || q.isOfMentions) = true) : e.isQuiet = true ∧ e.dealing? = none := by
  cases e with
  | changed d ch =>
      cases asked
      cases ch <;> first | exact ⟨rfl, rfl⟩ | cases kind
  | answered d q' r =>
      cases asked
      cases q <;> first | exact ⟨rfl, rfl⟩ | cases kind
  | _ => cases asked

namespace World.IsAccounted

variable (accounted : w.IsAccounted settings)
include accounted

theorem blameless_after
    (excused : e = .ended e.call (.error .noRule) → Excused e.call w.history)
    (hc : .ended c (.error .noRule) ∈ e :: w.history) : Excused c (e :: w.history) := by
  rcases List.mem_cons.1 hc with heq | hc
  · cases heq
    exact (excused rfl).cons
  · exact (accounted.blameless c hc).cons

/-- What completes no cycle keeps the accounts, unless a call deals that has completed one. -/
theorem after_of_none (none : e.completion? = .none)
    (free : e.dealing? = .none ∨ ∀ x, (e.call, x) ∉ completed w.history)
    (fruitful : (w.after e).state.seeded = true → (w.after e).state.current.rules ≠ [])
    (excused : e = .ended e.call (.error .noRule) → Excused e.call w.history) :
    (w.after e).IsAccounted settings where
  fruitful := fruitful
  once := by
    rw [World.after_history, completed_cons_of_none none]
    exact accounted.once
  dealt c x hx := by
    rw [World.after_history, completed_cons_of_none none] at hx
    rw [World.after_history, ← accounted.dealt c x hx]
    rcases free with hnone | huncompleted
    · exact dealings_cons_of_none hnone
    · exact dealings_cons_of_ne fun heq => huncompleted x (heq ▸ hx)
  blameless _ := accounted.blameless_after excused

theorem after_of_isQuiet (quiet : e.isQuiet = true)
    (free : e.dealing? = .none ∨ ∀ x, (e.call, x) ∉ completed w.history) :
    (w.after e).IsAccounted settings := by
  refine accounted.after_of_none (completion?_of_isQuiet quiet) free ?_ ?_
  · cases e with
    | changed d ch => cases ch <;> first | exact accounted.fruitful | cases quiet
    | _ => exact accounted.fruitful
  · intro heq
    rw [heq] at quiet
    cases quiet

/-- A call completes its only cycle, in which it has dealt as it has to. -/
theorem complete (uncompleted : ∀ x, (c, x) ∉ completed w.history)
    (dealt : dealings c w.history = dealingsOf settings x) {next : RuleSystem}
    (fruitful : next.rules ≠ []) (scored : Nat) (source : σ) :
    (w.after (.changed c (.complete x next scored source))).IsAccounted settings where
  fruitful _ := fruitful
  once := by
    have hnew : c ∉ (completed w.history).map Prod.fst := by
      rintro hmem
      obtain ⟨⟨d, y⟩, hy, rfl⟩ := List.mem_map.1 hmem
      exact uncompleted y hy
    rw [World.after_history, completed_cons, List.map_append]
    refine List.nodup_append.2 ⟨accounted.once, List.pairwise_singleton _ _, ?_⟩
    rintro d hd _ hmem rfl
    obtain rfl : d = c := List.mem_singleton.1 hmem
    exact hnew hd
  dealt d y hy := by
    rw [World.after_history, dealings_cons_of_none rfl]
    rcases mem_completed_cons hy with hy | hy
    · exact accounted.dealt d y hy
    · cases hy
      exact dealt
  blameless _ := accounted.blameless_after nofun

end World.IsAccounted

/-! ## A call that has not completed a cycle -/

/-- The call has not completed a cycle, and has dealt as is said. -/
structure Pending (c : Nat) (ds : List Dealing) (w : World σ) : Prop where
  uncompleted : ∀ x, (c, x) ∉ completed w.history
  dealt : dealings c w.history = ds

/-- Every other call that has completed a cycle has ended. -/
def OthersEnded (c : Nat) (w : World σ) : Prop :=
  ∀ d x, d ≠ c → (d, x) ∈ completed w.history → ∃ r, .ended d r ∈ w.history

/-- The call goes on and has not completed a cycle. -/
structure Deals (c : Nat) (ds : List Dealing) (w : World σ) : Prop extends Pending c ds w where
  others : OthersEnded c w

theorem OthersEnded.after (others : OthersEnded c w) (mine : e.call = c) :
    OthersEnded c (w.after e) := by
  intro d x other hx
  rcases mem_completed_cons hx with hx | hx
  · obtain ⟨r, hr⟩ := others d x other hx
    exact ⟨r, List.mem_cons_of_mem e hr⟩
  · exact absurd ((call_of_completion? hx).symm.trans mine) other

theorem Pending.of_new (new : ∀ e ∈ w.history, e.call ≠ c) : Pending c [] w where
  uncompleted x hx := by
    obtain ⟨e, he, heq⟩ := List.mem_filterMap.1 hx
    exact new e (List.mem_reverse.1 he) (call_of_completion? heq)
  dealt := by
    have hnone : w.history.reverse.filter (fun e => e.call = c) = [] := by simpa using new
    rw [dealings, hnone]
    rfl

theorem Pending.after (pending : Pending c ds w) (mine : e.call = c)
    (none : e.completion? = .none) : Pending c (ds ++ e.dealing?.toList) (w.after e) where
  uncompleted x := by
    rw [World.after_history, completed_cons_of_none none]
    exact pending.uncompleted x
  dealt := by rw [World.after_history, dealings_cons mine, pending.dealt]

/-- Other calls do not deal for a call. -/
theorem Pending.stable : (accounts settings).Stable c (Pending (σ := σ) c ds) := by
  intro w e other _ _ pending
  refine ⟨fun x hx => ?_, (dealings_cons_of_ne other).trans pending.dealt⟩
  rcases mem_completed_cons hx with hx | hx
  · exact pending.uncompleted x hx
  · exact other (call_of_completion? hx)

namespace Deals

theorem of_none (deals : Deals c (ds ++ e.dealing?.toList) w) (none : e.dealing? = .none) :
    Deals c ds w := by
  rwa [none, Option.toList_none, List.append_nil] at deals

variable (deals : Deals c ds w)
include deals

theorem after (mine : e.call = c) (none : e.completion? = .none) :
    Deals c (ds ++ e.dealing?.toList) (w.after e) :=
  ⟨deals.toPending.after mine none, deals.others.after mine⟩

theorem concluded : w.IsConcluded := by
  intro d x hx
  refine deals.others d x ?_ hx
  rintro rfl
  exact deals.uncompleted x hx

theorem leads (holds : (accounts settings).Holds w) (mine : e.call = c)
    (quiet : e.isQuiet = true) {k : World σ → Prop}
    (next : Deals c (ds ++ e.dealing?.toList) (w.after e) → k (w.after e)) :
    (accounts settings).Leads w e k :=
  fun _ => ⟨holds.always.after_of_isQuiet quiet (.inr (mine ▸ deals.uncompleted)),
    next (deals.after mine (completion?_of_isQuiet quiet))⟩

theorem ensures_change {ch : Change σ} (quiet : (Event.changed c ch).isQuiet = true)
    {post : Except Fault Unit → World σ → Prop}
    (next : Deals c ds (w.after (.changed c ch)) → post (.ok ()) (w.after (.changed c ch))) :
    (accounts settings).Ensures c (.change ch) post w :=
  Discipline.ensures_change.2 fun holds =>
    deals.leads holds rfl quiet fun deals => next (deals.of_none rfl)

/-- A call deals with a collaborator, and nobody else deals for it while it waits. -/
theorem keeps_put (q : Prompt σ) (out : q.isOutside) {post : q.Answer → World σ → Prop}
    (next : ∀ w r, .answered c q r ∈ w.history →
      Deals c (ds ++ (Event.answered c q r).dealing?.toList) w → post r w) :
    (accounts settings).Keeps c post (Dialogue.put q) w := by
  refine (Discipline.keeps_put q out).2 fun _ => ⟨deals.concluded, Pending c ds, deals.toPending,
    Pending.stable, fun w r holds settled pending => ?_⟩
  have deals : Deals c ds w := ⟨pending, fun d x _ hx => settled d x hx⟩
  exact deals.leads holds rfl rfl fun deals => next _ r List.mem_cons_self deals

end Deals

/-! ## Rule systems that are bred -/

theorem ne_nil_of_bred {published : Scored} {lineage others : List Scored} {source drawn : σ}
    {next : RuleSystem} (obeys : Obeys Event.BreedsRules h)
    (bred : .answered c (.breed published lineage others source) (.ok next, drawn) ∈ h) :
    next.rules ≠ [] := by
  obtain ⟨later, earlier, rfl⟩ := List.append_of_mem bred
  exact obeys.at_split

/-- What the bot's own engine breeds has a rule. -/
theorem Event.BredByOwn.breedsRules [RandomSource σ] {rates : Rates}
    (bred : Event.BredByOwn rates h e) : Event.BreedsRules h e := by
  cases e with
  | answered d q r =>
      cases q with
      | breed published lineage others source =>
          obtain rfl | ⟨f, hf⟩ := bred
          · exact (Breeding.always_evolved rates published lineage others source).ne_nil
          · obtain ⟨r, drawn⟩ := r
            cases hf
            trivial
      | _ => trivial
  | _ => trivial

/-! ## Messages that are read -/

/-- What is found in messages was read as a program with a rule, and only a message that
leads to a fault leads to it. -/
theorem exists_firstProgram (ps : List (Except Fault Post)) :
    ∃ r, (firstProgram? ps : Session σ (Option Text)) = .ofOutcome r ∧
      (∀ text, r = .ok (some text) → Program.isProgram .usual text = true) ∧
      (r = .error .noRule → .error .noRule ∈ ps) := by
  induction ps with
  | nil => exact ⟨.ok none, rfl, nofun, nofun⟩
  | cons p ps ih =>
      cases p with
      | error f =>
          refine ⟨.error f, rfl, nofun, ?_⟩
          rintro ⟨⟩
          exact List.mem_cons_self
      | ok post =>
          have hread : (firstProgram? (.ok post :: ps) : Session σ (Option Text)) = (do
              let text ← .ofOutcome (Content.plainText post.content)
              if Program.isProgram .usual text then return some text else firstProgram? ps) := rfl
          rw [hread]
          cases hcontent : Content.plainText post.content with
          | error f =>
              refine ⟨.error f, rfl, nofun, ?_⟩
              rintro ⟨⟩
              exact absurd hcontent (Content.plainText_ne_noRule _)
          | ok text =>
              by_cases hprogram : Program.isProgram .usual text = true
              · refine ⟨.ok (some text), if_pos hprogram, ?_, nofun⟩
                rintro _ ⟨⟩
                exact hprogram
              · obtain ⟨r, hr, hfound, hfault⟩ := ih
                refine ⟨r, (if_neg hprogram).trans hr, hfound, fun h => ?_⟩
                exact List.mem_cons_of_mem _ (hfault h)

/-! ## Cycles -/

theorem eq_error_of_map {α β : Type} {r : Except Fault α} {g : α → β} {f : Fault}
    (h : r.map g = .error f) : r = .error f := by
  cases r with
  | ok a => cases h
  | error f =>
      cases h
      rfl

/-- What a search comes to: either the bot has a first rule system, or it ends with a fault,
and that there is no rule it was told. -/
structure Searched {α : Type} (c : Nat) (ds : List Dealing) (r : Except Fault α) (w : World σ) :
    Prop where
  deals : Deals c ds w
  seeded : ∀ a, r = .ok a → w.state.seeded = true
  told : r = .error .noRule → Brought .noRule c w.history

theorem ensures_adopt (deals : Deals c ds w) (found : Option Text)
    (program : ∀ text, found = some text → Program.isProgram .usual text = true) :
    (accounts settings).Ensures c (do
      let system ← Session.ofOutcome (seedSystem found)
      Session.change (.seed system)
      return system) (Searched c ds) w := by
  obtain ⟨system, hsystem, hrules⟩ := exists_seedSystem found program
  rw [hsystem]
  refine Discipline.ensures_bind.2 ((Discipline.ensures_ofOutcome _).2 ?_)
  refine Discipline.ensures_bind.2 (Discipline.ensures_change.2 fun holds _ => ?_)
  refine ⟨holds.always.after_of_none rfl (.inl rfl) (fun _ => hrules) nofun, ?_⟩
  exact {
    deals := (deals.after (e := .changed c (.seed system)) rfl rfl).of_none rfl
    seeded := fun _ _ => rfl
    told := nofun }

theorem ensures_search (deals : Deals c ds w) :
    (accounts settings).Ensures c (search settings) (Searched c ds) w := by
  refine Discipline.ensures_bind.2 (deals.ensures_change rfl fun deals => ?_)
  refine Discipline.ensures_bind.2 (Discipline.ensures_outcome.2 (Discipline.ensures_bind.2 ?_))
  refine deals.keeps_put (.candidates _ _) rfl fun w r hmem deals => ?_
  replace deals := deals.of_none rfl
  have hfailed {f : Fault} (told : f = .noRule → Brought .noRule c w.history) :
      (accounts settings).Ensures c (do
        let found ← if f.isTransient then pure none else throw f
        let system ← Session.ofOutcome (seedSystem found)
        Session.change (.seed system)
        return system) (Searched c ds) w := by
    split
    · exact ensures_adopt deals none nofun
    · exact {
        deals := deals
        seeded := nofun
        told := fun h => told (by cases h; rfl) }
  cases r with
  | error f => exact hfailed fun h => ⟨_, _, hmem, .inl (by rw [h])⟩
  | ok ps =>
      obtain ⟨r, hr, hfound, hfault⟩ := exists_firstProgram (σ := σ) ps
      dsimp only
      rw [hr]
      cases r with
      | ok found => exact ensures_adopt deals found fun text h => hfound text (by rw [h])
      | error f =>
          exact hfailed fun h => ⟨_, _, hmem, .inr ⟨ps, rfl, hfault (by rw [h])⟩⟩

theorem ensures_scrape (deals : Deals c ds w) (own : Text) :
    (accounts settings).Ensures c (scrape settings own) (fun r w => Deals c ds w ∧
      (r = .error .noRule → Brought .noRule c w.history)) w := by
  refine Discipline.ensures_bind.2 ?_
  refine deals.keeps_put (.candidates _ _) rfl fun w r hmem deals => ?_
  replace deals := deals.of_none rfl
  cases r with
  | error f => exact ⟨deals, fun h => ⟨_, _, hmem, .inl (by cases h; rfl)⟩⟩
  | ok ps =>
      dsimp only
      rw [observations_eq]
      refine ⟨deals, fun h => ⟨_, _, hmem, .inr ⟨ps, rfl, ?_⟩⟩⟩
      rcases of_given_eq_error (eq_error_of_map h) with hmem | ⟨p, hp⟩
      · exact hmem
      · exact absurd hp (Content.plainText_ne_noRule _)

/-- What a cycle comes to: the cycles that others have completed have ended, and it does not
end because there is no rule unless it was told so. -/
structure Concludes {α : Type} (c : Nat) (r : Except Fault α) (w : World σ) : Prop where
  others : OthersEnded c w
  told : r = .error .noRule → Brought .noRule c w.history

theorem Concludes.ensures_change {α : Type} {r : Except Fault α} (concludes : Concludes c r w)
    {ch : Change σ} (quiet : (Event.changed c ch).isQuiet = true)
    {post : Except Fault Unit → World σ → Prop}
    (next : Concludes c r (w.after (.changed c ch)) → post (.ok ()) (w.after (.changed c ch))) :
    (accounts settings).Ensures c (.change ch) post w := by
  refine Discipline.ensures_change.2 fun holds _ => ?_
  exact ⟨holds.always.after_of_isQuiet quiet (.inl rfl),
    next ⟨concludes.others.after rfl, fun h => (concludes.told h).cons⟩⟩

/-- A message is published and those of others are looked at. -/
theorem ensures_exchanged (deals : Deals c ds w) (message : Text) :
    (accounts settings).Ensures c (do
      Session.publish message
      scrape settings message) (fun r w => Concludes c r w ∧
        ∀ xs, r = .ok xs → Deals c (ds ++ [.published message (.ok ())]) w) w := by
  refine Discipline.ensures_bind.2 ?_
  refine deals.keeps_put (.publish message) rfl fun w r hmem deals => ?_
  cases r with
  | error f => exact ⟨⟨deals.others, fun h => ⟨_, _, hmem, by cases h; rfl⟩⟩, nofun⟩
  | ok u =>
      refine (ensures_scrape deals message).mono fun r w h => ?_
      exact ⟨⟨h.1.others, h.2⟩, fun _ _ => h.1⟩

theorem ensures_cycleAlone_accounts (deals : Deals c [] w) (seeded : w.state.seeded = true) :
    (accounts settings).Ensures c (cycleAlone settings) (Concludes c) w := by
  refine Discipline.ensures_bind.2 (Discipline.ensures_look.2 fun holds => ?_)
  have hrules := holds.always.fruitful seeded
  refine Discipline.ensures_bind.2 (deals.ensures_change rfl fun deals => ?_)
  refine Discipline.ensures_bind.2 ?_
  refine deals.keeps_put (.score _ _) rfl fun w' r hmem deals => ?_
  cases r with
  | error f => exact ⟨deals.others, fun h => ⟨_, _, hmem, by cases h; rfl⟩⟩
  | ok fitness =>
      refine Discipline.ensures_bind.2 (deals.ensures_change rfl fun deals => ?_)
      refine Discipline.ensures_bind.2 (deals.ensures_change rfl fun deals => ?_)
      obtain ⟨p, hp, hscore⟩ := Publication.exists_forChannel hrules fitness settings.hashtag
        settings.messageLimit
      dsimp only
      rw [hp]
      refine Discipline.ensures_bind.2 (Discipline.ensures_outcome.2 ?_)
      refine (ensures_exchanged deals p.message).mono fun others w h => ?_
      cases others with
      | error f =>
          dsimp only
          split
          · refine Discipline.ensures_bind.2 (h.1.ensures_change rfl fun concludes => ?_)
            exact ⟨concludes.others, nofun⟩
          · exact ⟨h.1.others, fun heq => h.1.told (by cases heq; rfl)⟩
      | ok others =>
          refine Discipline.ensures_bind.2 ((h.2 others rfl).ensures_change rfl fun deals => ?_)
          refine Discipline.ensures_bind.2 (Discipline.ensures_look.2 fun _ => ?_)
          refine Discipline.ensures_bind.2 ?_
          refine deals.keeps_put (.breed _ _ _ _) rfl fun w bred hmem deals => ?_
          replace deals := deals.of_none rfl
          obtain ⟨f | next, drawn⟩ := bred
          · refine Discipline.ensures_bind.2 (deals.ensures_change rfl fun deals => ?_)
            exact ⟨deals.others, fun heq => .cons ⟨_, _, hmem, by cases heq; rfl⟩⟩
          · refine Discipline.ensures_bind.2 (Discipline.ensures_change.2 fun holds _ => ?_)
            have hnext := ne_nil_of_bred holds.obeys hmem
            -- the system that goes into the lineage is the one whose message was published
            refine ⟨holds.always.complete deals.uncompleted ?_ hnext _ _,
              Discipline.ensures_bind.2 (Discipline.ensures_look.2 fun _ => ?_)⟩
            · rw [deals.dealt, hscore]
              rfl
            · exact ⟨deals.others.after rfl, nofun⟩

theorem ensures_cycle_accounts (deals : Deals c [] w) :
    (accounts settings).Ensures c (cycle settings) (Concludes c) w := by
  refine Discipline.ensures_bind.2 (Discipline.ensures_look.2 fun _ => ?_)
  dsimp only
  split
  · exact ⟨deals.others, nofun⟩
  · refine Discipline.ensures_bind.2 (deals.ensures_change rfl fun deals => ?_)
    refine Discipline.ensures_bind.2 (Discipline.ensures_outcome.2 ?_)
    refine Discipline.Ensures.mono (?_ : (accounts settings).Ensures c _ (Concludes c) _)
      fun r w concludes => ?_
    · refine Discipline.ensures_bind.2 (Discipline.ensures_look.2 fun _ => ?_)
      dsimp only
      split
      · refine Discipline.ensures_bind.2 ((ensures_search deals).mono fun r w searched => ?_)
        cases r with
        | ok s => exact ensures_cycleAlone_accounts searched.deals (searched.seeded s rfl)
        | error f =>
            exact ⟨searched.deals.others, fun h => searched.told (by cases h; rfl)⟩
      · next seeded => exact ensures_cycleAlone_accounts deals (by simpa using seeded)
    · refine Discipline.ensures_bind.2 (concludes.ensures_change rfl fun concludes => ?_)
      exact concludes

/-- A call may end after which every completed cycle has ended. -/
theorem OthersEnded.ends (others : OthersEnded c w) {r : Except Fault Result}
    (excused : r = .error .noRule → Excused c w.history) : (accounts settings).Ends c r w := by
  intro holds _
  refine ⟨holds.always.after_of_none rfl (.inl rfl) holds.always.fruitful ?_, ?_⟩
  · intro heq
    cases heq
    exact excused rfl
  · intro d x hx
    by_cases hdc : d = c
    · exact ⟨r, hdc ▸ List.mem_cons_self⟩
    · exact others.after (e := .ended c r) rfl d x hdc hx

/-- An operation without dealings that gives the bot no rule system. -/
theorem ensures_session_of_quiet {op : Operation} (other : op ≠ .cycle)
    (kind : ∀ q : Prompt σ, op.mayAsk q = true → (q.isOfAnswer || q.isOfMentions) = true)
    (deals : Deals c [] w) (began : .began c op ∈ w.history) :
    (accounts settings).Ensures c (op.session settings) ((accounts settings).Ends c) w := by
  have stable : (accounts settings).Stable c fun w : World σ =>
      Pending c [] w ∧ .began c op ∈ w.history := fun w e hne before holds h =>
    ⟨Pending.stable w e hne before holds h.1, List.mem_cons_of_mem e h.2⟩
  refine (Discipline.ensures_of_asks stable ?_ (op.asks_session settings) deals.concluded
    ⟨deals.toPending, began⟩).mono fun r w h => ?_
  · rintro w e q mine asked may holds settled ⟨pending, began⟩
    obtain ⟨hquiet, hnone⟩ := isQuiet_of_prompt? asked (kind q may)
    have deals : Deals c [] w := ⟨pending, fun d x _ hx => settled d x hx⟩
    refine deals.leads holds mine hquiet fun deals => ?_
    exact ⟨deals.concluded, (deals.of_none hnone).toPending, List.mem_cons_of_mem e began⟩
  · exact OthersEnded.ends (fun d x _ hx => h.1 d x hx) fun _ => .inr ⟨op, other, h.2.2⟩

/-! ## Runs -/

theorem isKept_accounts (settings : Settings) :
    (accounts settings : Discipline σ).IsKept settings := by
  intro c op w new holds settled obeys
  refine ⟨holds.always.after_of_isQuiet rfl (.inl rfl), ?_⟩
  have before : Deals c [] w := ⟨.of_new new, fun d x _ hx => settled d x hx⟩
  have deals := before.after (e := .began c op) rfl rfl
  cases op with
  | search =>
      refine (Discipline.ensures_map _).2 ((ensures_search deals).mono fun r w searched => ?_)
      exact searched.deals.others.ends fun h => .inl (searched.told (eq_error_of_map h))
  | answer text =>
      refine ensures_session_of_quiet nofun (fun q may => ?_) deals List.mem_cons_self
      rw [show q.isOfAnswer = true from may, Bool.true_or]
  | answerMentions =>
      exact ensures_session_of_quiet nofun (fun q may => may) deals List.mem_cons_self
  | cycle =>
      refine (Discipline.ensures_map _).2 ((ensures_cycle_accounts deals).mono fun r w h => ?_)
      exact h.others.ends fun heq => .inl (h.told (eq_error_of_map heq))

/-- The lineage is the account of what was published. -/
structure Moment.KeepsAccounts (settings : Settings) (m : Moment σ) : Prop where
  /-- The bot has counted the cycles that were completed. -/
  cycles : m.world.state.cycles = (completed m.world.history).length
  /-- No call has completed two of them. -/
  once : ((completed m.world.history).map Prod.fst).Nodup
  /-- A call that has ended has completed a cycle if it says so. -/
  reported : ∀ c r, .ended c r ∈ m.world.history →
    ((∃ x, (c, x) ∈ completed m.world.history) ↔ ReportsCompleted r)
  /-- While no call goes on, all calls that have completed a cycle have ended. -/
  concluded : m.running = none → ∀ c x, (c, x) ∈ completed m.world.history →
    ∃ r, .ended c r ∈ m.world.history
  /-- In a completed cycle the scorer gave one score and one message was published, which is
  that of the system with this score. -/
  dealt : ∀ c x, (c, x) ∈ completed m.world.history → dealings c m.world.history =
    [.scored (.ok x.fitness),
      .published (Publication.ofScore x.system x.fitness settings.hashtag).message (.ok ())]
  /-- The lineage has what was published in the last cycles, or in all if it has no limit. -/
  lineage : m.world.state.lineage.items =
    if settings.historyLimit = 0 then (completed m.world.history).map Prod.snd
    else ((completed m.world.history).map Prod.snd).rtake settings.historyLimit.toNat
  /-- Once the bot has had a first rule system, it has a rule. -/
  fruitful : m.world.state.seeded = true → m.world.state.current.rules ≠ []
  /-- No cycle ends because there is no rule, unless a collaborator says so. -/
  blameless : ∀ c, .began c .cycle ∈ m.world.history →
    .ended c (.error .noRule) ∈ m.world.history → Brought .noRule c m.world.history

/-- At every moment of every run in which the bot has its own engine, be it that this fails at
times, the lineage is the account of what was published. -/
theorem Reaches.keepsAccounts [RandomSource σ] {lastMention : Json} {source : σ} {m : Moment σ}
    (bounded : 0 ≤ settings.historyLimit)
    (reaches : Reaches settings (.initial settings lastMention source) m)
    (bred : m.world.HasOwnEngine settings.rates) :
    m.KeepsAccounts settings := by
  have proper := reaches.isProper.history
  have start : World.IsAccounted settings (⟨.initial settings lastMention source, []⟩ : World σ) :=
    ⟨nofun, List.nodup_nil, nofun, nofun⟩
  have governs := (isKept_accounts settings).reaches start nofun reaches
    (bred.obeys.mono fun _ _ => Event.BredByOwn.breedsRules)
  have accounted := governs.holds.always
  have begins : World.Balances [] (⟨.initial settings lastMention source, []⟩ : World σ) :=
    ⟨⟨fun _ => rfl, trivial⟩, rfl, nofun⟩
  have balances :=
    ((isKept_interactions settings).reaches begins trivial reaches proper).holds.always
  obtain ⟨cycles, lineage⟩ := reaches.accounts
  exact {
    cycles := cycles.trans (Nat.zero_add _)
    once := accounted.once
    reported := fun c r hr => hasCompleted_iff.symm.trans (balances.reports c r hr)
    concluded := governs.settled
    dealt := accounted.dealt
    lineage := by
      rw [lineage]
      exact Lineage.items_ofList bounded _
    fruitful := accounted.fruitful
    blameless := fun c began ended => by
      rcases accounted.blameless c ended with brought | ⟨op, other, hop⟩
      · exact brought
      · exact absurd (proper.began_unique hop began) other }

/-- A bot that has completed three cycles and keeps the systems of two. -/
def threeCycles : World Tape :=
  World.calls ⟨[], 1, 0, 2, {}⟩ {} [.cycle, .answer (some ['a']), .cycle, .cycle]
    ⟨.initial ⟨[], 1, 0, 2, {}⟩ .null ⟨[3, 1, 4, 1, 5], 0⟩, []⟩

/-- All three cycles count, and two of them are in the lineage. -/
theorem keepsAccounts_threeCycles :
    threeCycles.state.cycles = 3 ∧ threeCycles.state.lineage.items.length = 2 ∧
      ∃ waiting, Moment.KeepsAccounts ⟨[], 1, 0, 2, {}⟩ ⟨threeCycles, none, waiting⟩ := by
  have hcounts : threeCycles.state.cycles = 3 ∧ threeCycles.state.lineage.items.length = 2 := by
    decide +kernel
  obtain ⟨waiting, reaches⟩ : ∃ waiting,
      Reaches ⟨[], 1, 0, 2, {}⟩ (.initial ⟨[], 1, 0, 2, {}⟩ .null ⟨[3, 1, 4, 1, 5], 0⟩)
        ⟨threeCycles, none, waiting⟩ :=
    reaches_calls (.start _) {} _ .refl
  have bred : threeCycles.HasOwnEngine {} := .calls (fun _ => rfl) _ (.start _) (.start _)
  refine ⟨hcounts.1, hcounts.2, waiting, ?_⟩
  -- from here on only what led to the state is of interest, and not what it is
  generalize threeCycles = w at reaches bred
  exact Reaches.keepsAccounts (by decide) reaches bred

end Mycelium.Bot
