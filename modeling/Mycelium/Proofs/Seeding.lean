import Mycelium.Proofs.Alone
import Mycelium.Proofs.Posts
import Mycelium.Proofs.References
import Mycelium.Random.Generator

/-!
# What the initial search adopts

The messages that are found under the hashtag are looked at one after the other.  A message
without a program, or with a program without a rule, is passed over, and the first program with a
rule is adopted, or the fallback system if there is none (`Seeds`).

A message that cannot be read ends the search, be there a program behind it or not.  That happens
if it has a decimal reference with more digits than are read, and in no other case.
-/

namespace Mycelium.Bot

open Session

variable {σ : Type}

/-! ## Messages -/

namespace Post

variable {p : Post}

/-- The content of a message is a text, or there is none. -/
def IsTextual (p : Post) : Prop := p.content.holds = true → ∃ s, p.content = .str s

/-- The marked-up text of a message. -/
def markup (p : Post) : Text :=
  match p.content with
  | .str s => s
  | _ => []

/-- A message holds a program with a rule. -/
def Holds (p : Post) (system : RuleSystem) : Prop :=
  ∃ text, Content.plainText p.content = .ok text ∧ Program.parse .usual text = .ok system ∧
    system.rules ≠ []

/-- A message can be read, but holds no program with a rule. -/
def IsPassedOver (p : Post) : Prop :=
  ∃ text, Content.plainText p.content = .ok text ∧
    ∀ system, Program.parse .usual text = .ok system → system.rules = []

/-- A message cannot be read because of a number in it. -/
def IsUnreadable (p : Post) (f : Fault) : Prop :=
  Content.plainText p.content = .error f ∧
    Markup.HasOverlong (Markup.dropTags (Markup.breakLines p.markup))

/-- The plain text of a message is that of its marked-up text. -/
theorem IsTextual.plainText (textual : p.IsTextual) :
    Content.plainText p.content = (Markup.plainText p.markup).mapError .number := by
  by_cases holds : p.content.holds = true
  · obtain ⟨s, hs⟩ := textual holds
    rw [markup, hs]
    exact Content.plainText_str s
  · have hempty : p.markup = [] := by
      rw [markup]
      split
      · next s hs =>
          rw [hs] at holds
          simpa [Json.holds] using holds
      · rfl
    rw [hempty]
    exact if_neg holds

theorem IsTextual.isUnreadable (textual : p.IsTextual) {f : Fault}
    (h : Content.plainText p.content = .error f) : p.IsUnreadable f := by
  refine ⟨h, Markup.plainText_eq_error_iff.1 ?_⟩
  rw [textual.plainText] at h
  cases hplain : Markup.plainText p.markup with
  | error e => exact ⟨e, rfl⟩
  | ok text =>
      rw [hplain] at h
      cases h

theorem holds_of_isProgram {text : Text} (h : Content.plainText p.content = .ok text)
    (program : Program.isProgram .usual text = true) :
    ∃ system, seedSystem (some text) = .ok system ∧ p.Holds system := by
  obtain ⟨system, hsystem, hrules⟩ :=
    exists_seedSystem (some text) (by rintro _ ⟨⟩; exact program)
  refine ⟨system, hsystem, text, h, ?_, hrules⟩
  rw [seedSystem] at hsystem
  cases hparse : Program.parse .usual text with
  | error e =>
      rw [hparse] at hsystem
      cases hsystem
  | ok read =>
      rw [hparse] at hsystem
      cases hsystem
      rfl

theorem isPassedOver_of_isProgram {text : Text} (h : Content.plainText p.content = .ok text)
    (program : Program.isProgram .usual text = false) : p.IsPassedOver := by
  refine ⟨text, h, fun system hparse => ?_⟩
  rw [Program.isProgram, hparse] at program
  simpa using program

end Post

/-! ## The first program -/

/-- What a search comes to that finds messages. -/
inductive Seeds (ps : List Post) : Except Fault RuleSystem → Prop where
  /-- The first program with a rule is adopted. -/
  | first (before : List Post) {after : List Post} {p : Post} {system : RuleSystem}
      (split : ps = before ++ p :: after) (passed : ∀ q ∈ before, q.IsPassedOver)
      (holds : p.Holds system) : Seeds ps (.ok system)
  /-- There is no program with a rule. -/
  | fallback (passed : ∀ q ∈ ps, q.IsPassedOver) : Seeds ps (.ok Publication.fallback)
  /-- A message in front of the first program cannot be read. -/
  | fails (before : List Post) {after : List Post} {p : Post} {f : Fault}
      (split : ps = before ++ p :: after) (passed : ∀ q ∈ before, q.IsPassedOver)
      (unreadable : p.IsUnreadable f) : Seeds ps (.error f)

namespace Seeds

variable {p : Post} {ps : List Post} {r : Except Fault RuleSystem}

/-- A message that is passed over changes nothing. -/
theorem cons (passed : p.IsPassedOver) (h : Seeds ps r) : Seeds (p :: ps) r := by
  have passes {qs : List Post} (hqs : ∀ q ∈ qs, q.IsPassedOver) : ∀ q ∈ p :: qs, q.IsPassedOver :=
    List.forall_mem_cons.2 ⟨passed, hqs⟩
  cases h with
  | @first before after q system split hpassed holds =>
      exact .first (p :: before) (by rw [split]; rfl) (passes hpassed) holds
  | fallback hpassed => exact .fallback (passes hpassed)
  | @fails before after q f split hpassed unreadable =>
      exact .fails (p :: before) (by rw [split]; rfl) (passes hpassed) unreadable

/-- Nothing is adopted behind a message that cannot be read. -/
theorem eq_error {f : Fault} (unread : Content.plainText p.content = .error f)
    (h : Seeds (p :: ps) r) : r = .error f := by
  have read_of_passed (passed : p.IsPassedOver) : False := by
    obtain ⟨text, htext, -⟩ := passed
    cases unread.symm.trans htext
  cases h with
  | @first before after q system split passed holds =>
      cases before with
      | nil =>
          cases split
          obtain ⟨text, htext, -⟩ := holds
          cases unread.symm.trans htext
      | cons q before =>
          cases split
          exact (read_of_passed (passed p List.mem_cons_self)).elim
  | fallback passed => exact (read_of_passed (passed p List.mem_cons_self)).elim
  | @fails before after q g split passed unreadable =>
      cases before with
      | nil =>
          cases split
          cases unreadable.1.symm.trans unread
          rfl
      | cons q before =>
          cases split
          exact (read_of_passed (passed p List.mem_cons_self)).elim

/-- A search that fails would fail again. -/
theorem isTransient_eq_false {f : Fault} (h : Seeds ps (.error f)) : f.isTransient = false := by
  cases h with
  | fails _ _ _ unreadable => exact Content.isTransient_of_plainText unreadable.1

/-- What is adopted has a rule. -/
theorem ne_nil {system : RuleSystem} (h : Seeds ps (.ok system)) : system.rules ≠ [] := by
  cases h with
  | first _ _ _ holds => exact holds.choose_spec.2.2
  | fallback _ => exact List.cons_ne_nil _ _

end Seeds

theorem exists_seeds {ps : List Post} (textual : ∀ p ∈ ps, p.IsTextual) :
    ∃ r, (firstProgram? (ps.map .ok) : Session σ (Option Text)) = .ofOutcome r ∧
      Seeds ps (r.bind seedSystem) := by
  induction ps with
  | nil => exact ⟨.ok none, rfl, .fallback nofun⟩
  | cons p ps ih =>
      obtain ⟨htextual, htail⟩ := List.forall_mem_cons.1 textual
      have hread : (firstProgram? ((p :: ps).map .ok) : Session σ (Option Text)) = (do
          let text ← .ofOutcome (Content.plainText p.content)
          if Program.isProgram .usual text then return some text
          else firstProgram? (ps.map .ok)) := rfl
      rw [hread]
      cases hcontent : Content.plainText p.content with
      | error f =>
          exact ⟨.error f, rfl,
            .fails [] rfl nofun (htextual.isUnreadable hcontent)⟩
      | ok text =>
          by_cases program : Program.isProgram .usual text = true
          · obtain ⟨system, hsystem, holds⟩ := Post.holds_of_isProgram hcontent program
            refine ⟨.ok (some text), if_pos program, ?_⟩
            rw [Except.bind, hsystem]
            exact .first [] rfl nofun holds
          · obtain ⟨r, hr, seeds⟩ := ih htail
            refine ⟨r, (if_neg program).trans hr, seeds.cons ?_⟩
            exact Post.isPassedOver_of_isProgram hcontent (Bool.eq_false_iff.2 program)

/-! ## The search -/

/-- What comes to a bot that looks for messages: the messages, or none if the channel cannot be
reached. -/
inductive Offers : Except Fault (List (Except Fault Post)) → List Post → Prop where
  | messages {ps : List Post} (textual : ∀ p ∈ ps, p.IsTextual) : Offers (.ok (ps.map .ok)) ps
  | unreachable {f : Fault} (transient : f.isTransient = true) : Offers (.error f) []

/-- The state after a search. -/
def State.sought (s : State σ) : Except Fault RuleSystem → State σ
  | .ok system => { s with current := system, fitness := 0.0, seeded := true, phase := .active }
  | .error _ => { s with phase := .searching }

variable [RandomSource σ] {surroundings : Surroundings σ} {c : Nat} {w : World σ}
  {settings : Settings} {ps : List Post}

/-- What a search comes to that begins in a state and finds messages. -/
def Searches (s : State σ) (ps : List Post) (r : Except Fault RuleSystem) (w : World σ) : Prop :=
  Seeds ps r ∧ w.state = s.sought r

theorem yields_adopt {s : State σ} (begun : w.state = { s with phase := .searching })
    (found : Option Text) (seeds : Seeds ps (seedSystem found)) :
    Yields surroundings c (do
      let system ← Session.ofOutcome (seedSystem found)
      Session.change (.seed system)
      return system) (Searches s ps) w := by
  cases hsystem : seedSystem found with
  | error f => exact ⟨hsystem ▸ seeds, begun⟩
  | ok system =>
      refine ⟨hsystem ▸ seeds, ?_⟩
      show (Change.seed system).apply w.state = _
      rw [begun]
      rfl

theorem yields_search
    (offers : Offers (surroundings.candidates (.changed c (.enter .searching) :: w.history)) ps) :
    Yields surroundings c (search settings) (Searches w.state ps) w := by
  refine yields_bind.2 (yields_change.2 (yields_bind.2 (yields_outcome.2 (yields_bind.2 ?_))))
  rw [yields_candidates, World.after_history]
  generalize surroundings.candidates (.changed c (.enter .searching) :: w.history) = posts at offers
  cases offers with
  | @unreachable f transient =>
      dsimp only
      rw [if_pos transient]
      exact yields_adopt rfl none (.fallback nofun)
  | messages textual =>
      obtain ⟨r, hr, seeds⟩ := exists_seeds (σ := σ) textual
      dsimp only
      rw [hr]
      cases r with
      | ok found => exact yields_adopt rfl found seeds
      | error f =>
          show Yields surroundings c (do
            let found ← if f.isTransient then pure none else throw f
            let system ← Session.ofOutcome (seedSystem found)
            Session.change (.seed system)
            return system) (Searches w.state ps) _
          rw [if_neg (Bool.eq_false_iff.1 seeds.isTransient_eq_false)]
          exact ⟨seeds, rfl⟩

theorem searches_call (settings : Settings)
    (offers : Offers (surroundings.candidates
      (.changed c (.enter .searching) :: .began c .search :: w.history)) ps) :
    ∃ r later, Seeds ps r ∧ w.call settings surroundings c .search =
      ⟨w.state.sought r, .ended c (r.map .system) :: later⟩ := by
  obtain ⟨r, w', ⟨seeds, hstate⟩, hcall⟩ :=
    (yields_search (w := w.after (.began c .search)) offers).call settings rfl
  have hsought : w'.state = w.state.sought r := hstate
  exact ⟨r, w'.history, seeds, hcall.trans (by rw [← hsought]; rfl)⟩

/-- The initial search adopts the first program with a rule that stands in a message, or the
fallback system if there is none or the channel cannot be reached, and keeps what the bot remembers
otherwise.  It ends with a fault only if a message in front of the first program cannot be read. -/
theorem call_search
    (offers : Offers (surroundings.candidates
      (.changed c (.enter .searching) :: .began c .search :: w.history)) ps) :
    ∃ r later, Seeds ps r ∧ (∀ system, r = .ok system → system.rules ≠ []) ∧
      w.call settings surroundings c .search =
        ⟨w.state.sought r, .ended c (r.map .system) :: later⟩ := by
  obtain ⟨r, later, seeds, hcall⟩ := searches_call settings offers
  refine ⟨r, later, seeds, ?_, hcall⟩
  rintro system rfl
  exact seeds.ne_nil

/-- A channel that holds messages. -/
def Surroundings.ofPosts (ps : List Post) : Surroundings Tape where
  candidates _ := .ok (ps.map .ok)

/-- A bot that has not done anything. -/
def unseededBot : World Tape := ⟨.initial ⟨[], 1, 0, 0, {}⟩ .null ⟨[], 0⟩, []⟩

/-- A message without a text, a clause without a response, a program without a rule, and a program
with one. -/
def fourPosts : List Post :=
  [⟨.null⟩, ⟨.str "FUNGISTART RULE:a FUNGIEND".toList⟩, ⟨.str "FUNGISTART FUNGIEND".toList⟩,
    ⟨.str "<p>FUNGISTART RULE:a|RESPONSE:b FUNGIEND</p>".toList⟩]

/-- A bot that has found them. -/
def fourPostsBot : World Tape :=
  unseededBot.call ⟨[], 1, 0, 0, {}⟩ (.ofPosts fourPosts) 0 .search

theorem call_search_fourPosts :
    (∀ p ∈ fourPosts, p.IsTextual) ∧
      fourPostsBot.state.current.program = "FUNGISTART RULE:a|RESPONSE:b FUNGIEND".toList ∧
      ∃ r later, Seeds fourPosts r ∧ (∀ system, r = .ok system → system.rules ≠ []) ∧
        fourPostsBot = ⟨unseededBot.state.sought r, .ended 0 (r.map .system) :: later⟩ := by
  have textual : ∀ p ∈ fourPosts, p.IsTextual := by
    simp [fourPosts, Post.IsTextual, Json.holds]
  exact ⟨textual, by decide +kernel, call_search (.messages textual)⟩

example : Program.parse .usual
    "FUNGISTART RULE:Hello|RESPONSE:Hello, Fediverse user! FUNGIEND".toList =
      .ok Publication.fallback := rfl

/-! ## A search that fails -/

/-- A reference with some digits. -/
def referenceOf (n : Nat) : Text := '&' :: '#' :: List.replicate n '1'

theorem exists_unread {n : Nat} (long : Number.digitLimit < n) :
    ∃ f, Content.plainText (.str (referenceOf n)) = .error f := by
  have untagged : '<' ∉ referenceOf n := by
    simp only [referenceOf, List.mem_cons, List.mem_replicate, not_or, not_and]
    exact ⟨by decide, by decide, fun _ => by decide⟩
  have overlong : Markup.HasOverlong (referenceOf n) := by
    refine ⟨List.replicate n '1', by rwa [List.length_replicate], ?_, List.infix_rfl⟩
    intro c hc
    rw [List.eq_of_mem_replicate hc]
    decide
  obtain ⟨e, unread⟩ := Markup.plainText_eq_error_iff.2 (by
    rwa [Markup.breakLines_of_not_mem untagged, Markup.dropTags_of_not_mem untagged])
  exact ⟨.number e, by rw [Content.plainText_str, unread]; rfl⟩

/-- A message with a reference of too many digits, and one with a program. -/
def overlongPosts : List Post :=
  [⟨.str (referenceOf 4301)⟩, ⟨.str "FUNGISTART RULE:a|RESPONSE:b FUNGIEND".toList⟩]

/-- A program is not found behind a message that cannot be read, and nothing is adopted. -/
theorem search_fails_at_overlongPosts :
    (∀ p ∈ overlongPosts, p.IsTextual) ∧ (∃ p ∈ overlongPosts, ∃ system, p.Holds system) ∧
      ∃ f later, unseededBot.call ⟨[], 1, 0, 0, {}⟩ (.ofPosts overlongPosts) 0 .search =
        ⟨unseededBot.state, .ended 0 (.error f) :: later⟩ := by
  have textual : ∀ p ∈ overlongPosts, p.IsTextual := by
    intro p hp _
    rcases List.mem_pair.1 hp with rfl | rfl
    · exact ⟨_, rfl⟩
    · exact ⟨_, rfl⟩
  have program :
      Program.isProgram .usual "FUNGISTART RULE:a|RESPONSE:b FUNGIEND".toList = true := by
    decide +kernel
  have read : Content.plainText (.str "FUNGISTART RULE:a|RESPONSE:b FUNGIEND".toList) =
      .ok "FUNGISTART RULE:a|RESPONSE:b FUNGIEND".toList := by
    rw [Content.plainText_str, Markup.plainText_of_not_mem (by decide) (by decide)]
    rfl
  have searches : ∃ r later, Seeds overlongPosts r ∧
      unseededBot.call ⟨[], 1, 0, 0, {}⟩ (.ofPosts overlongPosts) 0 .search =
        ⟨unseededBot.state.sought r, .ended 0 (r.map .system) :: later⟩ :=
    searches_call _ (.messages textual)
  obtain ⟨f, unread⟩ := exists_unread (n := 4301) (by decide)
  obtain ⟨r, later, seeds, hcall⟩ := searches
  obtain rfl := seeds.eq_error unread
  obtain ⟨system, -, holds⟩ := Post.holds_of_isProgram read program
  exact ⟨textual, ⟨_, List.mem_pair.2 (.inr rfl), system, holds⟩, f, later, hcall⟩

end Mycelium.Bot
