import Mathlib.Data.List.DropRight
import Mycelium.Proofs.Interactions

/-!
# What cycles publish

The dealings of a call are what it has to do with the scorer, and what it publishes.  They
are read off the history, and so is what completed cycles have published.

The state follows event by event: only a completed cycle adds to the lineage and to the
count of cycles (`Reaches.accounts`).  A lineage with a limit keeps the last items that were
added (`Lineage.items_ofList`).

A system with a rule has a publication (`Publication.exists_forChannel`).
-/

namespace Mycelium

/-! ## Lineages -/

namespace Lineage

variable {α : Type}

theorem limit_append (l : Lineage α) (x : α) : (l.append x).limit = l.limit := by
  rw [append]
  split <;> rfl

theorem limit_ofList (limit : Int) (xs : List α) : (ofList limit xs).limit = limit := by
  induction xs using List.reverseRecOn with
  | nil => rfl
  | append_singleton xs x ih =>
      rw [ofList, List.foldl_append]
      exact (limit_append _ x).trans ih

theorem items_append {l : Lineage α} {n : Nat} (h : l.limit = (n + 1 : Nat)) (x : α) :
    (l.append x).items = (l.items ++ [x]).rtake (n + 1) := by
  have hpos : ((n + 1 : Nat) : Int) ≠ 0 := by omega
  rw [append, h, List.rtake]
  split
  · rw [Text.keepLast, if_neg (by omega), if_neg hpos, Int.toNat_natCast]
  · next hfits =>
      simp only [Bool.and_eq_true, decide_eq_true_eq, not_and] at hfits
      have hshort : (l.items ++ [x]).length ≤ n + 1 := Int.ofNat_le.1 (Int.not_lt.1 (hfits hpos))
      rw [Nat.sub_eq_zero_of_le hshort, List.drop_zero]

/-- To keep the last items before one more is added changes nothing. -/
theorem rtake_rtake_concat (n : Nat) (xs : List α) (x : α) :
    (xs.rtake (n + 1) ++ [x]).rtake (n + 1) = (xs ++ [x]).rtake (n + 1) := by
  rw [List.rtake_concat_succ, List.rtake_concat_succ]
  congr 1
  simp only [List.rtake_eq_reverse_take_reverse, List.reverse_reverse, List.take_take,
    Nat.min_eq_left (Nat.le_succ n)]

/-- A limit that is not negative keeps so many of the last items, and zero keeps all. -/
theorem items_ofList {limit : Int} (h : 0 ≤ limit) (xs : List α) :
    (ofList limit xs).items = if limit = 0 then xs else xs.rtake limit.toNat := by
  obtain ⟨n, rfl⟩ := Int.eq_ofNat_of_zero_le h
  rw [Int.toNat_natCast]
  induction xs using List.reverseRecOn with
  | nil => simp [ofList, empty]
  | append_singleton xs x ih =>
      have hstep : ofList n (xs ++ [x]) = (ofList n xs).append x := by
        rw [ofList, List.foldl_append]
        rfl
      cases n with
      | zero =>
          rw [if_pos Int.ofNat_zero] at ih ⊢
          rw [hstep, append, limit_ofList, ih]
          rfl
      | succ n =>
          have hpos : ((n + 1 : Nat) : Int) ≠ 0 := by omega
          rw [if_neg hpos] at ih ⊢
          rw [hstep, items_append (limit_ofList _ _), ih, rtake_rtake_concat]

end Lineage

/-! ## Publications -/

namespace Publication

theorem ofText_system {s : RuleSystem} {fitness hashtag : Text} {limit : Int} {p : Publication}
    (h : fitted? s fitness hashtag limit = some p) : p = ofText p.system fitness hashtag := by
  rw [fitted?] at h
  split at h
  · cases h
    rfl
  · split at h
    · cases h
      rfl
    · obtain ⟨r, -, rfl⟩ := Option.map_eq_some_iff.1 h
      rfl

theorem fitted?_ne_none {s : RuleSystem} (h : s.rules ≠ []) (fitness hashtag : Text)
    (limit : Int) : fitted? s fitness hashtag limit ≠ none := by
  obtain ⟨r, rs, hrules⟩ := List.exists_cons_of_ne_nil h
  rw [fitted?]
  split
  · exact Option.some_ne_none _
  · split
    · exact Option.some_ne_none _
    · rw [hrules]
      exact Option.some_ne_none _

/-- A system with a rule has a publication, and its message is that of the system as it is
published. -/
theorem exists_forChannel {s : RuleSystem} (h : s.rules ≠ []) (fitness : Float) (hashtag : Text)
    (limit : Int) : ∃ p, forChannel? s fitness hashtag limit = some p ∧
      p = ofScore p.system fitness hashtag := by
  obtain ⟨p, hp⟩ := Option.ne_none_iff_exists'.1
    (fitted?_ne_none h (plainLayout.text fitness) hashtag limit)
  rw [forChannel?, hp, Option.map_some]
  refine ⟨_, rfl, ?_⟩
  split
  · rfl
  · exact ofText_system hp

end Publication

theorem Content.plainText_ne_noRule (content : Json) : plainText content ≠ .error .noRule := by
  intro h
  rcases fault_of_plainText h with ⟨e, he⟩ | ⟨kind, hkind⟩
  · cases he
  · cases hkind

namespace Bot

variable {σ : Type}

/-! ## What completed cycles have published -/

/-- A completed cycle, and what it has published. -/
def Event.completion? : Event σ → Option (Nat × Scored)
  | .changed c (.complete published _ _ _) => some (c, published)
  | _ => none

/-- What the completed cycles have published, oldest first. -/
def completed (h : List (Event σ)) : List (Nat × Scored) := h.reverse.filterMap Event.completion?

/-- What a call has to do with the scorer, and what it publishes. -/
inductive Dealing where
  /-- The scorer was asked. -/
  | scored (r : Except Fault Float)
  /-- A message was to be published. -/
  | published (message : Text) (r : Except Fault Unit)

/-- What an event has to do with the scorer, or publishes. -/
def Event.dealing? : Event σ → Option Dealing
  | .answered _ (.score _ _) r => some (.scored r)
  | .answered _ (.publish message) r => some (.published message r)
  | _ => none

/-- The dealings of a call, oldest first. -/
def dealings (c : Nat) (h : List (Event σ)) : List Dealing :=
  (h.reverse.filter fun e => e.call = c).filterMap Event.dealing?

/-- The dealings of a completed cycle: it got the score, and published the system with it. -/
def dealingsOf (settings : Settings) (x : Scored) : List Dealing :=
  [.scored (.ok x.fitness),
    .published (Publication.ofScore x.system x.fitness settings.hashtag).message (.ok ())]

/-- What a collaborator brings with its answer: a fault, or messages of which one leads to it. -/
def Prompt.Brings (f : Fault) : (q : Prompt σ) → q.Answer → Prop
  | .look, _ => False
  | .change _, _ => False
  | .candidates _ _, r => r = .error f ∨ ∃ ps, r = .ok ps ∧ .error f ∈ ps
  | .mentions _, r => r = .error f ∨ ∃ ms, r = .ok ms ∧ .error f ∈ ms
  | .publish _, r => r = .error f
  | .reply _ _, r => r = .error f
  | .score _ _, r => r = .error f
  | .breed _ _ _ _, r => r.1 = .error f

/-- A collaborator has brought a fault to a call. -/
def Brought (f : Fault) (c : Nat) (h : List (Event σ)) : Prop :=
  ∃ q r, .answered c q r ∈ h ∧ q.Brings f r

section Engine

variable [RandomSource σ] {settings : Settings} {rates : Rates}

/-- The engine is that of the bot itself, but it may fail. -/
def Event.BredByOwn (rates : Rates) (_ : List (Event σ)) : Event σ → Prop
  | .answered _ (.breed published lineage others source) r =>
      r = ownEngine rates published lineage others source ∨ ∃ f, r.1 = .error f
  | _ => True

/-- So far the engine has been that of the bot itself, but it may have failed. -/
structure World.HasOwnEngine (rates : Rates) (w : World σ) : Prop where
  obeys : Obeys (Event.BredByOwn rates) w.history

theorem World.HasOwnEngine.start (s : State σ) : (⟨s, []⟩ : World σ).HasOwnEngine rates :=
  ⟨trivial⟩

theorem World.HasOwnEngine.calls {surroundings : Surroundings σ}
    (own : ∀ h, surroundings.breed h = ownEngine rates) (ops : List Operation) {w : World σ}
    (idle : w.IsIdle) (has : w.HasOwnEngine rates) :
    (w.calls settings surroundings ops).HasOwnEngine rates := by
  refine ⟨World.obeys_calls ⟨fun w c q => ?_, fun _ _ _ => trivial, fun _ _ _ => trivial⟩
    (fun _ _ _ => trivial) ops idle has.obeys⟩
  cases q with
  | breed published lineage others source => exact .inl (by rw [← own]; rfl)
  | _ => trivial

end Engine

variable {c d : Nat} {e : Event σ} {h : List (Event σ)} {w : World σ} {x : Scored}

theorem completed_cons (e : Event σ) (h : List (Event σ)) :
    completed (e :: h) = completed h ++ e.completion?.toList := by
  rw [completed, List.reverse_cons, List.filterMap_append]
  cases hc : e.completion? <;> simp [completed, hc]

theorem completed_cons_of_none (none : e.completion? = .none) :
    completed (e :: h) = completed h := by
  rw [completed_cons, none]
  exact List.append_nil _

theorem dealings_cons_of_ne (other : e.call ≠ c) : dealings c (e :: h) = dealings c h := by
  rw [dealings, List.reverse_cons, List.filter_append, List.filterMap_append]
  simp [dealings, other]

theorem dealings_cons (mine : e.call = c) :
    dealings c (e :: h) = dealings c h ++ e.dealing?.toList := by
  rw [dealings, List.reverse_cons, List.filter_append, List.filterMap_append]
  cases hd : e.dealing? <;> simp [dealings, mine, hd]

theorem dealings_cons_of_none (none : e.dealing? = .none) :
    dealings c (e :: h) = dealings c h := by
  by_cases mine : e.call = c
  · rw [dealings_cons mine, none]
    exact List.append_nil _
  · exact dealings_cons_of_ne mine

theorem call_of_completion? (completes : e.completion? = some (c, x)) : e.call = c := by
  cases e with
  | changed d ch =>
      cases ch with
      | complete published next scored source =>
          cases completes
          rfl
      | _ => cases completes
  | _ => cases completes

theorem mem_completed_cons (mem : (c, x) ∈ completed (e :: h)) :
    (c, x) ∈ completed h ∨ e.completion? = some (c, x) := by
  rw [completed_cons, List.mem_append] at mem
  exact mem.imp_right (Option.mem_toList.1 ·)

theorem hasCompleted_iff : HasCompleted c h ↔ ∃ x, (c, x) ∈ completed h := by
  constructor
  · rintro ⟨published, next, scored, source, hmem⟩
    exact ⟨published, List.mem_filterMap.2 ⟨_, List.mem_reverse.2 hmem, rfl⟩⟩
  · rintro ⟨x, hx⟩
    obtain ⟨e, he, heq⟩ := List.mem_filterMap.1 hx
    rw [List.mem_reverse] at he
    cases e with
    | changed d ch =>
        cases ch with
        | complete published next scored source =>
            cases heq
            exact ⟨_, _, _, _, he⟩
        | _ => cases heq
    | _ => cases heq

theorem Brought.cons {f : Fault} (brought : Brought f c h) : Brought f c (e :: h) := by
  obtain ⟨q, r, hmem, hbrings⟩ := brought
  exact ⟨q, r, List.mem_cons_of_mem e hmem, hbrings⟩

/-- Only completed cycles count, and only what they have published goes into the lineage. -/
theorem Reaches.accounts {settings : Settings} {s : State σ} {m : Moment σ}
    (reaches : Reaches settings s m) :
    m.world.state.cycles = s.cycles + (completed m.world.history).length ∧
      m.world.state.lineage =
        ((completed m.world.history).map Prod.snd).foldl Lineage.append s.lineage := by
  refine reaches.world_induction
    (P := fun w => w.state.cycles = s.cycles + (completed w.history).length ∧
      w.state.lineage = ((completed w.history).map Prod.snd).foldl Lineage.append s.lineage)
    ⟨rfl, rfl⟩ ?_
  rintro w e ⟨hcycles, hlineage⟩
  rw [World.after_history, completed_cons]
  cases e with
  | changed c ch =>
      cases ch with
      | complete published next scored source =>
          simp [World.after, Change.apply, Event.completion?, hcycles, hlineage, Nat.add_assoc]
      | _ => simpa [World.after, Change.apply, Event.completion?] using ⟨hcycles, hlineage⟩
  | _ => simpa [World.after, Event.completion?] using ⟨hcycles, hlineage⟩

end Bot

end Mycelium
