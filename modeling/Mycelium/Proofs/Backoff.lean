import Mycelium.Proofs.Doubles
import Mycelium.Proofs.Exchanges
import Mycelium.Service.Channel

/-!
# The pause of a client

Every operation of a client is a session with the clock and the service, and `Proceeds` says
once what such a session can be: before each request the clock is read, nothing is passed on
during a pause, and what fails ends the session.  It is kept by `bind` and holds of `call`, so
it holds of all operations (`Operation.proceeds`).

From this follows `pauses_after_limit`, about every sequence of operations and whatever the
service and the clock answer.  For a pause to begin at all, its end has to be a time above
zero, which the sum of doubles is if the clock does not show a time before zero
(`zero_lt_add_backoff`).
-/

namespace Mycelium

namespace Service

open Float.Model Float.Model.UnpackedFloat Binary64

/-! ## The end of a pause -/

theorem unpack_zero : (0.0 : Float).toModel.unpack = .zero .positive := rfl

theorem unpack_backoffSeconds :
    backoffSeconds.toModel.unpack = .finite .positive 7916483719987200 (-43) (by decide) := rfl

/-- A double that is not unpacked as zero and has no minus is above zero. -/
inductive IsAboveZero : UnpackedFloat → Prop where
  | infinity : IsAboveZero (.infinity .positive)
  | finite (m : Nat) (q : Int) (hm : 0 < m) : IsAboveZero (.finite .positive m q hm)

theorem IsAboveZero.zero_lt {x : Float} (h : IsAboveZero x.toModel.unpack) : 0.0 < x := by
  refine decide_eq_true (show UnpackedFloat.lt _ _ = true from ?_)
  rw [unpack_zero]
  generalize x.toModel.unpack = u at h
  cases h <;> rfl

theorem isAboveZero_pack {m : Nat} {q : Int} (hm : 0 < m) (hfull : 2 ^ 52 ≤ m) (hlt : m < 2 ^ 53)
    (hq : -1074 ≤ q) : IsAboveZero (Float.Model.pack (.finite .positive m q hm)).unpack := by
  by_cases hgreatest : q ≤ 971
  · rw [unpack_pack ⟨hm, hlt, hq, hgreatest, .inl hfull⟩]
    exact .finite m q hm
  · rw [pack_of_large (Int.lt_of_not_ge hgreatest)]
    exact .infinity

theorem normalize_pos {n : Int} (h : 0 < n) (q : Int) (s : Sign) :
    UnpackedFloat.normalize .binary64 n q s =
      UnpackedFloat.round .binary64 .positive n.toNat q := by
  rw [UnpackedFloat.normalize, Int.compare_eq_gt.2 h]

/-- What is not below zero and a number with fifty-three bits have a sum above zero. -/
theorem isAboveZero_add {u : UnpackedFloat} (h : UnpackedFloat.le (.zero .positive) u = true)
    {k : Nat} {p : Int} (hk : IsCanonical k p) (hfull : 2 ^ 52 ≤ k) :
    IsAboveZero (Float.Model.pack (u.add .binary64 (.finite .positive k p hk.pos))).unpack := by
  have hleast := hk.least
  cases u with
  | notANumber => cases h
  | infinity s =>
      cases s with
      | negative => cases h
      | positive =>
          have hadd : UnpackedFloat.add .binary64 (.infinity .positive)
              (.finite .positive k p hk.pos) = .infinity .positive := rfl
          rw [hadd]
          exact .infinity
  | zero s => exact isAboveZero_pack hk.pos hfull hk.lt hleast
  | finite s m q hm =>
      cases s with
      | negative => cases h
      | positive =>
          let e : Int := min q p
          let n : Nat := m <<< (q - e).toNat + k <<< (p - e).toNat
          have hn : 2 ^ (52 + (p - e).toNat) ≤ n := by
            calc 2 ^ (52 + (p - e).toNat) = 2 ^ 52 * 2 ^ (p - e).toNat := Nat.pow_add ..
              _ ≤ k * 2 ^ (p - e).toNat := Nat.mul_le_mul_right _ hfull
              _ = k <<< (p - e).toNat := (Nat.shiftLeft_eq ..).symm
              _ ≤ n := Nat.le_add_left _ _
          have hpos : 0 < n := (Nat.two_pow_pos _).trans_le hn
          have hlog : 52 + (p - e).toNat ≤ n.log2 := (Nat.le_log2 hpos.ne').2 hn
          obtain ⟨j, r, hj, hround, hj52, hj53, hr⟩ :=
            exists_round (m := n) (e := e) (s := .positive) hpos.ne' (by omega)
          have hadd : UnpackedFloat.add .binary64 (.finite .positive m q hm)
              (.finite .positive k p hk.pos) = .finite .positive j r hj :=
            (normalize_pos (Int.natCast_pos.2 hpos) e .positive).trans hround
          rw [hadd]
          exact isAboveZero_pack hj hj52 hj53 hr

/-- A pause that does not start before the time zero ends after it. -/
theorem zero_lt_add_backoff {now : Float} (h : 0.0 ≤ now) : 0.0 < now + backoffSeconds := by
  have hle : UnpackedFloat.le (.zero .positive) now.toModel.unpack = true := of_decide_eq_true h
  have hpause : IsCanonical 7916483719987200 (-43) :=
    ⟨by decide, by decide, by decide, by decide, .inl (by decide)⟩
  have hsum : (now + backoffSeconds).toModel =
      .pack (now.toModel.unpack.add .binary64 backoffSeconds.toModel.unpack) := rfl
  refine IsAboveZero.zero_lt ?_
  rw [hsum, unpack_backoffSeconds]
  exact isAboveZero_add hle hpause (by decide)

/-! ## Sessions -/

/-- Questions to the clock and to the service with their answers. -/
abbrev Transcript := List (Exchange Prompt Prompt.Answer)

namespace Transcript

/-- The times that the clock shows. -/
def times (xs : Transcript) : List Float :=
  xs.filterMap fun
    | ⟨.clock, now⟩ => some now
    | ⟨.call _, _⟩ => none

/-- The requests that are passed on. -/
def requests (xs : Transcript) : List Request :=
  xs.filterMap fun
    | ⟨.clock, _⟩ => none
    | ⟨.call r, _⟩ => some r

/-- The requests that fail, and why. -/
def failures (xs : Transcript) : List (Request × Failure) :=
  xs.filterMap fun
    | ⟨.clock, _⟩ => none
    | ⟨.call _, .ok _⟩ => none
    | ⟨.call r, .error f⟩ => some (r, f)

end Transcript

/-- What a session comes to in which a request fails. -/
def Request.fault (r : Request) : Failure → Fault
  | .limited => .unreachable (r.method ++ ": rate limited".toList)
  | .failed m => .unreachable (r.method ++ " failed: ".toList ++ m)
  | .refused m => .failed .value m

/-- Whether a pause lasts until a time and has not ended. -/
def isPause (stop now : Float) : Bool := 0.0 < stop && now < stop

/-- How a session proceeds while a pause lasts until a time, and until when it lasts
afterwards. -/
inductive Proceeds {α : Type} : Float → Transcript → Except Fault α → Float → Prop where
  /-- Nothing more is asked. -/
  | done (stop : Float) (result : Except Fault α) : Proceeds stop [] result stop
  /-- A request is not passed on during a pause. -/
  | barred {stop now : Float} (r : Request) (pause : isPause stop now = true) :
      Proceeds stop [⟨.clock, now⟩]
        (.error (.unreachable (r.method ++ ": rate limit backoff active".toList))) stop
  /-- A request is answered. -/
  | answered {stop now : Float} {r : Request} {reply : r.Reply} {xs : Transcript}
      {result : Except Fault α} {stop' : Float} (free : isPause stop now = false)
      (rest : Proceeds stop xs result stop') :
      Proceeds stop (⟨.clock, now⟩ :: ⟨.call r, .ok reply⟩ :: xs) result stop'
  /-- There were too many requests, and a new pause begins. -/
  | limited {stop now : Float} (r : Request) (later : Float) (free : isPause stop now = false) :
      Proceeds stop [⟨.clock, now⟩, ⟨.call r, .error .limited⟩, ⟨.clock, later⟩]
        (.error (.unreachable (r.method ++ ": rate limited".toList))) (later + backoffSeconds)
  /-- The service or the way to it fails. -/
  | failed {stop now : Float} (r : Request) (m : Text) (free : isPause stop now = false) :
      Proceeds stop [⟨.clock, now⟩, ⟨.call r, .error (.failed m)⟩]
        (.error (.unreachable (r.method ++ " failed: ".toList ++ m))) stop
  /-- The request cannot be made. -/
  | refused {stop now : Float} (r : Request) (m : Text) (free : isPause stop now = false) :
      Proceeds stop [⟨.clock, now⟩, ⟨.call r, .error (.refused m)⟩] (.error (.failed .value m)) stop

namespace Proceeds

variable {α β : Type} {stop stop' stop'' : Float} {xs ys : Transcript}

theorem append {a : α} {result : Except Fault β} (h : Proceeds stop xs (.ok a) stop')
    (rest : Proceeds stop' ys result stop'') : Proceeds stop (xs ++ ys) result stop'' := by
  generalize hr : (.ok a : Except Fault α) = r at h
  induction h with
  | done => exact rest
  | answered free _ ih => exact .answered free (ih rest hr)
  | barred => cases hr
  | limited => cases hr
  | failed => cases hr
  | refused => cases hr

/-- A pause begins only after too many requests, at the time that the clock then shows, and
with this the session ends. -/
theorem stop_eq {result : Except Fault α} (h : Proceeds stop xs result stop') :
    (∀ r, (r, .limited) ∉ xs.failures) ∧ stop' = stop ∨
      ∃ ys r t, xs = ys ++ [⟨.call r, .error .limited⟩, ⟨.clock, t⟩] ∧
        stop' = t + backoffSeconds := by
  induction h with
  | done => exact .inl ⟨fun r => List.not_mem_nil, rfl⟩
  | barred r pause => exact .inl ⟨fun r => List.not_mem_nil, rfl⟩
  | answered free rest ih =>
      rcases ih with ⟨hnone, hstop⟩ | ⟨ys, r, t, rfl, hstop⟩
      · exact .inl ⟨hnone, hstop⟩
      · exact .inr ⟨_ :: _ :: ys, r, t, rfl, hstop⟩
  | limited r later free => exact .inr ⟨[_], r, later, rfl, rfl⟩
  | failed r m free => exact .inl ⟨fun r => by simp [Transcript.failures], rfl⟩
  | refused r m free => exact .inl ⟨fun r => by simp [Transcript.failures], rfl⟩

theorem result_eq {result : Except Fault α} (h : Proceeds stop xs result stop') {r : Request}
    {f : Failure} (hf : (r, f) ∈ xs.failures) :
    result = .error (r.fault f) := by
  induction h with
  | done => exact (List.not_mem_nil hf).elim
  | barred r pause => exact (List.not_mem_nil hf).elim
  | answered free rest ih => exact ih hf
  | limited r later free =>
      cases List.mem_singleton.1 hf
      rfl
  | failed r m free =>
      cases List.mem_singleton.1 hf
      rfl
  | refused r m free =>
      cases List.mem_singleton.1 hf
      rfl

/-- As long as the clock shows times within a pause, a session passes nothing on, and if it
asks anything, the service is unreachable. -/
theorem of_pause {result : Except Fault α} (h : Proceeds stop xs result stop')
    (hpause : ∀ now ∈ xs.times, isPause stop now = true) :
    xs.requests = [] ∧ stop' = stop ∧ (xs ≠ [] → ∃ m, result = .error (.unreachable m)) := by
  have hfirst {now : Float} {ys : Transcript} (free : isPause stop now = false)
      (hxs : xs = ⟨.clock, now⟩ :: ys) : False := by
    have hnow := hpause now (hxs ▸ List.mem_cons_self)
    rw [free] at hnow
    cases hnow
  cases h with
  | done => exact ⟨rfl, rfl, fun h => absurd rfl h⟩
  | barred r pause => exact ⟨rfl, rfl, fun _ => ⟨_, rfl⟩⟩
  | answered free rest => exact (hfirst free rfl).elim
  | limited r later free => exact (hfirst free rfl).elim
  | failed r m free => exact (hfirst free rfl).elim
  | refused r m free => exact (hfirst free rfl).elim

theorem error {e : Fault} (h : Proceeds stop xs (.error e : Except Fault α) stop') :
    Proceeds stop xs (.error e : Except Fault β) stop' := by
  generalize hr : (.error e : Except Fault α) = r at h
  induction h with
  | done => exact .done ..
  | answered free _ ih => exact .answered free (ih hr)
  | barred r pause =>
      cases hr
      exact .barred r pause
  | limited r later free =>
      cases hr
      exact .limited r later free
  | failed r m free =>
      cases hr
      exact .failed r m free
  | refused r m free =>
      cases hr
      exact .refused r m free

end Proceeds

namespace Session

variable {α β : Type}

/-- A session proceeds as sessions do, whatever the client remembers and is answered. -/
def IsCareful (s : Session α) : Prop :=
  ∀ (c c' : Client) (xs : Transcript) (r : Except Fault α),
    (s.run.run c).Runs xs (r, c') → Proceeds c.backoffUntil xs r c'.backoffUntil

theorem isCareful_pure (a : α) : IsCareful (pure a) := by
  intro c c' xs r h
  cases h
  exact .done ..

theorem isCareful_throw (e : Fault) : IsCareful (throw e : Session α) := by
  intro c c' xs r h
  cases h
  exact .done ..

theorem isCareful_get : IsCareful (get : Session Client) := by
  intro c c' xs r h
  cases h
  exact .done ..

/-- To remember the account changes no pause. -/
theorem isCareful_modify {f : Client → Client} (h : ∀ c, (f c).backoffUntil = c.backoffUntil) :
    IsCareful (modify f : Session PUnit) := by
  intro c c' xs r hr
  cases hr
  rw [h]
  exact .done ..

theorem IsCareful.bind {s : Session α} {f : α → Session β} (hs : IsCareful s)
    (hf : ∀ a, IsCareful (f a)) : IsCareful (s >>= f) := by
  intro c c' xs r h
  obtain ⟨ys, zs, ⟨a, c₁⟩, rfl, hd, hrest⟩ := Dialogue.Runs.of_bind h
  have hfirst := hs c c₁ ys a hd
  cases a with
  | ok a => exact hfirst.append (hf a c₁ c' zs r hrest)
  | error e =>
      cases hrest
      rw [List.append_nil]
      exact hfirst.error

theorem run_call (r : Request) (c : Client) :
    (call r).run.run c = .ask .clock fun now =>
      if c.isBackedOff now then
        .done (.error (.unreachable (r.method ++ ": rate limit backoff active".toList)), c)
      else .ask (.call r) fun a =>
        match a with
        | .ok reply => .done (.ok reply, c)
        | .error .limited => .ask .clock fun later =>
            .done (.error (.unreachable (r.method ++ ": rate limited".toList)), c.limited later)
        | .error (.failed m) =>
            .done (.error (.unreachable (r.method ++ " failed: ".toList ++ m)), c)
        | .error (.refused m) => .done (.error (.failed .value m), c) := by
  refine congrArg (Dialogue.ask Prompt.clock) (funext fun now => ?_)
  change ((if c.isBackedOff now then _ else _ : Session r.Reply).run.run c) = _
  split
  · rfl
  · refine congrArg (Dialogue.ask (Prompt.call r)) (funext fun a => ?_)
    rcases a with (_ | m | m) | reply <;> rfl

theorem isCareful_call (r : Request) : IsCareful (call r) := by
  intro c c' xs result h
  rw [run_call] at h
  cases h with
  | ask h =>
      dsimp only at h
      split at h
      · next pause =>
          cases h
          exact .barred r pause
      · next free =>
          have free : isPause c.backoffUntil _ = false := Bool.eq_false_iff.2 free
          cases h with
          | @ask _ _ a _ _ h =>
              rcases a with (_ | m | m) | reply
              · cases h with
                | @ask _ _ later _ _ h =>
                    cases h
                    exact .limited r later free
              · cases h
                exact .failed r m free
              · cases h
                exact .refused r m free
              · cases h
                exact .answered free (.done ..)

end Session

/-! ## Operations -/

/-- What is asked of a client. -/
inductive Operation where
  /-- The account of the bot. -/
  | account
  /-- The latest posts under a hashtag, at most so many. -/
  | candidates (tag : Text) (limit : Json)
  /-- The mentions of the bot, newer than a mark. -/
  | mentions (since : Json)
  /-- A post. -/
  | publish (text : Text)
  /-- An answer to a post. -/
  | reply (text : Text) (target : Json)

namespace Operation

/-- What an operation returns. -/
abbrev Result : Operation → Type
  | account => Account
  | candidates _ _ => List Post
  | mentions _ => List Mention
  | publish _ => Option Text
  | reply _ _ => Option Text

/-- The session of an operation. -/
def session : (op : Operation) → Session op.Result
  | account => Service.account
  | candidates tag limit => Service.candidates tag limit
  | mentions since => Service.mentions since
  | publish text => Service.publish text
  | reply text target => Service.reply text target

/-- Whether an operation cannot do without the service: the account is asked for once, the
limit of a search has to be an integer, and what is answered has to have an id. -/
def NeedsService (c : Client) : Operation → Prop
  | account => c.account = none
  | candidates _ limit => ∃ n, limit.toInt = .ok n
  | mentions _ => True
  | publish _ => True
  | reply _ target => ∃ id, answeredId target = .ok id

end Operation

namespace Session

theorem isCareful_account : IsCareful account := by
  rw [account]
  refine isCareful_get.bind fun c => ?_
  split
  · exact isCareful_pure _
  · refine (isCareful_call .account).bind fun a => ?_
    split
    · refine IsCareful.bind (isCareful_modify ?_) fun _ => isCareful_pure _
      exact fun _ => rfl
    · exact isCareful_throw _

theorem isCareful_candidates (tag : Text) (limit : Json) : IsCareful (candidates tag limit) := by
  rw [candidates]
  refine IsCareful.bind ?_ fun n => (isCareful_call _).bind fun posts => isCareful_pure _
  rw [integer]
  split
  · exact isCareful_pure _
  · exact isCareful_throw _

theorem isCareful_mentions (since : Json) : IsCareful (mentions since) := by
  rw [mentions]
  refine isCareful_account.bind fun me => (isCareful_call _).bind fun found => ?_
  dsimp only
  split
  · exact isCareful_pure _
  · exact isCareful_throw _

theorem isCareful_publish (text : Text) : IsCareful (publish text) :=
  (isCareful_call _).bind fun _ => isCareful_pure _

theorem isCareful_reply (text : Text) (target : Json) : IsCareful (reply text target) := by
  rw [reply]
  split
  · exact (isCareful_call _).bind fun _ => isCareful_pure _
  · exact isCareful_throw _

end Session

theorem Operation.isCareful_session (op : Operation) : op.session.IsCareful := by
  cases op with
  | account => exact Session.isCareful_account
  | candidates tag limit => exact Session.isCareful_candidates tag limit
  | mentions since => exact Session.isCareful_mentions since
  | publish text => exact Session.isCareful_publish text
  | reply text target => exact Session.isCareful_reply text target

/-- What needs the service asks something. -/
theorem Operation.asks_of_needsService {op : Operation} {c : Client} (h : op.NeedsService c) :
    ∃ q next, op.session.run.run c = .ask q next := by
  cases op with
  | account =>
      obtain ⟨account, stop⟩ := c
      cases h
      exact ⟨_, _, rfl⟩
  | candidates tag limit =>
      obtain ⟨n, hn⟩ := h
      have hlimit : integer limit = pure n := by rw [integer, hn]
      rw [session, Service.candidates, hlimit]
      exact ⟨_, _, rfl⟩
  | mentions since =>
      obtain ⟨_ | account, stop⟩ := c
      · exact ⟨_, _, rfl⟩
      · exact ⟨_, _, rfl⟩
  | publish text => exact ⟨_, _, rfl⟩
  | reply text target =>
      obtain ⟨id, hid⟩ := h
      rw [session, Service.reply, hid]
      exact ⟨_, _, rfl⟩

/-! ## Sequences of operations -/

/-- An operation that was carried out. -/
structure Deed where
  /-- The operation. -/
  operation : Operation
  /-- The client before it. -/
  before : Client
  /-- What was asked, and the answers. -/
  exchanges : Transcript
  /-- What the operation came to. -/
  result : Except Fault operation.Result
  /-- The client after it. -/
  after : Client
  /-- This is how the session of the operation goes. -/
  runs : (operation.session.run.run before).Runs exchanges (result, after)

namespace Deed

theorem proceeds (d : Deed) :
    Proceeds d.before.backoffUntil d.exchanges d.result d.after.backoffUntil :=
  d.operation.isCareful_session _ _ _ _ d.runs

/-- The last request was one too many, and the clock then showed a time. -/
def IsLimitedAt (d : Deed) (t : Float) : Prop :=
  ∃ xs r, d.exchanges = xs ++ [⟨.call r, .error .limited⟩, ⟨.clock, t⟩]

theorem exchanges_ne_nil {d : Deed} (h : d.operation.NeedsService d.before) :
    d.exchanges ≠ [] := by
  obtain ⟨q, next, hask⟩ := Operation.asks_of_needsService h
  have hruns := d.runs
  rw [hask] at hruns
  generalize d.exchanges = xs at hruns
  cases hruns
  exact List.cons_ne_nil _ _

theorem IsLimitedAt.backoffUntil_eq {d : Deed} {t : Float} (h : d.IsLimitedAt t) :
    d.after.backoffUntil = t + backoffSeconds := by
  obtain ⟨xs, r, hxs⟩ := h
  rcases d.proceeds.stop_eq with ⟨hnone, -⟩ | ⟨ys, q, t', hys, hstop⟩
  · refine absurd ?_ (hnone r)
    rw [hxs, Transcript.failures, List.filterMap_append]
    exact List.mem_append_right _ List.mem_cons_self
  · have hlast := (List.append_inj' (hxs.symm.trans hys) rfl).2
    cases hlast
    exact hstop

end Deed

/-- Operations that are carried out one after the other. -/
def Follows : Client → List Deed → Prop
  | _, [] => True
  | c, d :: ds => d.before = c ∧ Follows d.after ds

theorem Follows.of_append {c : Client} {ds es : List Deed} (h : Follows c (ds ++ es)) :
    ∃ c', Follows c' es := by
  induction ds generalizing c with
  | nil => exact ⟨c, h⟩
  | cons d ds ih => exact ih h.2

/-- As long as the clock shows times within a pause, nothing is passed on, and what needs the
service finds it unreachable. -/
theorem Follows.of_pause {c : Client} {ds : List Deed} (h : Follows c ds)
    (hpos : 0.0 < c.backoffUntil)
    (hpause : ∀ d ∈ ds, ∀ now ∈ d.exchanges.times, now < c.backoffUntil) :
    ∀ d ∈ ds, d.exchanges.requests = [] ∧
      (d.operation.NeedsService d.before → ∃ m, d.result = .error (.unreachable m)) := by
  induction ds generalizing c with
  | nil => exact fun d hd => (List.not_mem_nil hd).elim
  | cons d ds ih =>
      obtain ⟨rfl, hrest⟩ := h
      have hnow : ∀ now ∈ d.exchanges.times, isPause d.before.backoffUntil now = true := by
        intro now hnow
        have hlt := hpause d List.mem_cons_self now hnow
        simp only [isPause, Bool.and_eq_true]
        exact ⟨decide_eq_true hpos, decide_eq_true hlt⟩
      obtain ⟨hnone, hstop, hresult⟩ := d.proceeds.of_pause hnow
      rintro e (_ | ⟨_, he⟩)
      · exact ⟨hnone, fun hneeds => hresult (Deed.exchanges_ne_nil hneeds)⟩
      · refine ih hrest (hstop ▸ hpos) (fun d' hd' => ?_) e he
        rw [hstop]
        exact hpause d' (List.mem_cons_of_mem _ hd')

/-- Whatever is asked of a client one after the other, and whatever it is answered: the end of
the pause is changed only by a request that was one too many, and is then 900 seconds, by the
sum of doubles, after the time that the clock shows.  A failure of the service makes it
unreachable for the operation.  After too many requests nothing is passed on until then, and
everything that needs the service finds it unreachable. -/
theorem pauses_after_limit {c : Client} {ds : List Deed} (h : Follows c ds) :
    (∀ d ∈ ds,
      ((∀ r, (r, .limited) ∉ d.exchanges.failures) ∧
          d.after.backoffUntil = d.before.backoffUntil ∨
        ∃ t, d.IsLimitedAt t ∧ d.after.backoffUntil = t + 900.0) ∧
      (∀ r, (r, .limited) ∈ d.exchanges.failures →
        d.result = .error (.unreachable (r.method ++ ": rate limited".toList))) ∧
      ∀ r m, (r, .failed m) ∈ d.exchanges.failures →
        d.result = .error (.unreachable (r.method ++ " failed: ".toList ++ m))) ∧
    ∀ earlier d later t, ds = earlier ++ d :: later → d.IsLimitedAt t → 0.0 ≤ t →
      (∀ e ∈ later, ∀ now ∈ e.exchanges.times, now < t + 900.0) →
      ∀ e ∈ later, e.exchanges.requests = [] ∧
        (e.operation.NeedsService e.before → ∃ m, e.result = .error (.unreachable m)) := by
  refine ⟨fun d _ => ⟨?_, fun r hr => d.proceeds.result_eq hr,
    fun r m hr => d.proceeds.result_eq hr⟩, ?_⟩
  · rcases d.proceeds.stop_eq with hnone | ⟨ys, r, t, hys, hstop⟩
    · exact .inl hnone
    · exact .inr ⟨t, ⟨ys, r, hys⟩, hstop⟩
  · rintro earlier d later t rfl hlimited ht hnow
    obtain ⟨c', -, hlater⟩ := h.of_append
    have hstop := hlimited.backoffUntil_eq
    refine hlater.of_pause ?_ ?_
    · rw [hstop]
      exact zero_lt_add_backoff ht
    · rw [hstop]
      exact hnow

/-- The client is asked for its account, which is one request too many at the time 100. -/
def limitedAccount : Deed where
  operation := .account
  before := {}
  exchanges := [⟨.clock, 50.0⟩, ⟨.call .account, .error .limited⟩, ⟨.clock, 100.0⟩]
  result := .error (.unreachable "get_me: rate limited".toList)
  after := Client.limited {} 100.0
  runs := .ask (.ask (.ask (.done _)))

/-- The client is then asked for the mentions, shortly before the time 1000. -/
def barredMentions : Deed where
  operation := .mentions .null
  before := Client.limited {} 100.0
  exchanges := [⟨.clock, 999.5⟩]
  result := .error (.unreachable "get_me: rate limit backoff active".toList)
  after := Client.limited {} 100.0
  runs := .ask (.done _)

/-- Between the times 100 and 1000 the mentions are out of reach. -/
theorem pauses_after_limit_barredMentions :
    Follows {} [limitedAccount, barredMentions] ∧ limitedAccount.IsLimitedAt 100.0 ∧
      barredMentions.exchanges.requests = [] ∧
      ∃ m, barredMentions.result = .error (.unreachable m) := by
  have hfollows : Follows {} [limitedAccount, barredMentions] := ⟨rfl, rfl, trivial⟩
  have hlimited : limitedAccount.IsLimitedAt 100.0 := ⟨[_], _, rfl⟩
  have hpause : ∀ e ∈ [barredMentions], ∀ now ∈ e.exchanges.times, now < 100.0 + 900.0 := by
    intro e he now hnow
    cases List.mem_singleton.1 he
    cases List.mem_singleton.1 hnow
    decide
  obtain ⟨hnone, hresult⟩ := (pauses_after_limit hfollows).2 [] limitedAccount [barredMentions]
    100.0 rfl hlimited (by decide) hpause barredMentions List.mem_cons_self
  exact ⟨hfollows, hlimited, hnone, hresult trivial⟩

end Service

end Mycelium
