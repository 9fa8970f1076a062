import Mycelium.Config.Basic
import Mycelium.Proofs.ByteOrder
import Mycelium.Proofs.Fallbacks
import Mycelium.Proofs.Objects

/-!
# Where a configured value comes from

A value of the configuration has three sources: a variable of the environment, a member of the
part `fungi` of the tuneables, and the defaults.  `load_by_precedence` says that under every name
stands the value of the first source that gives one.

* A variable gives a value if it has a text that is not empty and its reading takes that text
  (`Override.Gives`).  What each reading takes is said by `Reading.Reads`, without the reader.
* The file gives the value of a member (`IsSetTo`).  Names do not repeat in an object that is
  read, so there is at most one.

A variable that gives nothing leaves the value of the next source, which need not be the default,
and it might as well not be there.  A byte order mark in front of the file makes no difference
either (`load_markChar`).
-/

namespace Mycelium.Config

open Environment (onWords offWords)

variable {env : Environment} {file : File} {held : Option Json} {reading : Reading} {o : Override}
  {name raw : Text} {v : Json}

/-! ## What is read from a text -/

/-- A text is read as a value. -/
inductive Reading.Reads : Reading → Text → Json → Prop where
  | on {raw : Text} (word : Environment.word raw ∈ onWords) : Reads .truth raw (.bool true)
  | off {raw : Text} (word : Environment.word raw ∈ offWords) : Reads .truth raw (.bool false)
  | hashtag {raw : Text} {signs : Nat} {c : Char} {tag : Text} (noSign : c ≠ '#')
      (stripped : Text.strip raw = List.replicate signs '#' ++ c :: tag) :
      Reads .hashtag raw (.str (c :: tag))
  | positive {raw : Text} {n : Int} (denotes : Number.readInt raw = .ok n) (above : 0 < n) :
      Reads .positive raw (.int n)
  | integer {raw : Text} {n : Int} (denotes : Number.readInt raw = .ok n) :
      Reads .integer raw (.int n)
  | word (raw : Text) : Reads .word raw (.str (Environment.word raw))

theorem textOf_str (raw : Text) : textOf (.str raw) = raw := by
  cases raw <;> rfl

/-- No word turns something on and off. -/
theorem not_mem_onWords {word : Text} (h : word ∈ offWords) : word ∉ onWords := by
  have hdisjoint : ∀ w ∈ offWords, w ∉ onWords := by decide
  exact hdisjoint word h

theorem truth?_eq_some_iff {b : Bool} : Environment.truth? raw = some b ↔
    Environment.word raw ∈ if b then onWords else offWords := by
  rw [Environment.truth?, Environment.isOn]
  simp only [List.contains_iff_mem]
  by_cases hon : Environment.word raw ∈ onWords
  · have hoff : Environment.word raw ∉ offWords := fun h => not_mem_onWords h hon
    cases b <;> simp [hon, hoff]
  · by_cases hoff : Environment.word raw ∈ offWords <;> cases b <;> simp [hon, hoff]

theorem read_truth_eq_ok_iff :
    Reading.truth.read (.str raw) = .ok v ↔ Reading.truth.Reads raw v := by
  rw [Reading.read, textOf_str]
  constructor
  · intro h
    cases hb : Environment.truth? raw with
    | none => simp [hb] at h
    | some b =>
        simp only [hb, Except.ok.injEq] at h
        subst h
        have hword := truth?_eq_some_iff.1 hb
        cases b with
        | true => exact .on hword
        | false => exact .off hword
  · intro h
    cases h with
    | on hon =>
        have htrue : Environment.truth? raw = some true := truth?_eq_some_iff.2 hon
        rw [htrue]
    | off hoff =>
        have hfalse : Environment.truth? raw = some false := truth?_eq_some_iff.2 hoff
        rw [hfalse]

/-- A text without the number signs in front of it. -/
theorem dropWhile_signs_eq_cons_iff {text tag : Text} {c : Char} :
    text.dropWhile (· == '#') = c :: tag ↔
      c ≠ '#' ∧ ∃ signs, text = List.replicate signs '#' ++ c :: tag := by
  constructor
  · intro h
    have hc : (c == '#') = false := by
      have hhead := List.head?_dropWhile_not (· == '#') text
      simpa [h] using hhead
    refine ⟨by simpa using hc, (text.takeWhile (· == '#')).length, ?_⟩
    have hsigns : text.takeWhile (· == '#') =
        List.replicate (text.takeWhile (· == '#')).length '#' :=
      List.eq_replicate_iff.2 ⟨rfl, fun d hd => by simpa using List.mem_takeWhile_imp hd⟩
    rw [← hsigns, ← h, List.takeWhile_append_dropWhile]
  · rintro ⟨hc, signs, rfl⟩
    rw [List.dropWhile_append_of_pos (by simp), List.dropWhile_cons_of_neg (by simpa using hc)]

theorem read_hashtag_eq_ok_iff :
    Reading.hashtag.read (.str raw) = .ok v ↔ Reading.hashtag.Reads raw v := by
  rw [Reading.read, textOf_str]
  constructor
  · intro h
    cases htag : (Text.strip raw).dropWhile (· == '#') with
    | nil => simp [htag] at h
    | cons c tag =>
        obtain ⟨hc, signs, hstripped⟩ := dropWhile_signs_eq_cons_iff.1 htag
        simp only [htag, List.isEmpty_cons, Bool.false_eq_true, if_false] at h
        cases h
        exact .hashtag hc hstripped
  · intro h
    cases h with
    | hashtag noSign stripped =>
        simp [dropWhile_signs_eq_cons_iff.2 ⟨noSign, _, stripped⟩]

/-- What is read from an integer is read from a text that denotes one. -/
theorem readInteger_bind_eq_ok_iff {f : Int → Except Refusal Json} :
    readInteger (.str raw) >>= f = .ok v ↔ ∃ n, Number.readInt raw = .ok n ∧ f n = .ok v := by
  rw [readInteger, Json.toInt]
  cases Number.readInt raw <;> simp [Except.mapError, bind, Except.bind]

theorem read_positive_eq_ok_iff :
    Reading.positive.read (.str raw) = .ok v ↔ Reading.positive.Reads raw v := by
  rw [Reading.read, readInteger_bind_eq_ok_iff]
  constructor
  · rintro ⟨n, denotes, h⟩
    split at h
    · next above =>
        cases h
        exact .positive denotes above
    · cases h
  · intro h
    cases h with
    | positive denotes above => exact ⟨_, denotes, if_pos above⟩

theorem read_integer_eq_ok_iff :
    Reading.integer.read (.str raw) = .ok v ↔ Reading.integer.Reads raw v := by
  rw [Reading.read, readInteger_bind_eq_ok_iff]
  constructor
  · rintro ⟨n, denotes, h⟩
    cases h
    exact .integer denotes
  · intro h
    cases h with
    | integer denotes => exact ⟨_, denotes, rfl⟩

theorem read_word_eq_ok_iff :
    Reading.word.read (.str raw) = .ok v ↔ Reading.word.Reads raw v := by
  constructor
  · intro h
    cases h
    exact .word raw
  · intro h
    cases h
    rfl

/-- The reader takes a text as a value exactly when the text is read as that value. -/
theorem read_str_eq_ok_iff : reading.read (.str raw) = .ok v ↔ reading.Reads raw v := by
  cases reading with
  | truth => exact read_truth_eq_ok_iff
  | hashtag => exact read_hashtag_eq_ok_iff
  | positive => exact read_positive_eq_ok_iff
  | integer => exact read_integer_eq_ok_iff
  | word => exact read_word_eq_ok_iff

/-! ## What the environment gives -/

/-- A variable gives a value: it has a text, which is not empty and is read as the value. -/
def Override.Gives (o : Override) (env : Environment) (v : Json) : Prop :=
  ∃ raw, env.get? o.source = some raw ∧ raw ≠ [] ∧ o.reading.Reads raw v

theorem value?_eq_some_iff : o.value? env = some v ↔ o.Gives env v := by
  have hread (raw : Text) : (o.reading.read (.str raw)).toOption = some v ↔
      o.reading.Reads raw v := by
    rw [← read_str_eq_ok_iff]
    cases o.reading.read (.str raw) <;> simp [Except.toOption]
  rw [Override.value?, Option.bind_eq_some_iff]
  simp only [Environment.given?_eq_some_iff, hread, and_assoc, Override.Gives]

theorem value?_eq_none_iff : o.value? env = none ↔ ∀ v, ¬ o.Gives env v := by
  simp only [Option.eq_none_iff_forall_ne_some, ne_eq, value?_eq_some_iff]

/-- No two variables give values of the same name. -/
theorem override_unique {o p : Override} (ho : o ∈ overrides) (hp : p ∈ overrides)
    (h : o.key = p.key) : o = p := by
  have hnodup : (overrides.map Override.key).Nodup := by decide
  exact List.inj_on_of_nodup_map hnodup ho hp h

/-- What the environment gives under a name. -/
def given? (env : Environment) (name : Text) : Option Json :=
  (overrides.find? fun o => o.key = name).bind fun o => o.value? env

theorem given?_eq_some_iff :
    given? env name = some v ↔ ∃ o ∈ overrides, o.key = name ∧ o.Gives env v := by
  constructor
  · intro h
    obtain ⟨o, hfind, hv⟩ := Option.bind_eq_some_iff.1 h
    have hkey : o.key = name := by simpa using List.find?_some hfind
    exact ⟨o, List.mem_of_find?_eq_some hfind, hkey, value?_eq_some_iff.1 hv⟩
  · rintro ⟨o, ho, hkey, hgives⟩
    rw [given?]
    cases hfind : overrides.find? fun o => o.key = name with
    | none => exact absurd (by simpa using hkey) (List.find?_eq_none.1 hfind o ho)
    | some p =>
        have hpkey : p.key = name := by simpa using List.find?_some hfind
        cases override_unique (List.mem_of_find?_eq_some hfind) ho (hpkey.trans hkey.symm)
        exact value?_eq_some_iff.2 hgives

/-- No variable gives a value of this name. -/
def IsSilent (env : Environment) (name : Text) : Prop :=
  ∀ o ∈ overrides, o.key = name → ∀ v, ¬ o.Gives env v

theorem given?_eq_none_iff : given? env name = none ↔ IsSilent env name := by
  rw [Option.eq_none_iff_forall_ne_some]
  simp only [ne_eq, given?_eq_some_iff, IsSilent]
  constructor
  · intro h o ho hkey v hgives
    exact h v ⟨o, ho, hkey, hgives⟩
  · rintro h v ⟨o, ho, hkey, hgives⟩
    exact h o ho hkey v hgives

/-- A variable that gives no value might as well not be there. -/
theorem value?_erase {source : Text}
    (idle : o.source = source → ∀ v, ¬ o.Gives env v) :
    o.value? (env.erase source) = o.value? env := by
  by_cases h : o.source = source
  · have hgone : (Entries.erase env source).get? o.source = none := by
      rw [Entries.get?_erase, if_pos h.symm]
    rw [value?_eq_none_iff.2 (idle h), value?_eq_none_iff]
    rintro v ⟨raw, hraw, -⟩
    cases hgone.symm.trans hraw
  · rw [Override.value?, Override.value?, Environment.given?, Environment.given?,
      Entries.get?_erase, if_neg (Ne.symm h)]

/-- A configuration after all overrides depends on nothing but the values that they give. -/
theorem overridden_congr {env' : Environment} {config : Members}
    (h : ∀ o ∈ overrides, o.value? env' = o.value? env) :
    overridden env' config = overridden env config := by
  refine List.foldl_ext _ _ _ fun config o ho => ?_
  rw [overriddenBy, overriddenBy, h o ho]

/-! ## What the file gives -/

/-- A file that holds this sets a name to a value: there is such a member in its part `fungi`. -/
def IsSetTo (held : Option Json) (name : Text) (v : Json) : Prop :=
  ∃ parts ms, held = some (.obj parts) ∧ ("fungi".toList, .obj ms) ∈ parts ∧ (name, v) ∈ ms

theorem part_of_get? {parts ms : Members} (h : parts.get? name = some (.obj ms)) :
    part parts name = ms := by
  rw [part, h]

theorem part_of_not_obj {parts : Members} (h : ∀ ms, parts.get? name ≠ some (.obj ms)) :
    part parts name = [] := by
  rw [part]
  split
  · next ms hms => exact absurd hms (h ms)
  · rfl

theorem nodup_part {parts : Members} (h : Json.HasDistinctNames (.obj parts)) :
    (part parts name).names.Nodup := by
  cases h with
  | obj nodup members =>
      by_cases hobj : ∃ ms, parts.get? name = some (.obj ms)
      · obtain ⟨ms, hms⟩ := hobj
        rw [part_of_get? hms]
        cases members _ ((Entries.get?_eq_some_iff nodup).1 hms) with
        | obj nodup => exact nodup
      · rw [part_of_not_obj (not_exists.1 hobj)]
        exact List.nodup_nil

theorem get?_part_eq_some_iff {parts : Members} (h : Json.HasDistinctNames (.obj parts))
    {member : Text} : (part parts name).get? member = some v ↔
      ∃ ms, (name, .obj ms) ∈ parts ∧ (member, v) ∈ ms := by
  rw [Entries.get?_eq_some_iff (nodup_part h)]
  cases h with
  | obj nodup =>
      constructor
      · intro hv
        by_cases hobj : ∃ ms, parts.get? name = some (.obj ms)
        · obtain ⟨ms, hms⟩ := hobj
          rw [part_of_get? hms] at hv
          exact ⟨ms, (Entries.get?_eq_some_iff nodup).1 hms, hv⟩
        · rw [part_of_not_obj (not_exists.1 hobj)] at hv
          cases hv
      · rintro ⟨ms, hms, hv⟩
        rwa [part_of_get? ((Entries.get?_eq_some_iff nodup).2 hms)]

theorem hasDistinctNames_partsOf (h : file.Holds held) :
    Json.HasDistinctNames (.obj (partsOf held)) := by
  have hempty : Json.HasDistinctNames (.obj []) := .obj List.nodup_nil (by simp)
  cases held with
  | none => exact hempty
  | some w =>
      cases w with
      | obj parts => exact h.hasDistinctNames
      | _ => exact hempty

theorem isSetTo_iff : IsSetTo held name v ↔
    ∃ ms, ("fungi".toList, .obj ms) ∈ partsOf held ∧ (name, v) ∈ ms := by
  constructor
  · rintro ⟨parts, ms, rfl, hms, hv⟩
    exact ⟨ms, hms, hv⟩
  · rintro ⟨ms, hms, hv⟩
    cases held with
    | none => cases hms
    | some w =>
        cases w with
        | obj parts => exact ⟨parts, ms, rfl, hms, hv⟩
        | _ => cases hms

theorem get?_partsOf_eq_some_iff (h : file.Holds held) :
    (part (partsOf held) "fungi".toList).get? name = some v ↔ IsSetTo held name v := by
  rw [get?_part_eq_some_iff (hasDistinctNames_partsOf h), isSetTo_iff]

/-! ## The first source that gives a value -/

/-- What stands under a name: the value of the first source that gives one. -/
inductive Precedence (env : Environment) (held : Option Json) (name : Text) :
    Option Json → Prop where
  | environment {o : Override} {v : Json} (mem : o ∈ overrides) (key : o.key = name)
      (gives : o.Gives env v) : Precedence env held name (some v)
  | file {v : Json} (silent : IsSilent env name) (set : IsSetTo held name v) :
      Precedence env held name (some v)
  | usual (silent : IsSilent env name) (unset : ∀ v, ¬ IsSetTo held name v) :
      Precedence env held name (defaults.get? name)

/-- A look-up in a configuration asks the three sources in turn. -/
theorem get?_ofSources {parts : Members} (h : Json.HasDistinctNames (.obj parts)) :
    (ofSources env parts).get? name = (given? env name).or
      (((part parts "fungi".toList).get? name).or (defaults.get? name)) := by
  rw [ofSources, get?_overridden, Entries.get?_putAll, Entries.get?_reverse (nodup_part h), given?]

/-- A look-up finds what stands under a name by precedence, and nothing else does. -/
theorem get?_ofSources_eq_iff (h : file.Holds held) {found : Option Json} :
    (ofSources env (partsOf held)).get? name = found ↔ Precedence env held name found := by
  rw [get?_ofSources (hasDistinctNames_partsOf h)]
  constructor
  · rintro rfl
    cases hgiven : given? env name with
    | some v =>
        obtain ⟨o, ho, hkey, hgives⟩ := given?_eq_some_iff.1 hgiven
        exact .environment ho hkey hgives
    | none =>
        have hsilent := given?_eq_none_iff.1 hgiven
        cases hset : (part (partsOf held) "fungi".toList).get? name with
        | some v => exact .file hsilent ((get?_partsOf_eq_some_iff h).1 hset)
        | none =>
            refine .usual hsilent fun v hv => ?_
            cases hset.symm.trans ((get?_partsOf_eq_some_iff h).2 hv)
  · intro hfound
    cases hfound with
    | environment mem key gives => rw [given?_eq_some_iff.2 ⟨_, mem, key, gives⟩, Option.some_or]
    | file silent set =>
        rw [given?_eq_none_iff.2 silent, (get?_partsOf_eq_some_iff h).2 set, Option.none_or,
          Option.some_or]
    | usual silent unset =>
        have hunset : (part (partsOf held) "fungi".toList).get? name = none := by
          rw [Option.eq_none_iff_forall_ne_some]
          exact fun v hv => unset v ((get?_partsOf_eq_some_iff h).1 hv)
        rw [given?_eq_none_iff.2 silent, hunset, Option.none_or, Option.none_or]

/-! ## The names of a configuration -/

theorem nodup_overriddenBy {config : Members} (h : config.names.Nodup) (o : Override) :
    (overriddenBy env config o).names.Nodup := by
  rw [overriddenBy]
  split
  · exact Entries.nodup_put h _ _
  · exact h

theorem nodup_ofSources (env : Environment) (parts : Members) :
    (ofSources env parts).names.Nodup := by
  have hbase : (Entries.putAll defaults (part parts "fungi".toList)).names.Nodup :=
    Entries.nodup_putAll (by decide) _
  rw [ofSources, overridden]
  generalize Entries.putAll defaults (part parts "fungi".toList) = config at hbase
  induction overrides generalizing config with
  | nil => exact hbase
  | cons o os ih => exact ih _ (nodup_overriddenBy hbase o)

theorem Precedence.isSome {found : Option Json} (h : Precedence env held name found)
    (usual : name ∈ defaults.names) : found.isSome = true := by
  cases h with
  | environment => rfl
  | file => rfl
  | usual => exact Entries.isSome_get?_iff.2 usual

/-- A file that holds a value configures the same with a byte order mark in front of it. -/
theorem load_markChar (env : Environment) {s : Text} (h : (File.ofText s).Holds (some v)) :
    load env (.ofText (Text.markChar :: s)) = load env (.ofText s) := by
  have hmarked : (File.ofText (Text.markChar :: s)).withoutMark.Holds (some v) := by
    rwa [File.withoutMark_ofText_markChar]
  rw [load, load, tuneables_of_holds hmarked, tuneables_of_holds h.withoutMark]

/-- Unless the tuneables file is refused, there is a configuration, in which no name stands twice.
Under every name it has the value of the first source that gives one, and so it has every name
that has a default.  A variable that gives no value changes nothing. -/
theorem load_by_precedence (env : Environment) (h : file.withoutMark.Holds held) :
    ∃ config, load env file = .ok config ∧ config.names.Nodup ∧
      (∀ name found, config.get? name = found ↔ Precedence env held name found) ∧
      (∀ name ∈ defaults.names, name ∈ config.names) ∧
      ∀ source, (∀ o ∈ overrides, o.source = source → ∀ v, ¬ o.Gives env v) →
        load (env.erase source) file = .ok config := by
  have hload (env : Environment) : load env file = .ok (ofSources env (partsOf held)) := by
    rw [load, tuneables_of_holds h]
    rfl
  refine ⟨_, hload env, nodup_ofSources env _, fun _ _ => get?_ofSources_eq_iff h, ?_, ?_⟩
  · intro name hname
    have hfound : Precedence env held name _ := (get?_ofSources_eq_iff h).1 rfl
    exact Entries.isSome_get?_iff.1 (hfound.isSome hname)
  · intro source idle
    rw [hload, ofSources, overridden_congr fun o ho => value?_erase (idle o ho)]
    rfl

/-- A tuneables file with two members in its part. -/
def twoMembers : Text :=
  "\x7b\"fungi\": \x7b\"mycelial_hashtag\": \"sporenet\", \"candidate_limit\": 7\x7d\x7d".toList

theorem holds_twoMembers : (File.ofText twoMembers).Holds
    (some (.obj [("fungi".toList, .obj [("mycelial_hashtag".toList, .str "sporenet".toList),
      ("candidate_limit".toList, .int 7)])])) := by
  refine .value ?_
  -- The reader looks at the text often, so its characters are spelled out first.
  conv => lhs; arg 1; cbv
  rfl

/-- An environment with a hashtag, a limit that is no number and an empty interval. -/
def threeVariables : Environment :=
  [("FUNGI_HASHTAG".toList, "#hyphae".toList), ("FUNGI_CANDIDATE_LIMIT".toList, "lots".toList),
    ("FUNGI_ANSWER_INTERVAL".toList, [])]

theorem load_by_precedence_threeVariables : ∃ held config,
    (File.ofText twoMembers).withoutMark.Holds held ∧
    load threeVariables (File.ofText twoMembers) = .ok config ∧
    config.get? "mycelial_hashtag".toList = some (.str "hyphae".toList) ∧
    config.get? "candidate_limit".toList = some (.int 7) ∧
    config.get? "answer_interval".toList = some (.int 180) := by
  obtain ⟨config, hload, -, hfound, -⟩ :=
    load_by_precedence threeVariables holds_twoMembers.withoutMark
  have hsilent {name : Text} (h : given? threeVariables name = none) :
      IsSilent threeVariables name := given?_eq_none_iff.1 h
  refine ⟨_, config, holds_twoMembers.withoutMark, hload, ?_, ?_, ?_⟩
  · obtain ⟨o, ho, hkey, hgives⟩ := given?_eq_some_iff.1
      (show given? threeVariables "mycelial_hashtag".toList = some (.str "hyphae".toList) from rfl)
    exact (hfound _ _).2 (.environment ho hkey hgives)
  · exact (hfound _ _).2 (.file (hsilent rfl) ⟨_, _, rfl, List.mem_singleton_self _, by simp⟩)
  · refine (hfound _ _).2 (.usual (hsilent rfl) ?_)
    rintro v ⟨parts, ms, hheld, hms, hv⟩
    cases hheld
    cases List.mem_singleton.1 hms
    simp at hv

end Mycelium.Config
