import Mycelium.Config.Override
import Mycelium.File

/-!
# The configuration

A value of the configuration comes from the first of three sources that has it: a
variable of the environment whose text can be read, the part `fungi` of the
tuneables file, and the defaults.  Values that have no default are kept as the
file has them.

The tuneables file holds an object with parts, which are objects too.  Whatever
else the file holds counts as no parts, and a part that is no object counts as
empty.

`get?_overridden` says that an override is heard before the other two sources.
-/

namespace Mycelium.Config

/-- The parts that a file holds. -/
def tuneables (file : File) : Except File.Fault Members := do
  match ← file.withoutMark.json? with
  | some (.obj ms) => return ms
  | _ => return []

/-- A part of the tuneables. -/
def part (ms : Members) (name : Text) : Members :=
  match ms.get? name with
  | some (.obj inner) => inner
  | _ => []

/-- The values that are there without any other source. -/
def defaults : Members := [
  ("enabled".toList, .bool true),
  ("mycelial_hashtag".toList, .str "fungifeed".toList),
  ("candidate_limit".toList, .int 30),
  ("lifecycle_interval".toList, .int 3600),
  ("answer_interval".toList, .int 180),
  ("lifecycle_enabled".toList, .bool true),
  ("answer_enabled".toList, .bool true),
  ("history_limit".toList, .int 0),
  ("fitness_scorer".toList, .str "constant".toList),
  ("max_message_chars".toList, .int 280)]

/-- A configuration after one override. -/
def overriddenBy (env : Environment) (config : Members) (o : Override) : Members :=
  match o.value? env with
  | some v => config.put o.key v
  | none => config

/-- A configuration after all overrides that an environment has. -/
def overridden (env : Environment) (config : Members) : Members :=
  overrides.foldl (overriddenBy env) config

/-- The configuration that an environment and the tuneables give. -/
def ofSources (env : Environment) (tuneables : Members) : Members :=
  overridden env (Entries.putAll defaults (part tuneables "fungi".toList))

/-- The configuration that an environment and a tuneables file give. -/
def load (env : Environment) (file : File) : Except File.Fault Members :=
  (tuneables file).map (ofSources env)

theorem get?_overriddenBy (env : Environment) (config : Members) (o : Override) (name : Text) :
    (overriddenBy env config o).get? name =
      (if o.key = name then o.value? env else none).or (config.get? name) := by
  unfold overriddenBy
  cases hv : o.value? env with
  | none => simp
  | some v =>
      rw [Entries.get?_put]
      by_cases hk : o.key = name <;> simp [hk]

theorem get?_foldl_overriddenBy (env : Environment) (os : List Override) (config : Members)
    (name : Text) (h : (os.map Override.key).Nodup) :
    (os.foldl (overriddenBy env) config).get? name =
      ((os.find? fun o => o.key = name).bind fun o => o.value? env).or (config.get? name) := by
  induction os generalizing config with
  | nil => rfl
  | cons o rest ih =>
      simp only [List.map_cons, List.nodup_cons] at h
      rw [List.foldl_cons, ih _ h.2, get?_overriddenBy]
      by_cases hk : o.key = name
      · have : (rest.find? fun o => o.key = name) = none := by
          rw [List.find?_eq_none]
          intro p hp hpn
          simp only [decide_eq_true_eq] at hpn
          exact h.1 (hk ▸ hpn ▸ List.mem_map_of_mem hp)
        simp [this, hk]
      · simp [hk]

/-- A look-up after all overrides finds what the override of that name gives, and what
was there before if there is none or it gives nothing. -/
theorem get?_overridden (env : Environment) (config : Members) (name : Text) :
    (overridden env config).get? name =
      ((overrides.find? fun o => o.key = name).bind fun o => o.value? env).or
        (config.get? name) :=
  get?_foldl_overriddenBy env overrides config name (by decide)

end Mycelium.Config
