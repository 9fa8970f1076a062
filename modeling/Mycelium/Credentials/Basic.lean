import Mycelium.Credentials.Substitution
import Mycelium.Fault

/-!
# Credentials

The service knows a bot by five secrets.  Each is a variable of the environment,
or else an assignment of the credentials file.  Without the token of the bearer
nothing can be asked; the other four may be missing.
-/

namespace Mycelium

/-- The secrets by which the service knows a bot, each without blanks around it and
empty if it is missing. -/
structure Credentials where
  /-- The token of the bearer. -/
  bearer : Text
  /-- The key of the program. -/
  key : Text
  /-- The secret that belongs to the key. -/
  keySecret : Text
  /-- The token of the account. -/
  access : Text
  /-- The secret that belongs to the token of the account. -/
  accessSecret : Text
  deriving DecidableEq

namespace Credentials

/-- The secrets that a look-up finds. -/
def ofLookup (find : Text → Text) : Credentials where
  bearer := find "TWITTER_BEARER_TOKEN".toList
  key := find "TWITTER_API_KEY".toList
  keySecret := find "TWITTER_API_SECRET".toList
  access := find "TWITTER_ACCESS_TOKEN".toList
  accessSecret := find "TWITTER_ACCESS_TOKEN_SECRET".toList

/-- The variables of the secrets. -/
def sources : List Text :=
  let names := ofLookup id
  [names.bearer, names.key, names.keySecret, names.access, names.accessSecret]

/-- The secrets under the names of their variables. -/
def toEntries (c : Credentials) : Entries Text :=
  sources.zip [c.bearer, c.key, c.keySecret, c.access, c.accessSecret]

/-- The secrets of an environment, and of the values of a file where it has none. -/
def ofSources (env : Environment) (values : Entries (Option Text)) : Credentials :=
  ofLookup fun name =>
    Text.strip (((env.given? name).or ((values.get? name).getD none)).getD [])

/-- The assignments of a credentials file. -/
def assignments (file : File) : Except File.Fault (List Assignment) := do
  return ((← file.text?).map Assignment.ofText).getD []

/-- The secrets of an environment and a credentials file. -/
def load (env : Environment) (file : File) : Except File.Fault Credentials := do
  return ofSources env (Substitution.values env (← assignments file))

/-- The names whose values a credentials file asks for. -/
def references (file : File) : List Text :=
  match assignments file with
  | .ok as => as.flatMap fun a => (Substitution.slots (a.value.getD [])).map (·.name)
  | .error _ => []

/-- What is presented to the service: a token of the bearer, and the other secrets as
far as they are there. -/
structure Login where
  /-- The token of the bearer. -/
  bearer : Text
  /-- The key of the program. -/
  key : Option Text
  /-- The secret that belongs to the key. -/
  keySecret : Option Text
  /-- The token of the account. -/
  access : Option Text
  /-- The secret that belongs to the token of the account. -/
  accessSecret : Option Text
  deriving DecidableEq

/-- A text that is not empty. -/
def filled? (s : Text) : Option Text := if s.isEmpty then none else some s

/-- What credentials present to the service. -/
def login (c : Credentials) : Except Fault Login :=
  if c.bearer.isEmpty then .error .noToken
  else .ok ⟨c.bearer, filled? c.key, filled? c.keySecret, filled? c.access, filled? c.accessSecret⟩

/-- The secrets of credentials are found under the names of their variables. -/
theorem ofLookup_toEntries (c : Credentials) :
    ofLookup (fun name => (c.toEntries.get? name).getD []) = c := rfl

/-- Credentials present something exactly when they have a token of the bearer. -/
theorem login_isOk_iff {c : Credentials} : (∃ l, c.login = .ok l) ↔ c.bearer ≠ [] := by
  unfold login
  split
  · next h => simp_all
  · next h => simpa using h

end Credentials

end Mycelium
