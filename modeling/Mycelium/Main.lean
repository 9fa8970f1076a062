import Mycelium.Credentials.Basic
import Mycelium.Random.Generator
import Mycelium.Scheduler.Daemon
import Mycelium.Scheduler.Places
import Mycelium.Service.Channel
import Std.Time.DateTime.Timestamp

/-!
# The command line

The scheduler as a program: it reads and writes the files of the bot, takes the time
from the clock, and passes every request to the service on as a JSON line on standard
output.  The response is read as a JSON line from standard input: an object with
`data` and `includes`, or with `raise` and `message`.
-/

namespace Mycelium.Outside

/-- What there is at a path. -/
def readFile (path : Text) : IO File := do
  try return .bytes (← IO.FS.readBinFile (String.ofList path))
  catch
    | .noFileOrDirectory .. => return .missing
    | _ => return .directory

/-- Whether there is a directory once it was tried to make it. -/
def makeDirectory (path : Text) : IO Bool := do
  try
    IO.FS.createDirAll (String.ofList path)
    return true
  catch _ => return false

/-- A text is written to a file, if that can be done. -/
def writeFile (path text : Text) : IO Unit := do
  try IO.FS.writeFile (String.ofList path) (String.ofList text)
  catch _ => return

/-- The variables of the environment that have one of these names. -/
def readVariables (names : List Text) : IO Environment :=
  names.filterMapM fun name => do
    return (← IO.getEnv (String.ofList name)).map fun v => (name, v.toList)

/-- The variables that the program reads. -/
def variablesRead : List Text :=
  Config.overrides.map Config.Override.source ++ Credentials.sources ++
    [Scheduler.Places.homeVariable, Scheduler.Places.credentialsVariable, "HOME".toList]

/-- The time in seconds. -/
def time : IO Float := do
  return Float.ofInt (← Std.Time.Timestamp.now).toNanosecondsSinceUnixEpoch.val / 1000000000.0

/-- A random source with a seed of its own. -/
def freshSource : IO Generator := do
  let seed := (← IO.getRandomBytes 8).foldl (fun n b => 256 * n + b.toNat) 0
  return .congruential (.ofSeed seed)

/-- The response that a line gives to a request. -/
def responseOf (r : Service.Request) (line : Text) : Except Service.Failure r.Reply :=
  match Json.parse line with
  | .error _ => .error (.failed "no response".toList)
  | .ok v =>
      let text (name : String) : Text := ((Service.member v name).orElse (.str [])).shown
      let message := text "message"
      match text "raise" with
      | [] => .ok (r.reply (some ⟨Service.member v "data", Service.member v "includes"⟩))
      | cause =>
          if cause = "limited".toList then .error .limited
          else if cause = "refused".toList then .error (.refused message)
          else .error (.failed message)

/-- A request is passed on, and its response is read. -/
def request (r : Service.Request) : IO (Except Service.Failure r.Reply) := do
  let question : Json :=
    .obj [("method".toList, .str r.method), ("arguments".toList, .obj r.arguments)]
  let output ← IO.getStdout
  output.putStrLn (String.ofList (question.written.filter (· != '\n')))
  output.flush
  return responseOf r (← (← IO.getStdin).getLine).toList

/-- How the outside answers a client. -/
def answerClient : (q : Service.Prompt) → IO (Service.Prompt.Answer q)
  | .clock => time
  | .call r => request r

/-- What changes while the program runs. -/
structure Running where
  /-- The bot. -/
  bot : Bot.State Generator
  /-- The client of the service. -/
  client : Service.Client := {}

/-- A session of the client. -/
def withClient {α : Type} (running : IO.Ref Running) (s : Service.Session α) :
    IO (Except Fault α) := do
  let (r, client) ← (s.run.run (← running.get).client).conduct answerClient
  running.modify fun x => { x with client }
  return r

/-- How the outside answers a bot. -/
def answerBot (start : Scheduler.Start) (running : IO.Ref Running) :
    (q : Bot.Prompt Generator) → IO (Bot.Prompt.Answer q)
  | .look => return (← running.get).bot
  | .change c => running.modify fun x => { x with bot := c.apply x.bot }
  | .candidates tag limit => withClient running (Service.botPosts tag limit)
  | .mentions since => withClient running (Service.botMentions since)
  | .publish message => withClient running (Service.botPublish message)
  | .reply text m => withClient running (Service.botReply text m)
  | .score _ log => return .ok (start.scorer.score log)
  | .breed published lineage others source =>
      return Bot.ownEngine start.settings.rates published lineage others source

/-- How the outside answers a scheduler. -/
def answerScheduler (places : Scheduler.Places) (start : Scheduler.Start)
    (running : IO.Ref Running) :
    (q : Scheduler.Prompt Generator) → IO (Scheduler.Prompt.Answer q)
  | .bot q => answerBot start running q
  | .clock => time
  | .directory => makeDirectory places.directory
  | .save text => writeFile places.state text
  | .beat text => writeFile places.heartbeat text
  | .wait seconds => do
      IO.sleep (seconds * 1000).toUInt32
      return false

/-- A fault is reported. -/
def complain (f : Fault) : IO UInt32 := do
  IO.eprintln (String.ofList f.message)
  return 1

/-- Rounds without end. -/
partial def serveOn
    (perform : Members → Scheduler.Run Generator Unit → IO (Except Fault Unit × Members))
    (start : Scheduler.Start) (state : Members) : IO UInt32 := do
  let (_, state) ← perform state (Scheduler.serve start 1)
  serveOn perform start state

/-- The program, once it is known what it starts with. -/
def runFrom (places : Scheduler.Places) (args : Scheduler.Arguments) (start : Scheduler.Start) :
    IO UInt32 := do
  let running ← IO.mkRef { bot := start.bot (← freshSource) : Running }
  let perform (state : Members) (r : Scheduler.Run Generator Unit) :
      IO (Except Fault Unit × Members) :=
    (r.run.run state).conduct (answerScheduler places start running)
  let (r, state) ← perform start.state (Scheduler.daemon start args 0)
  match r with
  | .error f => complain f
  | .ok () => if args.isSingle then return 0 else serveOn perform start state

/-- How the program is called. -/
def usage : String :=
  "usage: mycelium [--help] [--once] [--task answer_mentions|lifecycle] [--force]"

/-- The program with the files of an environment. -/
def runIn (env : Environment) (places : Scheduler.Places) (args : Scheduler.Arguments) :
    IO UInt32 := do
  let secrets ← readFile places.credentials
  let others ← readVariables (Credentials.references secrets)
  let credentials := Credentials.load (env ++ others) secrets
  let channel : Except Fault Unit :=
    match credentials with
    | .ok c => c.login.map fun _ => ()
    | .error f => .error (.file f)
  match Scheduler.Start.ofSources? env (← readFile places.tuneables)
      (← readFile places.state) channel with
  | .error f => complain f
  | .ok none => return 0
  | .ok (some start) => runFrom places args start

/-- The program. -/
def program (args : List String) : IO UInt32 := do
  match Scheduler.Arguments.parse (args.map String.toList) with
  | .error ending =>
      if ending = .help then IO.println usage else IO.eprintln usage
      return ending.code.toUInt32
  | .ok args =>
      let env ← readVariables variablesRead
      match Scheduler.Places.ofEnvironment env with
      | .error f => complain f
      | .ok places => runIn env places args

end Mycelium.Outside

/-- The scheduler as a program. -/
def main (args : List String) : IO UInt32 := Mycelium.Outside.program args
