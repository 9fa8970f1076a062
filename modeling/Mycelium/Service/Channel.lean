import Mycelium.Bot.Session
import Mycelium.Content
import Mycelium.Service.Client

/-!
# The channel

What a bot needs of the service: its account, the posts under a hashtag, the mentions
of the bot, a post, and an answer to a post.

* The account is asked for once.
* A search asks for ten to a hundred posts and keeps as many as are wanted.
* Mentions come oldest first, that is by the number that their id is.
-/

namespace Mycelium.Service

/-- The account of the bot. -/
def account : Session Account := do
  match (← get).account with
  | some a => return a
  | none =>
      let some a ← call .account | throw (.unreachable "get_me returned no user".toList)
      modify fun c => { c with account := some a }
      return a

/-- An outcome that needs an integer. -/
def integer (v : Json) : Session Int :=
  match v.toInt with
  | .ok n => return n
  | .error e => throw (.mismatch e)

/-- How many posts a search asks for when so many are wanted. -/
def asked (limit : Int) : Int := max 10 (min limit 100)

/-- The query for a hashtag. -/
def hashtagQuery (tag : Text) : Text := '#' :: tag.dropWhile (· == '#')

/-- The latest posts under a hashtag. -/
def candidates (tag : Text) (limit : Json) : Session (List Post) := do
  let limit ← integer limit
  return (← call (.search (hashtagQuery tag) (asked limit))).take limit.toNat

/-- A mention of the bot. -/
structure Mention where
  /-- Its id. -/
  id : Text
  /-- Its text. -/
  content : Json
  /-- The name of its author, empty if it is not known. -/
  author : Json

/-- The names of accounts, by their ids. -/
def usernames (accounts : List Account) : Members :=
  accounts.foldl (fun es a => es.put a.id a.username) []

/-- A post that mentions the bot, of which the authors are known. -/
def Mention.ofPost (authors : Members) (p : Post) : Mention :=
  ⟨p.id, p.content, (authors.get? p.author).getD (.str [])⟩

/-- Mentions with the numbers that their ids are. -/
def numbered : List Mention → Except Number.Fault (List (Int × Mention))
  | [] => .ok []
  | m :: ms => do return (← Number.readInt m.id, m) :: (← numbered ms)

/-- Mentions, oldest first. -/
def oldestFirst (ms : List Mention) : Except Number.Fault (List Mention) := do
  return ((← numbered ms).mergeSort fun a b => a.1 ≤ b.1).map (·.2)

/-- The mentions of the bot, newer than a mark unless that counts as false. -/
def mentions (since : Json) : Session (List Mention) := do
  let me ← account
  let (posts, accounts) ← call (.mentions me.id (if since.holds then some since else none))
  match oldestFirst (posts.map (Mention.ofPost (usernames accounts))) with
  | .ok ms => return ms
  | .error f => throw (.mismatch (.integer f))

/-- The id of a post that was made, if the service names the post. -/
def madeId (data : Option Json) : Option Text := data.map fun d => (member d "id").shown

/-- A post is made. -/
def publish (text : Text) : Session (Option Text) := do
  return madeId (← call (.create text none))

/-- The id of what is answered, a mention or a post. -/
def answeredId : Json → Except Fault Json
  | .obj target =>
      match (Entries.get? target "status".toList).getD (.obj target) with
      | .obj status =>
          match Entries.get? status "id".toList with
          | some id => .ok id
          | none => .error .noId
      | v => .error (.noMessage v.kindName)
  | v => .error (.noObject v.kindName)

/-- A post is answered. -/
def reply (text : Text) (target : Json) : Session (Option Text) := do
  match answeredId target with
  | .ok id => return madeId (← call (.create text (some id)))
  | .error f => throw f

/-- The plain text of a content. -/
def decoded (content : Json) : Session Text :=
  match Content.plainText content with
  | .ok t => return t
  | .error f => throw f

/-- A search asks for ten posts at least and for a hundred at most. -/
theorem asked_bounds (limit : Int) : 10 ≤ asked limit ∧ asked limit ≤ 100 := by
  unfold asked
  omega

/-! ## The feed of a bot

A bot reads posts and mentions, publishes and answers.  Here the channel does this for a bot. -/

/-- The posts a bot reads under a hashtag. -/
def botPosts (tag : Text) (limit : Int) : Session (List (Except Fault Bot.Post)) := do
  return (← candidates tag (.int limit)).map fun p => .ok ⟨p.content⟩

/-- The mentions a bot reads. -/
def botMentions (since : Json) : Session (List (Except Fault Bot.Mention)) := do
  return (← mentions since).map fun m => .ok ⟨m.id, m.content⟩

/-- A message of a bot. -/
def botPublish (message : Text) : Session Unit := do
  let _ ← publish message

/-- The answer of a bot to a mention. -/
def botReply (text : Text) (m : Bot.Mention) : Session Unit := do
  let _ ← reply text (.obj [("id".toList, .str m.id)])

end Mycelium.Service
