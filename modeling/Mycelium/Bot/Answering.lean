import Mycelium.Bot.Search

/-!
# Answering

A text is answered by the current rule system, and the interaction goes into the
log.

`answerMentions` replies to every mention that is newer than the mark.

* A mention that was answered already is passed over.
* A reply that failed because the channel could not be reached is tried again next
  time: the mark stays in front of that mention, however many later ones are
  answered.  The ids of those are remembered.
* Any other failure of a reply is for good.
-/

namespace Mycelium.Bot

variable {σ : Type}

/-- An interaction goes into the log. -/
def record (text : Option Text) (response : Text) : Session σ Unit :=
  .change (.record ⟨text, response, response != RuleSystem.noMatch⟩)

/-- The answer to a text. -/
def answer (text : Option Text) : Session σ Text := do
  let response := (← .look).current.respond (text.getD [])
  record text response
  return response

/-- How a run over the mentions went. -/
structure Tally where
  /-- How many mentions were found. -/
  found : Nat
  /-- How many were answered. -/
  answered : Nat
  /-- How many replies failed. -/
  failed : Nat
  /-- Why the mentions could not be fetched. -/
  error : Option Text

/-- A tally as an object. -/
def Tally.toMembers (t : Tally) : Members :=
  [("mentions_found".toList, .int t.found), ("answered".toList, .int t.answered),
    ("failed".toList, .int t.failed)] ++
    match t.error with
    | some e => [("error".toList, .str e)]
    | none => []

/-- The mark moves up to an id that is newer. -/
def advance (id : Text) : Session σ Unit := do
  if !id.isEmpty then
    match isNewer id (← .look).lastMention with
    | .ok true => .change (.advance id)
    | .ok false => pure ()
    | .error e => throw (.mismatch e)

/-- The reply to a mention: the text that was answered, and the answer. -/
def replyTo (m : Mention) : Session σ (Text × Text) := do
  let text ← decoded m.content
  let response := (← .look).current.respond text
  .reply response m
  return (text, response)

/-- The mentions are answered one after the other.  `held` says whether an earlier
one has to be tried again. -/
def answerEach : (held : Bool) → Tally → List (Except Fault Mention) → Session σ Tally
  | _, tally, [] => pure tally
  | held, tally, m :: ms => do
      let m ← .ofOutcome m
      if !m.id.isEmpty && (← .look).replied.contains m.id then
        if !held then advance m.id
        answerEach held tally ms
      else
        match ← (replyTo m).outcome with
        | .ok (text, response) =>
            record (some text) response
            if held && !m.id.isEmpty then .change (.remember m.id)
            if !held then advance m.id
            answerEach held { tally with answered := tally.answered + 1 } ms
        | .error f =>
            let tally := { tally with failed := tally.failed + 1 }
            if f.isTransient then answerEach true tally ms
            else
              if !held then advance m.id
              answerEach held tally ms

/-- All mentions newer than the mark are answered. -/
def answerMentions : Session σ Tally := do
  let since := (← .look).lastMention
  match ← (Session.mentions since).outcome with
  | .ok ms => answerEach false ⟨ms.length, 0, 0, none⟩ ms
  | .error f => if f.isTransient then return ⟨0, 0, 0, some f.summary⟩ else throw f

end Mycelium.Bot
