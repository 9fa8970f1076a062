import Mycelium.Json.Coercion

/-!
# Requests

A posting service is asked for four things.  A request has a method and named
arguments, and the service answers with data, with nothing, or not at all.

`Request.Reply` says what kind of answer a request gets, and `Request.reply` reads it
off a response.  What the service calls by a number is called by the text of that
number here.
-/

namespace Mycelium.Service

/-- What the service is asked for. -/
inductive Request where
  /-- The account of the bot. -/
  | account
  /-- At most so many posts that a query finds. -/
  | search (query : Text) (most : Int)
  /-- The mentions of an account, newer than a mark if there is one. -/
  | mentions (account : Text) (since : Option Json)
  /-- A post, which may answer another one. -/
  | create (text : Text) (answered : Option Json)

/-- How many mentions are asked for. -/
def mostMentions : Int := 100

namespace Request

/-- The method of a request. -/
def method : Request → Text
  | account => "get_me".toList
  | search _ _ => "search_recent_tweets".toList
  | mentions _ _ => "get_users_mentions".toList
  | create _ _ => "create_tweet".toList

/-- An array of strings. -/
def words (ws : List String) : Json := .arr (ws.map fun w => .str w.toList)

/-- The arguments of a request. -/
def arguments : Request → Members
  | account => [("user_fields".toList, words ["id", "username", "name"])]
  | search query most =>
      [("query".toList, .str query), ("max_results".toList, .int most),
        ("tweet_fields".toList, words ["created_at", "author_id"])]
  | mentions id since =>
      [("id".toList, .str id), ("max_results".toList, .int mostMentions),
        ("tweet_fields".toList, words ["created_at", "author_id"]),
        ("expansions".toList, words ["author_id"]), ("user_fields".toList, words ["username"])] ++
        match since with
        | some mark => [("since_id".toList, mark)]
        | none => []
  | create text answered =>
      ("text".toList, .str text) ::
        match answered with
        | some id => [("in_reply_to_tweet_id".toList, id)]
        | none => []

end Request

/-- A member of an object, and null if there is none. -/
def member (v : Json) (name : String) : Json :=
  match v with
  | .obj ms => (Entries.get? ms name.toList).getD .null
  | _ => .null

/-- The items of an array. -/
def items : Json → List Json
  | .arr vs => vs
  | _ => []

/-- An account of the service. -/
structure Account where
  /-- Its id. -/
  id : Text
  /-- The name by which it is mentioned. -/
  username : Json
  /-- The name it shows. -/
  name : Json

/-- The account that data describe. -/
def Account.ofJson (v : Json) : Account :=
  ⟨(member v "id").shown, member v "username", member v "name"⟩

/-- An account as an object. -/
def Account.toMembers (a : Account) : Members :=
  [("id".toList, .str a.id), ("username".toList, a.username), ("name".toList, a.name)]

/-- A post of the service. -/
structure Post where
  /-- Its id. -/
  id : Text
  /-- Its text, empty if there is none. -/
  content : Json
  /-- The id of its author. -/
  author : Text

/-- The post that data describe. -/
def Post.ofJson (v : Json) : Post :=
  ⟨(member v "id").shown, (member v "text").orElse (.str []), (member v "author_id").shown⟩

/-- A response of the service. -/
structure Response where
  /-- The data. -/
  data : Json
  /-- What the data refer to. -/
  includes : Json

namespace Request

/-- What kind of answer a request gets. -/
abbrev Reply : Request → Type
  | account => Option Account
  | search _ _ => List Post
  | mentions _ _ => List Post × List Account
  | create _ _ => Option Json

/-- The answer that a response gives. -/
def reply : (r : Request) → Option Response → r.Reply
  | account, response =>
      (response.bind fun a => if a.data.holds then some a.data else none).map Account.ofJson
  | search _ _, response => ((response.map fun a => items a.data).getD []).map Post.ofJson
  | mentions _ _, response =>
      (((response.map fun a => items a.data).getD []).map Post.ofJson,
        ((response.map fun a => items (member a.includes "users")).getD []).map Account.ofJson)
  | create _ _, response => response.bind fun a => if a.data.holds then some a.data else none

end Request

/-- Why a request fails. -/
inductive Failure where
  /-- The service was asked too often. -/
  | limited
  /-- The service or the way to it failed. -/
  | failed (message : Text)
  /-- The request cannot be made. -/
  | refused (message : Text)

end Mycelium.Service
