import VenueGateway.Json.Fields
import VenueGateway.Text.Blank
import VenueGateway.Text.Visible

namespace VenueGateway

/-- What a session signs in with. -/
inductive Credentials where
  | none
  | apiKey (key secret : String)
  | cookie (sessionCookie account : String) (key : Option String)
deriving DecidableEq

namespace Credentials

def isComplete : Credentials → Bool
  | .none => false
  | .apiKey key secret => !Text.isAllBlank key && !Text.isAllBlank secret
  | .cookie session account _ => !Text.isAllBlank session && !Text.isAllBlank account

/-- Only cookie credentials take a session cookie. -/
def withSessionCookie (value : String) : Credentials → Credentials
  | .cookie _ account key => .cookie value account key
  | c => c

def toJson : Credentials → Json
  | .none => .object [("kind", "none")]
  | .apiKey key secret => .object [("kind", "api_key"), ("api_key", key), ("api_secret", secret)]
  | .cookie session account key =>
    .object [("kind", "cookie"), ("session_cookie", session), ("account_id", account),
      ("api_key", .ofOption .string key)]

open Json in
def ofJson? (j : Json) : Option Credentials := do
  let kind ← match j with
    | .object fields => (lookup "kind" fields).bind string?
    | .array (tag :: _) => tag.string?
    | _ => Option.none
  match kind with
  | "none" => pure .none
  | "api_key" =>
    let f ← j.record? ["kind", "api_key", "api_secret"]
    let key ← f.required "api_key" string?
    let secret ← f.required "api_secret" string?
    pure (.apiKey key secret)
  | "cookie" =>
    let names := ["kind", "session_cookie", "account_id", "api_key"]
    let f ← (j.record? names).orElse fun _ => j.record? names.dropLast
    let session ← f.defaulted "session_cookie" "" string?
    let account ← f.required "account_id" string?
    let key ← f.optional "api_key" string?
    pure (.cookie session account key)
  | _ => Option.none

/-- The printed form: four characters of a key, the account, and stars for the rest. -/
def shown : Credentials → String
  | .none => "SessionCredentials::None"
  | .apiKey key _ =>
    "SessionCredentials::ApiKey \x7b api_key: " ++
      Text.showQuoted (String.ofList (key.toList.take 4) ++ "***") ++ ", api_secret: \"***\" \x7d"
  | .cookie _ account _ =>
    "SessionCredentials::Cookie \x7b account_id: " ++ Text.showQuoted account ++
      ", session_cookie: \"***\" \x7d"

end Credentials

end VenueGateway
