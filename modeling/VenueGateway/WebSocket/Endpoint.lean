import VenueGateway.Text.Blank
import VenueGateway.Text.Integer
import VenueGateway.WebSocket.Error

namespace VenueGateway

structure Endpoint where
  secure : Bool
  host : String
  port : Nat
  resource : String
deriving DecidableEq, Repr

namespace Endpoint

def defaultPort (secure : Bool) : Nat := if secure then 443 else 80

/-- A path is kept, a query gets the root in front, and nothing is the root. -/
def resourceOf (cs : List Char) : List Char :=
  match cs with
  | [] => ['/']
  | '?' :: _ => '/' :: cs
  | _ => cs

def readPort (cs : List Char) : Except String Nat :=
  match Text.readBelow 65536 cs with
  | some port => .ok port
  | none => .error "bad port"

/-- Host and port; an address in brackets may hold colons. -/
def readAuthority (secure : Bool) (cs : List Char) : Except String (List Char × Nat) :=
  match cs with
  | '[' :: rest =>
    match Text.splitOnce ']' rest with
    | none => .error "unterminated ipv6 literal"
    | some (host, ':' :: port) => (readPort port).map fun p => (host, p)
    | some (host, _) => .ok (host, defaultPort secure)
  | _ =>
    match Text.splitLast ':' cs with
    | some (host, port) => (readPort port).map fun p => (host, p)
    | none => .ok (cs, defaultPort secure)

def readAfterScheme (secure : Bool) (cs : List Char) : Except String Endpoint := do
  let (authority, resource) := cs.span fun c => c != '/' && c != '?'
  let (host, port) ← readAuthority secure authority
  if host.isEmpty then .error "empty host"
  else .ok ⟨secure, String.ofList host, port, String.ofList (resourceOf resource)⟩

def readChars (cs : List Char) : Except String Endpoint :=
  match Text.dropStart? "wss://".toList cs, Text.dropStart? "ws://".toList cs with
  | some rest, _ => readAfterScheme true rest
  | none, some rest => readAfterScheme false rest
  | none, none => .error "scheme must be ws or wss"

def read (url : String) : Except SessionError Endpoint :=
  match readChars url.toList with
  | .ok e => .ok e
  | .error reason => .error (.invalidUrl url reason)

/-- The host, with the port if it is not the scheme's own. -/
def hostHeader (e : Endpoint) : String :=
  if e.port = defaultPort e.secure then e.host else e.host ++ ":" ++ Text.ofNat e.port

def text (e : Endpoint) : String :=
  (if e.secure then "wss" else "ws") ++ "://" ++ e.hostHeader ++ e.resource

end Endpoint

end VenueGateway
