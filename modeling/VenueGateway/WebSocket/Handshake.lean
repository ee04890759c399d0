import VenueGateway.Digest.Sha
import VenueGateway.Text.Base64
import VenueGateway.WebSocket.Endpoint
import VenueGateway.WebSocket.Frame

namespace VenueGateway.Handshake

def guid : String := "258EAFA5-E914-47DA-95CA-C5AB0DC85B11"

def acceptKey (key : String) : String := Text.base64 (Digest.Sha1.digest (Text.utf8 (key ++ guid)))

def crlf : String := "\r\n"

def headerLine (name value : String) : String := name ++ ": " ++ value ++ crlf

def request (e : Endpoint) (key : String) (headers : List (String × String)) : String :=
  "GET " ++ e.resource ++ " HTTP/1.1" ++ crlf ++
    String.join (([("Host", e.hostHeader), ("Upgrade", "websocket"), ("Connection", "Upgrade"),
      ("Sec-WebSocket-Key", key), ("Sec-WebSocket-Version", "13")] ++ headers).map
        fun (name, value) => headerLine name value) ++ crlf

def response (key : String) : String :=
  "HTTP/1.1 101 Switching Protocols" ++ crlf ++ headerLine "Upgrade" "websocket" ++
    headerLine "Connection" "Upgrade" ++ headerLine "Sec-WebSocket-Accept" (acceptKey key) ++ crlf

/-- A head this long without its blank line is refused at the next byte. -/
def maxHead : Nat := 16 * 1024

/-- A head being read: its bytes so far, the last one first, and their number. -/
structure HeadReader where
  reversed : Bytes := []
  length : Nat := 0
deriving DecidableEq, Repr

inductive HeadStep where
  | more (r : HeadReader)
  | complete (head : Bytes)
  | tooLarge

def HeadReader.push (r : HeadReader) (b : UInt8) : HeadStep :=
  match b :: r.reversed with
  | 10 :: 13 :: 10 :: 13 :: before =>
    .complete (before.reverse ++ [13, 10, 13, 10])
  | bytes => if maxHead < r.length + 1 then .tooLarge else .more ⟨bytes, r.length + 1⟩

inductive HeadError where
  | closed
  | tooLarge
  | notText
deriving DecidableEq, Repr

def HeadError.reason : HeadError → String
  | closed => "connection closed during handshake"
  | tooLarge => "response head too large"
  | notText => "response head is not utf-8"

def HeadError.toSessionError (e : HeadError) : SessionError := .handshake none e.reason

def headText (head : Bytes) : Except HeadError String :=
  match Text.decodeUtf8 head with
  | some s => .ok s
  | none => .error .notText

/-- What some bytes come to: a longer head, or a whole one and what follows it. -/
inductive HeadProgress where
  | more (r : HeadReader)
  | done (result : Except HeadError String) (rest : Bytes)

def HeadReader.feed (r : HeadReader) : Bytes → HeadProgress
  | [] => .more r
  | b :: rest =>
    match r.push b with
    | .more r => r.feed rest
    | .complete head => .done (headText head) rest
    | .tooLarge => .done (.error .tooLarge) rest

/-- The head of a stream that ends after these bytes, and what follows the head. -/
def readHead (stream : Bytes) : Except HeadError String × Bytes :=
  match HeadReader.feed {} stream with
  | .more _ => (.error .closed, [])
  | .done result rest => (result, rest)

def dropReturn (line : List Char) : List Char :=
  match line.reverse with
  | '\r' :: r => r.reverse
  | _ => line

/-- The lines of a text, their ends taken off; a text that ends a line begins no new one. -/
def lines (cs : List Char) : List (List Char) :=
  let parts := Text.splitAll '\n' cs
  let (ended, last) := (parts.dropLast, parts.getLast?.getD [])
  ended.map dropReturn ++ (if last.isEmpty then [] else [last])

/-- The words of a line between blanks. -/
def words : List Char → List (List Char)
  | [] => []
  | c :: cs =>
    if Text.isBlank c then words cs
    else
      match cs, words cs with
      | d :: _, w :: ws => if Text.isBlank d then [c] :: w :: ws else (c :: w) :: ws
      | _, ws => [c] :: ws

def headerOf (line : List Char) : Option (String × String) :=
  (Text.splitOnce ':' line).map fun (k, v) =>
    (String.ofList (Text.trimChars k), String.ofList (Text.trimChars v))

def headersOf (head : String) : List (String × String) :=
  ((lines head.toList).drop 1).filterMap headerOf

def header? (name : String) (headers : List (String × String)) : Option String :=
  (headers.find? fun (k, _) => Text.sameLetters k name).map (·.2)

def secondWord (head : String) : Option (List Char) :=
  (lines head.toList).head?.bind fun line => (words line)[1]?

/-- Whether a server's answer upgrades the connection for this key. -/
def checkResponse (head key : String) : Except SessionError Unit :=
  let statusLine := String.ofList ((lines head.toList).head?.getD [])
  let status := (secondWord head).bind (Text.readBelow 65536)
  let headers := headersOf head
  if status ≠ some 101 then .error (.handshake status ("unexpected status line: " ++ statusLine))
  else if !Text.sameLetters ((header? "upgrade" headers).getD "") "websocket" then
    .error (.handshake status "missing Upgrade: websocket")
  else
    match header? "sec-websocket-accept" headers with
    | some accept =>
      if accept = acceptKey key then .ok ()
      else .error (.handshake status "Sec-WebSocket-Accept mismatch")
    | none => .error (.handshake status "missing Sec-WebSocket-Accept")

structure UpgradeRequest where
  resource : String
  headers : List (String × String)
deriving DecidableEq, Repr

namespace UpgradeRequest

def header? (r : UpgradeRequest) (name : String) : Option String :=
  Handshake.header? name r.headers

def ofHead (head : String) : UpgradeRequest :=
  ⟨((secondWord head).map String.ofList).getD "/", headersOf head⟩

/-- The server's answer; none without a key. -/
def answer (r : UpgradeRequest) : Except SessionError String :=
  match r.header? "sec-websocket-key" with
  | some key => .ok (response key)
  | none => .error (.handshake none "missing Sec-WebSocket-Key")

end UpgradeRequest

/-- The server's side on a whole stream: the request and the answer, and what follows the head. -/
def serve (stream : Bytes) : Except SessionError (UpgradeRequest × String) × Bytes :=
  match readHead stream with
  | (.error e, rest) => (.error e.toSessionError, rest)
  | (.ok head, rest) =>
    let r := UpgradeRequest.ofHead head
    (r.answer.map fun a => (r, a), rest)

end VenueGateway.Handshake
