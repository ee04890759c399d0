import VenueGateway.Rest.Status
import VenueGateway.Text.Blank
import VenueGateway.Text.Hex
import VenueGateway.Text.Utf8

namespace VenueGateway

structure HttpResponse where
  status : Nat
  headers : List (String × String)
  body : String
deriving DecidableEq, Repr

/-- A response as it arrives: its body is missing if it breaks off or has no readable form. -/
structure ReceivedResponse where
  status : Nat
  headers : List (String × String)
  body : Option String
deriving DecidableEq, Repr

/-- The text of a response on a connection that closes behind it. Lengths count the bytes of the
text's UTF-8 form. -/
def HttpResponse.write (r : HttpResponse) : String :=
  let line (name value : String) : String := name ++ ": " ++ value ++ "\r\n"
  "HTTP/1.1 " ++ Text.ofNat r.status ++ " \r\n" ++
    line "Content-Length" (Text.ofNat (Text.byteLength r.body)) ++ line "Connection" "close" ++
    String.join (r.headers.map fun (k, v) => line k v) ++ "\r\n" ++ r.body

namespace Http

def headersNamed (name : String) (headers : List (String × String)) : List String :=
  (headers.filter fun (k, _) => Text.sameLetters k name).map (·.2)

/-- Header values that can be read as text. -/
def isPlain (value : String) : Bool :=
  value.toList.all fun c => c = '\t' || (0x20 ≤ c.toNat && c.toNat < 0x7F)

/-- Text that a header can carry. -/
def isHeaderText (c : Char) : Bool := c == '\t' || (0x20 ≤ c.toNat && c.toNat ≠ 0x7F)

def isToken (c : Char) : Bool :=
  c.isAlphanum || ['!', '#', '$', '%', '&', '\x27', '*', '+', '-', '.', '^', '_', '\x60', '|', '~'].contains c

def isPad (c : Char) : Bool := c == ' ' || c == '\t'

/-- What follows a line's end. -/
def endOfLine? : List Char → Option (List Char)
  | '\r' :: '\n' :: cs => some cs
  | '\n' :: cs => some cs
  | _ => none

/-- A header up to the end of its line. -/
def readHeader (cs : List Char) : Option ((String × String) × List Char) := do
  let (name, rest) := cs.span isToken
  if name.isEmpty then none
  let rest ← Text.dropStart? [':'] rest
  let (value, rest) := (rest.dropWhile isPad).span isHeaderText
  let rest ← endOfLine? rest
  pure ((String.ofList name, String.ofList (Text.trimEnd isPad value)), rest)

/-- The headers up to an empty line; each takes at least one of the `bound` characters. -/
def readHeaders : Nat → List Char → Option (List (String × String) × List Char)
  | 0, _ => none
  | bound + 1, cs =>
    match endOfLine? cs with
    | some rest => some ([], rest)
    | none => do
      let (header, cs) ← readHeader cs
      let (headers, cs) ← readHeaders bound cs
      pure (header :: headers, cs)

/-- The status, and whether the version is the first one with persistent connections. -/
def readStatusLine (cs : List Char) : Option (Nat × Bool × List Char) := do
  let cs ← Text.dropStart? "HTTP/1.".toList cs
  let (isNewer, cs) ← match cs with
    | '1' :: ' ' :: cs => some (true, cs)
    | '0' :: ' ' :: cs => some (false, cs)
    | _ => none
  let status ← Text.readDigits 0 (cs.take 3)
  let cs := cs.drop 3
  let cs := if cs.head? = some ' ' then cs.dropWhile isHeaderText else cs
  if status < 100 then none
  pure (status, isNewer, ← endOfLine? cs)

/-- As many characters as make up some bytes; none if they end inside a character or too early. -/
def takeBytes : Nat → List Char → Option (List Char × List Char)
  | 0, cs => some ([], cs)
  | _ + 1, [] => none
  | n + 1, c :: cs => do
    let size := (Text.encodeChar c).length
    if n + 1 < size then none
    let (taken, rest) ← takeBytes (n + 1 - size) cs
    pure (c :: taken, rest)
termination_by _ cs => cs.length

/-- The size of a chunk in its own line, which may say more behind a semicolon. -/
def readChunkSize (cs : List Char) : Option (Nat × List Char) := do
  let (digits, rest) := cs.span fun c => (Text.hexValue? c).isSome
  if digits.isEmpty then none
  let size ← digits.foldlM (fun n c => (Text.hexValue? c).map (16 * n + ·)) 0
  if Text.bound64 ≤ size then none
  let rest := rest.dropWhile isPad
  let rest ← match rest with
    | ';' :: more =>
      let (said, rest) := more.span (· != '\r')
      if said.contains '\n' then none else some rest
    | rest => some rest
  pure (size, ← Text.dropStart? ['\r', '\n'] rest)

/-- The chunks up to the empty one and the headers behind it. -/
def readChunks : Nat → List Char → Option (List Char)
  | 0, _ => none
  | bound + 1, cs => do
    let (size, cs) ← readChunkSize cs
    if size = 0 then
      let _ ← readHeaders (cs.length + 1) cs
      pure []
    else
      let (chunk, cs) ← takeBytes size cs
      let more ← readChunks bound (← Text.dropStart? ['\r', '\n'] cs)
      pure (chunk ++ more)

/-- The one length that all length headers agree on. -/
def contentLength? (values : List String) : Option Nat := do
  if !values.all isPlain then none
  let numbers ← (values.flatMap fun v => Text.splitAll ',' v.toList).mapM fun v =>
    match Text.trimChars v with
    | [] => none
    | digits => (Text.readDigits 0 digits).filter (· < Text.bound64)
  match numbers with
  | [] => none
  | n :: more => if more.all (· == n) then some n else none

/-- Whether the last of the codings that a body has gone through is the one in chunks. -/
def isChunked (values : List String) : Bool :=
  match values.getLast? with
  | none => false
  | some v =>
    let last := (Text.splitAll ',' v.toList).getLast?.getD []
    isPlain v && Text.sameLetters (Text.trim (String.ofList last)) "chunked"

/-- The body behind the headers; none at all if they contradict each other about its extent. -/
def readBody (status : Nat) (isNewer : Bool) (headers : List (String × String))
    (rest : List Char) : Option (Option String) :=
  let codings := headersNamed "transfer-encoding" headers
  let lengths := headersNamed "content-length" headers
  if hasNoBody status then some (some "")
  else if !codings.isEmpty then
    if !isNewer then none
    else if isChunked codings then some ((readChunks (rest.length + 1) rest).map String.ofList)
    else some (some (String.ofList rest))
  else if lengths.isEmpty then some (some (String.ofList rest))
  else
    (contentLength? lengths).map fun n => (takeBytes n rest).map fun (body, _) => String.ofList body

def maxHeaders : Nat := 100

/-- The response that is not a mere announcement of another one; `bound` limits their number. -/
def readResponse : Nat → List Char → Option ReceivedResponse
  | 0, _ => none
  | bound + 1, cs =>
    match endOfLine? cs with
    | some cs => readResponse bound cs
    | none => do
      let (status, isNewer, cs) ← readStatusLine cs
      let (headers, rest) ← readHeaders (cs.length + 1) cs
      if maxHeaders < headers.length then none
      else if isAnnouncement status then readResponse bound rest
      else
        let body ← readBody status isNewer headers rest
        pure ⟨status, headers, body⟩

end Http

/-- The response on a connection that closes behind this text. -/
def ReceivedResponse.read (text : String) : Option ReceivedResponse :=
  Http.readResponse (text.length + 1) text.toList

end VenueGateway
