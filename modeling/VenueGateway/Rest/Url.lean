import VenueGateway.Address
import VenueGateway.Text.Blank
import VenueGateway.Text.Percent

namespace VenueGateway

/-- Tabs and line breaks do not count anywhere in a URL, dot segments of its path are resolved, and
what may not stand in a part is percent-encoded there. -/
structure Url where
  scheme : String
  /-- What stands before the host with its at sign, or nothing. -/
  userInfo : String := ""
  host : Option String := none
  /-- The port, unless it is the scheme's own. -/
  port : Option Nat := none
  path : String := ""
  query : Option String := none
  fragment : Option String := none
deriving DecidableEq, Repr

namespace Url

/-- The schemes whose URLs have a host, and a path even if none is written; with their ports. -/
def hostedSchemes : List (String × Nat) :=
  [("http", 80), ("https", 443), ("ws", 80), ("wss", 443), ("ftp", 21)]

def isHosted (scheme : String) : Bool := hostedSchemes.any (·.1 == scheme)

def standardPort? (scheme : String) : Option Nat :=
  (hostedSchemes.find? (·.1 == scheme)).map (·.2)

/-- Controls and all that is not ASCII are encoded everywhere, further marks where they are told. -/
def encodePart (marks : List Char) (cs : List Char) : List Char :=
  cs.flatMap fun c =>
    if c.toNat < 0x20 || 0x7F ≤ c.toNat || marks.contains c then
      (Text.encodeChar c).flatMap Text.percentByte
    else [c]

def fragmentMarks : List Char := [' ', '"', '<', '>', '\x60']

def pathMarks : List Char := fragmentMarks ++ ['#', '?', '\x7b', '\x7d']

def userMarks : List Char := pathMarks ++ ['/', ':', ';', '=', '@', '[', '\\', ']', '^', '|']

def queryMarks (hosted : Bool) : List Char :=
  [' ', '"', '#', '<', '>'] ++ (if hosted then ['\x27'] else [])

def isDot (segment : List Char) : Bool :=
  [".", "%2e"].contains (String.ofList segment).toLower

def isDoubleDot (segment : List Char) : Bool :=
  ["..", ".%2e", "%2e.", "%2e%2e"].contains (String.ofList segment).toLower

/-- The segments of a path with one more behind them, which is the last one or not. -/
def addSegment (segments : List (List Char)) (isLast : Bool) (segment : List Char) :
    List (List Char) :=
  let rest := if isLast then [[]] else []
  if isDoubleDot segment then segments.dropLast ++ rest
  else if isDot segment then segments ++ rest
  else segments ++ [segment]

/-- Adds what is written between the slashes of a path. -/
def addSegments (segments : List (List Char)) : List (List Char) → List (List Char)
  | [] => segments
  | [segment] => addSegment segments true segment
  | segment :: more => addSegments (addSegment segments false segment) more

def pathOfSegments (segments : List (List Char)) : String :=
  String.ofList (segments.flatMap fun s => '/' :: s)

def segmentsOfPath (path : String) : List (List Char) := (Text.splitAll '/' path.toList).drop 1

/-- A path from its written form without the first slash, behind some segments. -/
def resolvePath (hosted : Bool) (segments : List (List Char)) (cs : List Char) : String :=
  let cs := if hosted then cs.map fun c => if c = '\\' then '/' else c else cs
  pathOfSegments (addSegments segments ((Text.splitAll '/' cs).map (encodePart pathMarks)))

/-- A part of an IPv4 address: decimal, octal behind a zero, or hexadecimal behind its mark. -/
def ipv4Part? (part : List Char) : Option Nat :=
  let read (base : Nat) (cs : List Char) : Option Nat :=
    cs.foldlM (fun n c => ((Text.hexValue? c).filter (· < base)).map (base * n + ·)) 0
  match part with
  | [] => none
  | '0' :: 'x' :: cs => read 16 cs
  | '0' :: c :: cs => read 8 (c :: cs)
  | cs => read 10 cs

/-- The parts of a host between its dots, a single dot at the end aside. -/
def hostParts (host : List Char) : List (List Char) :=
  let parts := Text.splitAll '.' host
  if parts.getLast? = some [] ∧ parts.length ≠ 1 then parts.dropLast else parts

/-- Whether a host's last part makes an address of it. -/
def endsInNumber (host : List Char) : Bool :=
  match (hostParts host).getLast? with
  | none => false
  | some last => (!last.isEmpty && last.all Char.isDigit) || (last.take 2 == ['0', 'x'] && (ipv4Part? last).isSome)

/-- The last part of an address stands for all the bytes that no other part names. -/
def ipv4? (host : List Char) : Option (List Char) := do
  let parts := hostParts host
  if parts.length > 4 then none
  let numbers ← parts.mapM ipv4Part?
  let last ← numbers.getLast?
  let first := numbers.dropLast
  if !first.all (· < 256) ∨ last ≥ Nat.pow 256 (4 - first.length) then none
  let octets := first ++ (List.range (4 - first.length)).map fun i =>
    last / Nat.pow 256 (3 - first.length - i) % 256
  pure (Address.joined '.' (octets.map Text.natDigits))

def ipv6? (cs : List Char) : Option (List Char) := do
  let (groups, rest) ← Address.readIPv6 cs
  if !rest.isEmpty then none
  let (i, n) := Address.longestZeros 0 groups
  let colons (gs : List Nat) := Address.joined ':' (gs.map Address.hexText)
  let shown :=
    if n > 1 then colons (groups.take i) ++ [':', ':'] ++ colons (groups.drop (i + n))
    else colons groups
  pure ('[' :: shown ++ [']'])

def isForbiddenInHost (c : Char) : Bool :=
  c.toNat ≤ 0x20 || c.toNat = 0x7F ||
    ['#', '%', '/', ':', '<', '>', '?', '@', '[', '\\', ']', '^', '|'].contains c

/-- A host in its normal form. -/
def host? (hosted : Bool) (cs : List Char) : Option (List Char) :=
  match cs with
  | '[' :: inner => if inner.getLast? = some ']' then ipv6? inner.dropLast else none
  | _ =>
    if !hosted then
      if cs.any fun c => isForbiddenInHost c && c != '%' then none else some (encodePart [] cs)
    else
      let cs := cs.map Char.toLower
      if cs.isEmpty ∨ cs.any isForbiddenInHost then none
      else if endsInNumber cs then ipv4? cs
      else some cs

/-- A port, which may be missing behind its colon. -/
def port? (cs : List Char) : Option (Option Nat) :=
  if cs.isEmpty then some none
  else (Text.readDigits 0 cs).bind fun n => if n < 65536 then some (some n) else none

/-- The host and the port, between which a colon stands that no bracket holds. -/
def splitHost : Bool → List Char → List Char × Option (List Char)
  | _, [] => ([], none)
  | inside, c :: cs =>
    if c = ':' ∧ !inside then ([], some cs)
    else
      let inside := if c = '[' then true else if c = ']' then false else inside
      let (host, port) := splitHost inside cs
      (c :: host, port)

def userInfoText (user : List Char) : List Char :=
  match Text.splitOnce ':' user with
  | none => encodePart userMarks user ++ ['@']
  | some (name, []) => if name.isEmpty then [] else encodePart userMarks name ++ ['@']
  | some (name, password) =>
    encodePart userMarks name ++ [':'] ++ encodePart userMarks password ++ ['@']

/-- Sets query and fragment, which begin with their marks. -/
def withTail (u : Url) (tail : List Char) : Url :=
  let (front, fragment) :=
    match Text.splitOnce '#' tail with
    | some (front, fragment) => (front, some (String.ofList (encodePart fragmentMarks fragment)))
    | none => (tail, none)
  let query :=
    match front with
    | '?' :: cs => some (String.ofList (encodePart (queryMarks (isHosted u.scheme)) cs))
    | _ => none
  { u with query, fragment }

def isTail (c : Char) : Bool := c == '?' || c == '#'

/-- What follows the two slashes before a host. -/
def readAuthority (scheme : String) (cs : List Char) : Option Url := do
  let hosted := isHosted scheme
  let ends (c : Char) : Bool := isTail c || c == '/' || (hosted && c == '\\')
  let (authority, rest) := cs.span (!ends ·)
  let (user, hostPort) := (Text.splitLast '@' authority).elim ([], authority) id
  let (hostText, portText) := splitHost false hostPort
  let host ← host? hosted hostText
  let port ← match portText with
    | none => pure none
    | some cs => port? cs
  if host.isEmpty ∧ (hosted ∨ !user.isEmpty ∨ portText.isSome) then none
  let (written, tail) := rest.span (!isTail ·)
  let path :=
    if written.isEmpty ∧ !hosted then "" else resolvePath hosted [] (written.drop 1)
  pure (withTail
    { scheme, userInfo := if user.isEmpty then "" else String.ofList (userInfoText user)
      host := some (String.ofList host)
      port := port.filter (some · ≠ standardPort? scheme), path } tail)

def isSlash (c : Char) : Bool := c == '/' || c == '\\'

/-- A reference without a scheme, seen from a URL that has a host. -/
def readRelative (base : Url) (cs : List Char) : Option Url :=
  let (written, tail) := cs.span (!isTail ·)
  match written with
  | [] =>
    if tail.head? = some '?' then some (withTail base tail)
    else some { withTail base tail with query := base.query }
  | c :: more =>
    if isSlash c then
      if more.head?.any isSlash then
        readAuthority base.scheme
          (if cs.take 2 == ['/', '/'] then cs.drop 2 else cs.dropWhile isSlash)
      else some (withTail { base with path := resolvePath true [] more } tail)
    else
      some (withTail
        { base with path := resolvePath true (segmentsOfPath base.path).dropLast written } tail)

def isSchemeChar (c : Char) : Bool := c.isAlphanum || c == '+' || c == '-' || c == '.'

/-- A scheme in small letters, and what follows its colon. -/
def splitScheme (cs : List Char) : Option (String × List Char) :=
  match Text.splitOnce ':' cs with
  | some (scheme, rest) =>
    if (scheme.head?.any Char.isAlpha) && scheme.all isSchemeChar then
      some ((String.ofList scheme).toLower, rest)
    else none
  | none => none

def readBehindScheme (base : Option Url) (scheme : String) (cs : List Char) : Option Url :=
  if isHosted scheme then
    match base.filter fun b => b.scheme == scheme && (cs.takeWhile isSlash).length < 2 with
    | some b => readRelative b cs
    | none => readAuthority scheme (cs.dropWhile isSlash)
  else
    match cs with
    | '/' :: '/' :: rest => readAuthority scheme rest
    | '/' :: rest =>
      let (written, tail) := rest.span (!isTail ·)
      some (withTail { scheme, path := resolvePath false [] written } tail)
    | _ =>
      let (written, tail) := cs.span (!isTail ·)
      some (withTail { scheme, path := String.ofList (encodePart [] written) } tail)

/-- A URL, or a reference as seen from `base`. -/
def read (base : Option Url) (s : String) : Option Url :=
  let isEdge (c : Char) : Bool := c.toNat ≤ 0x20
  let cs := (Text.trimEnd isEdge (s.toList.dropWhile isEdge)).filter fun c =>
    !(c == '\t' || c == '\n' || c == '\r')
  match splitScheme cs with
  | some (scheme, rest) => readBehindScheme base scheme rest
  | none => base.bind fun b => readRelative b cs

def authority (u : Url) : String :=
  match u.host with
  | none => ""
  | some host => "//" ++ u.userInfo ++ host ++ (u.port.elim "" fun p => ":" ++ Text.ofNat p)

def text (u : Url) : String :=
  u.scheme ++ ":" ++ u.authority ++ u.path ++ (u.query.elim "" fun q => "?" ++ q) ++
    (u.fragment.elim "" fun f => "#" ++ f)

def withoutFragment (u : Url) : Url := { u with fragment := none }

def withoutUser (u : Url) : Url := { u with userInfo := "" }

end Url

end VenueGateway
