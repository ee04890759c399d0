import VenueGateway.Text.Hex

namespace VenueGateway

inductive Address where
  | v4 (octets : List Nat)
  | v6 (groups : List Nat) (scope : Nat)
deriving DecidableEq, Repr

structure SocketAddress where
  address : Address
  port : Nat
deriving DecidableEq, Repr

namespace Address

/-- Decimal digits with a value below `bound`. -/
def readDecimal (bound : Nat) (cs : List Char) : Option (Nat × List Char) := do
  let (digits, rest) := cs.span Char.isDigit
  if digits.isEmpty then none
  let n ← Text.readDigits 0 digits
  if n < bound then pure (n, rest) else none

/-- A decimal number below 256, without leading zeros. -/
def readOctet (cs : List Char) : Option (Nat × List Char) :=
  match cs with
  | '0' :: d :: _ => if d.isDigit then none else readDecimal 256 cs
  | cs => readDecimal 256 cs

def readChar (c : Char) : List Char → Option (List Char)
  | [] => none
  | d :: cs => if c = d then some cs else none

def readOctets (cs : List Char) : Option (List Nat × List Char) := do
  let (a, cs) ← readOctet cs
  let (b, cs) ← readOctet (← readChar '.' cs)
  let (c, cs) ← readOctet (← readChar '.' cs)
  let (d, cs) ← readOctet (← readChar '.' cs)
  pure ([a, b, c, d], cs)

/-- One to four hexadecimal digits. -/
def readGroup (cs : List Char) : Option (Nat × List Char) := do
  let (digits, rest) := cs.span fun c => (Text.hexValue? c).isSome
  if digits.isEmpty ∨ digits.length > 4 then none
  let n ← digits.foldlM (fun n c => (Text.hexValue? c).map (16 * n + ·)) 0
  pure (n, rest)

/--
At most `limit` groups with colons between them, the last two perhaps written as an IPv4 address,
which the flag tells.
-/
def readGroups (first : Bool) (groups : List Nat) : Nat → List Char → List Nat × Bool × List Char
  | 0, cs => (groups, false, cs)
  | limit + 1, cs =>
    let start := if first then some cs else readChar ':' cs
    match limit, start.bind readOctets with
    | _ + 1, some ([a, b, c, d], rest) => (groups ++ [256 * a + b, 256 * c + d], true, rest)
    | _, _ =>
      match start.bind readGroup with
      | some (g, rest) => readGroups false (groups ++ [g]) limit rest
      | none => (groups, false, cs)

/-- Eight groups, or fewer with two colons in place of zeros. -/
def readIPv6 (cs : List Char) : Option (List Nat × List Char) := do
  let (head, mapped, cs) := readGroups true [] 8 cs
  if head.length = 8 then pure (head, cs)
  else if mapped then none
  else
    let cs ← readChar ':' (← readChar ':' cs)
    let (tail, _, cs) := readGroups true [] (7 - head.length) cs
    pure (head ++ List.replicate (8 - head.length - tail.length) 0 ++ tail, cs)

/-- The place and the length of the longest run of zeros, the first of several. -/
def longestZeros : Nat → List Nat → Nat × Nat
  | _, [] => (0, 0)
  | i, g :: gs =>
    let here := ((g :: gs).takeWhile (· == 0)).length
    let (j, n) := longestZeros (i + 1) gs
    if here ≠ 0 ∧ n ≤ here then (i, here) else (j, n)

def hexText (n : Nat) : List Char := Nat.toDigits 16 n

def joined (sep : Char) (pieces : List (List Char)) : List Char :=
  (pieces.intersperse [sep]).flatten

def showGroups (groups : List Nat) : List Char :=
  match groups with
  | [0, 0, 0, 0, 0, 0xFFFF, a, b] =>
    "::ffff:".toList ++ joined '.' ([a / 256, a % 256, b / 256, b % 256].map Text.natDigits)
  | groups =>
    let (i, n) := longestZeros 0 groups
    let colons (gs : List Nat) := joined ':' (gs.map hexText)
    if n > 1 then colons (groups.take i) ++ [':', ':'] ++ colons (groups.drop (i + n))
    else colons groups

end Address

namespace SocketAddress

open Address

def readV4 (cs : List Char) : Option (SocketAddress × List Char) := do
  let (octets, cs) ← readOctets cs
  let (port, cs) ← readDecimal 65536 (← readChar ':' cs)
  pure (⟨.v4 octets, port⟩, cs)

def readV6 (cs : List Char) : Option (SocketAddress × List Char) := do
  let (groups, cs) ← readIPv6 (← readChar '[' cs)
  let (scope, cs) ← match cs with
    | '%' :: cs => readDecimal Text.bound32 cs
    | cs => pure (0, cs)
  let cs ← readChar ']' cs
  let (port, cs) ← readDecimal 65536 (← readChar ':' cs)
  pure (⟨.v6 groups scope, port⟩, cs)

def read (s : String) : Option SocketAddress := do
  let (a, rest) ← (readV4 s.toList).or (readV6 s.toList)
  if rest.isEmpty then some a else none

def shown (a : SocketAddress) : String :=
  let host := match a.address with
    | .v4 octets => joined '.' (octets.map Text.natDigits)
    | .v6 groups scope =>
      let zone := if scope = 0 then [] else '%' :: Text.natDigits scope
      ['['] ++ showGroups groups ++ zone ++ [']']
  String.ofList (host ++ ':' :: Text.natDigits a.port)

end SocketAddress

end VenueGateway
