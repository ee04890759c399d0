import VenueGateway.Text.Blank
import VenueGateway.Text.Hex
import VenueGateway.Yaml.Basic
import VenueGateway.Yaml.Token

namespace VenueGateway.Yaml

/-- The name of an anchor or of an alias. -/
def anchorName? (e : Edition) (cs : List Char) : Option (String × List Char) :=
  let isPart (c : Char) : Bool :=
    match e with
    | .yaml11 => isNameChar c
    | .yaml12 => !(isSpace c || e.isBreak c || isFlowMark c)
  let (name, rest) := cs.span isPart
  let ends := e = .yaml12 ∨ e.atSpace rest ∨
    rest.head?.any ['?', ':', ',', ']', '\x7d', '%', '@', '\x60'].contains
  if !name.isEmpty ∧ ends then some (String.ofList name, rest) else none

def isTagChar (c : Char) : Bool :=
  isNameChar c ||
    [';', '/', '?', ':', '@', '&', '=', '+', '$', '.', '~', '*', '\x27', '(', ')', '%'].contains c

def isAddressChar (c : Char) : Bool := isTagChar c || [',', '[', ']', '!'].contains c

/-- Characters by number in tags take one byte or two. -/
def unescapeTag : List Char → Option (List Char)
  | [] => some []
  | '%' :: a :: b :: cs => do
    let n := 16 * (← Text.hexValue? a) + (← Text.hexValue? b)
    if n < 0x80 then return Char.ofNat n :: (← unescapeTag cs)
    match cs with
    | '%' :: c :: d :: cs =>
      let m := 16 * (← Text.hexValue? c) + (← Text.hexValue? d)
      if 0xC2 ≤ n ∧ n < 0xD8 ∧ 0x80 ≤ m ∧ m < 0xC0 then
        return Char.ofNat (64 * (n % 32) + m % 64) :: (← unescapeTag cs)
      else none
    | _ => none
  | '%' :: _ => none
  | c :: cs => return c :: (← unescapeTag cs)

/-- The longest text of some characters, and what follows it. -/
def tagText? (isPart : Char → Bool) (cs : List Char) : Option (String × List Char) := do
  let (text, rest) := cs.span isPart
  return (String.ofList (← unescapeTag text), rest)

/-- A name between exclamation marks, the first of which has been read. -/
def tagHandle? (cs : List Char) : Option (String × List Char) :=
  match cs.span isNameChar with
  | (name, '!' :: rest) => some (String.ofList ('!' :: name ++ ['!']), rest)
  | _ => none

/-- A tag after its exclamation mark: its handle, its suffix and what follows. -/
def tagParts? (cs : List Char) : Option (String × String × List Char) := do
  match cs with
  | '<' :: cs =>
    let (address, rest) ← tagText? isAddressChar cs
    if address.isEmpty then none
    return ("", address, ← Text.dropStart? ['>'] rest)
  | cs =>
    match tagHandle? cs with
    | some (handle, cs) =>
      let (suffix, rest) ← tagText? isTagChar cs
      if suffix.isEmpty then none
      return (handle, suffix, rest)
    | none =>
      let (suffix, rest) ← tagText? isTagChar cs
      return if suffix.isEmpty then ("", "!", rest) else ("!", suffix, rest)

def tagToken? (e : Edition) (inFlow : Bool) (cs : List Char) : Option (Token × List Char) := do
  let (handle, suffix, rest) ← tagParts? cs
  let ends := e.atSpace rest || inFlow &&
    (if e = .yaml11 then rest.head? == some ',' else rest.head?.any isFlowMark)
  if ends then some (.tag handle suffix, rest) else none

def versionNumber? (cs : List Char) : Option (Nat × List Char) :=
  let (digits, rest) := cs.span Char.isDigit
  if digits.length ≤ 9 then (Text.readNat digits).map (·, rest) else none

/-- A directive after its percent sign, and the lines that follow. -/
def directive? (e : Edition) (cs : List Char) : Option (Token × List Char) := do
  let (name, cs) := cs.span isNameChar
  if !e.atSpace cs then none
  let value := skipSpaces cs
  let (token, cs) ←
    match String.ofList name with
    | "YAML" => do
      let (major, cs) ← versionNumber? value
      let (minor, cs) ← versionNumber? (← Text.dropStart? ['.'] cs)
      pure (Token.version major minor, cs)
    | "TAG" => do
      let cs ← Text.dropStart? ['!'] value
      let (handle, cs) := (tagHandle? cs).getD ("!", cs)
      if !(cs.head?.any isSpace) then none
      let cs := skipSpaces cs
      if cs.head?.any isFlowMark then none
      let (start, cs) ← tagText? isAddressChar cs
      if start.isEmpty ∨ !e.atSpace cs then none
      pure (Token.tagHandle handle start, cs)
    | _ => none
  let after := skipSpaces cs
  let after :=
    if after.head? = some '#' ∧ after.length < cs.length then e.skipLine after else after
  if !e.atBreak after then none
  return (token, match after with
    | '\r' :: '\n' :: cs => cs
    | cs => cs.drop 1)

end VenueGateway.Yaml
