import VenueGateway.Yaml.Block
import VenueGateway.Yaml.Layout
import VenueGateway.Yaml.Tag
import VenueGateway.Yaml.Text

namespace VenueGateway.Yaml

namespace Layout

variable (l : Layout)

/-- Every block ends, and a key can no longer follow. -/
def leaveBlocks : Option Layout := do
  return { ← (l.unroll (-1)).removeKey with keyAllowed := false }

def end? : Option Layout := do
  return (← l.leaveBlocks).push .streamEnd

def marker? (t : Token) : Option Layout := do
  let l := ((← l.leaveBlocks).pass 3).push t
  if l.edition = .yaml12 ∧ t = .documentEnd then
    let l ← l.skipTail
    if l.edition.atBreak l.rest then some l else none
  else return l

def directive? (cs : List Char) : Option Layout := do
  let (token, rest) ← Yaml.directive? l.edition cs
  return ((← l.leaveBlocks).goTo rest).push token

def maxBrackets : Nat := 255

def opening? (b : Bracket) : Option Layout := do
  let l ← l.saveKey
  let l := l.reserveColumn
  if l.edition = .yaml12 ∧ maxBrackets < l.keys.length then none
  let l := { l with keys := none :: l.keys, keyAllowed := true }
  ((l.pass 1).push (.opening b)).skipTail

/-- After the closing bracket a colon may stand at once. -/
def closing? (b : Bracket) : Option Layout := do
  let l ← l.removeKey
  let keys := if l.inFlow then l.keys.drop 1 else l.keys
  let l := { l with keys, keyAllowed := false }
  let l ← ((l.pass 1).push (.closing b)).skipTail
  return if l.inFlow then { l with colonAt := some l.place.offset } else l

def comma? : Option Layout := do
  let l := { ← l.removeKey with keyAllowed := true }
  ((l.pass 1).push .comma).skipTail

/-- An anchor or a tag at the left margin does not belong to the entries of a nested sequence. -/
def isDetached : Bool :=
  l.column == 0 && l.began == 0 && decide (-1 < l.indent) &&
    match l.tokens.head? with
    | some (.anchor _) => true
    | some (.tag ..) => true
    | _ => false

def entry? (cs : List Char) : Option Layout := do
  match l.edition with
  | .yaml11 =>
    if !l.inFlow ∧ !l.keyAllowed then none
    let l ← (← l.roll l.column none .blockSequence).removeKey
    return ({ l with keyAllowed := true }.pass 1).push .entry
  | .yaml12 =>
    if l.inFlow ∨ !l.keyAllowed ∨ l.isDetached then none
    let spaces := cs.takeWhile isSpace
    let l ← l.roll l.column none .blockSequence
    let l ← (l.pass 1).skipTail
    match l.rest with
    | '-' :: more => if spaces.contains '\t' ∧ l.edition.atSpace more then none
    | _ => pure ()
    let l := if l.rest.head?.any fun c => l.edition.isBreak c || isFlowMark c
      then l.reserveColumn else l
    return { ← l.removeKey with keyAllowed := true }.push .entry

/-- Whether no tab stands in front of what comes next. -/
def beginsClean (inComment : Bool) : List Char → Bool
  | [] => true
  | c :: cs =>
    if Edition.yaml12.isBreak c then beginsClean false cs
    else if inComment then beginsClean true cs
    else if c = ' ' then beginsClean false cs
    else if c = '#' then beginsClean true cs
    else c != '\t'

def explicitKey? (cs : List Char) : Option Layout := do
  if !l.inFlow ∧ !l.keyAllowed then none
  if l.edition = .yaml12 ∧ (cs.isEmpty ∨ !beginsClean false cs) then none
  let l ← (← l.roll l.column none .blockMapping).removeKey
  return ({ l with keyAllowed := !l.inFlow }.pass 1).push .key

/-- Tabs alone do not part a colon from a name or a number. -/
def partsValue (cs : List Char) : Bool :=
  let spaces := cs.takeWhile isSpace
  cs.head? != some '\t' || spaces.contains ' ' || !((cs.drop spaces.length).head?.any isNameChar)

/-- A colon: where a key may have begun, it has. -/
def value? (cs : List Char) : Option Layout := do
  if l.edition = .yaml12 ∧ !partsValue cs then none
  let next ←
    match l.keys with
    | some k :: keys => do
      let l := { l with keys := none :: keys, keyAllowed := false }
      (l.insert k.token .key).roll k.place.column (some k.token) .blockMapping
    | _ =>
      if l.inFlow then some { l with keyAllowed := false }
      else if l.keyAllowed then l.roll l.column none .blockMapping
      else none
  return (next.reserveColumn.pass 1).push .value

/-- Whether a colon before `cs` is the mark of a value. -/
def isValue (cs : List Char) : Bool :=
  l.edition.atSpace cs || l.inFlow &&
    (l.edition == .yaml11 || cs.head?.any isFlowMark || l.colonAt == some l.place.offset)

def named? (make : String → Token) (cs : List Char) : Option Layout := do
  let l := { ← l.saveKey with keyAllowed := false }
  let (name, rest) ← anchorName? l.edition cs
  return (l.goTo rest).push (make name)

def tag? (cs : List Char) : Option Layout := do
  let l := { ← l.saveKey with keyAllowed := false }
  let (token, rest) ← tagToken? l.edition l.inFlow cs
  return (l.goTo rest).push token

def blockScalar? (style : ScalarStyle) (cs : List Char) : Option Layout := do
  let l ← if l.edition = .yaml11 then l.removeKey else l.saveKey
  let l := if l.edition = .yaml12 then l.releaseColumn else l
  let (text, rest) ← blockScalar l.edition (style = .folded) l.indent cs
  return ({ l with keyAllowed := true }.goTo rest).push (.scalar style (String.ofList text))

/-- What may follow a quoted scalar that began on a line. -/
def endsQuoted (line : Nat) : Bool :=
  match l.rest with
  | ':' :: _ => l.inFlow || l.place.line == line
  | c :: _ => l.edition.isBreak c || l.inFlow && [',', ']', '\x7d'].contains c
  | [] => true

def quoted? (double : Bool) (cs : List Char) : Option Layout := do
  let line := l.place.line
  let l := { ← l.saveKey with keyAllowed := false }.reserveColumn
  let s ← quotedText l.edition double l.indent 0 {} cs
  let l := (l.pass (s.size + 1)).push (.scalar .quoted (String.ofList s.text))
  if l.edition = .yaml11 then return l
  let l ← l.skipTail
  if !l.endsQuoted line then none
  let l ← l.skipGap
  return { l with colonAt := some l.place.offset }

/-- The characters that begin no plain scalar. -/
def isIndicator (c : Char) : Bool :=
  isSpace c || isFlowMark c ||
    ['#', '&', '*', '!', '|', '>', '\x27', '"', '%', '@', '\x60'].contains c

def plain? (c : Char) : Option Layout := do
  match l.edition with
  | .yaml11 => if isIndicator c then none
  | .yaml12 => if ['%', '@', '\x60'].contains c then none
  let l := { ← l.saveKey with keyAllowed := false }
  let l := if l.edition = .yaml12 then l.releaseColumn else l
  let least := (l.indent + 1).toNat
  if l.edition = .yaml12 ∧ l.inFlow ∧ l.column < least then none
  let s ← plainText l.edition l.inFlow least {} l.rest
  let l := (l.pass s.size).push (.scalar .plain (String.ofList s.text))
  return if s.broken then { l with keyAllowed := true } else l

/-- The token that begins with a character. -/
def token? (c : Char) (cs : List Char) : Option Layout :=
  let e := l.edition
  if l.column = 0 ∧ c = '%' then l.directive? cs
  else if l.column = 0 ∧ e.isMarker l.rest then
    l.marker? (if c = '-' then .documentStart else .documentEnd)
  else if e = .yaml12 ∧ l.column < l.indent then none
  else if c = '[' then l.opening? .square
  else if c = '\x7b' then l.opening? .curly
  else if c = ']' then l.closing? .square
  else if c = '\x7d' then l.closing? .curly
  else if c = ',' then l.comma?
  else if c = '-' ∧ e.atSpace cs then l.entry? cs
  else if c = '?' ∧ (e.atSpace cs ∨ e = .yaml11 ∧ l.inFlow) then l.explicitKey? cs
  else if c = ':' ∧ l.isValue cs then
    if e = .yaml12 ∧ l.colonAt ≠ some l.place.offset ∧ cs.head?.any (['[', '\x7b'].contains ·) then none
    else l.value? cs
  else if c = '*' then l.named? .reference cs
  else if c = '&' then l.named? .anchor cs
  else if c = '!' then l.tag? cs
  else if c = '|' ∧ !l.inFlow then l.blockScalar? .literal cs
  else if c = '>' ∧ !l.inFlow then l.blockScalar? .folded cs
  else if c = '\x27' then l.quoted? false cs
  else if c = '"' then l.quoted? true cs
  else l.plain? c

/-- The next token; nothing further is read behind the end. -/
def next? : Option Layout := do
  let l ← (← l.skipGap).dropKeys
  let l := l.unroll l.column
  match l.rest with
  | [] => l.end?
  | c :: cs => return { ← l.token? c cs with began := l.column }

/-- The tokens up to the end or to the first fault. A step for each character is enough. -/
def run : Nat → Layout → List Token
  | 0, l => l.tokens.reverse
  | fuel + 1, l =>
    match l.next? with
    | none => l.tokens.reverse
    | some next =>
      if next.tokens.head? = some .streamEnd then next.tokens.reverse else run fuel next

end Layout

/-- A mark of the byte order takes a column in front of a text. -/
def begin (e : Edition) : List Char → Layout
  | '\ufeff' :: cs => { edition := e, rest := cs, place := ⟨0, 1, 3, true⟩ }
  | cs => { edition := e, rest := cs }

/-- The tokens of a text; the end comes last unless the text is at fault. -/
def tokensOf (e : Edition) (text : String) : List Token :=
  let l := begin e text.toList
  if l.rest.all isAllowed then Layout.run (l.rest.length + 1) l else []

end VenueGateway.Yaml
