namespace VenueGateway.Yaml

/-- A document has to be well laid out by the rules of YAML 1.2, and its values are those that YAML
1.1 reads; the editions differ already in what ends a line. -/
inductive Edition where
  | yaml11
  | yaml12
deriving DecidableEq

def isAllowed (c : Char) : Bool :=
  let n := c.toNat
  n == 9 || n == 10 || n == 13 || (0x20 ≤ n && n ≤ 0x7E) || n == 0x85 ||
    (0xA0 ≤ n && n ≤ 0xFFFD && n != 0xFEFF) || 0x10000 ≤ n

def isSpace (c : Char) : Bool := c == ' ' || c == '\t'

def skipSpaces (cs : List Char) : List Char := cs.dropWhile isSpace

def isFlowMark (c : Char) : Bool := [',', '[', ']', '\x7b', '\x7d'].contains c

def isNameChar (c : Char) : Bool := c.isAlphanum || c == '-' || c == '_'

/-- What a line break adds to a text: only the two separators of Unicode are told apart. -/
def breakText (c : Char) : List Char := if c == '\u2028' || c == '\u2029' then [c] else ['\n']

namespace Edition

def isBreak : Edition → Char → Bool
  | .yaml11, c => ['\n', '\r', '\u0085', '\u2028', '\u2029'].contains c
  | .yaml12, c => c == '\n' || c == '\r'

/-- Whether the line ends here. -/
def atBreak (e : Edition) (cs : List Char) : Bool := cs.head?.elim true e.isBreak

/-- Whether a space, a line break or the end comes next. -/
def atSpace (e : Edition) (cs : List Char) : Bool :=
  cs.head?.elim true fun c => isSpace c || e.isBreak c

def skipLine (e : Edition) (cs : List Char) : List Char := cs.dropWhile (!e.isBreak ·)

/-- Whether a line that begins here opens or closes a document. -/
def isMarker (e : Edition) : List Char → Bool
  | '-' :: '-' :: '-' :: cs => e.atSpace cs
  | '.' :: '.' :: '.' :: cs => e.atSpace cs
  | _ => false

end Edition

/-- A place in a text; it is fresh while only spaces stand before it on its line. -/
structure Place where
  line : Nat := 0
  column : Nat := 0
  offset : Nat := 0
  fresh : Bool := true

namespace Place

def nextLine (p : Place) (size : Nat) : Place := ⟨p.line + 1, 0, p.offset + size, true⟩

/-- The place behind some text. -/
def after (e : Edition) (p : Place) : List Char → Place
  | [] => p
  | '\r' :: '\n' :: cs => after e (p.nextLine 2) cs
  | c :: cs =>
    if e.isBreak c then after e (p.nextLine c.utf8Size) cs
    else after e ⟨p.line, p.column + 1, p.offset + c.utf8Size, p.fresh && isSpace c⟩ cs

end Place

end VenueGateway.Yaml
