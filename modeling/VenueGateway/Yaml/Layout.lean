import VenueGateway.Yaml.Basic
import VenueGateway.Yaml.Token

namespace VenueGateway.Yaml

/-- A token that may begin a key; where it is required, nothing else can stand there. -/
structure KeyStart where
  token : Nat
  place : Place
  required : Bool

/-- The indentation outside of a block, or outside of a column that only its contents may not enter. -/
structure Indent where
  outside : Int
  isBlock : Bool

/-- The layout of a text as far as it has been read: the blocks that the indentation has opened, the
brackets, and the tokens that turn out to begin a key once a colon follows. -/
structure Layout where
  edition : Edition
  rest : List Char
  place : Place := {}
  /-- The latest comes first. -/
  tokens : List Token := []
  size : Nat := 0
  /-- The column where the latest token begins. -/
  began : Nat := 0
  indent : Int := -1
  indents : List Indent := []
  /-- One for the blocks and one for each open bracket, the innermost first. -/
  keys : List (Option KeyStart) := [none]
  keyAllowed : Bool := true
  /-- Where a colon ends a key without a space after it. -/
  colonAt : Option Nat := none

namespace Layout

def inFlow (l : Layout) : Bool := 1 < l.keys.length

def column (l : Layout) : Nat := l.place.column

/-- Goes on by some characters. -/
def pass (l : Layout) (n : Nat) : Layout :=
  { l with rest := l.rest.drop n, place := l.place.after l.edition (l.rest.take n) }

def goTo (l : Layout) (rest : List Char) : Layout := l.pass (l.rest.length - rest.length)

def push (l : Layout) (t : Token) : Layout := { l with tokens := t :: l.tokens, size := l.size + 1 }

/-- Puts a token in front of the one with number `i`. -/
def insert (l : Layout) (i : Nat) (t : Token) : Layout :=
  let (later, earlier) := l.tokens.splitAt (l.size - i)
  { l with tokens := later ++ t :: earlier, size := l.size + 1 }

def closeBlocks (column : Int) (l : Layout) : List Indent → Layout
  | [] => { l with indents := [] }
  | i :: indents =>
    if column < l.indent then
      let l := { l with indent := i.outside }
      closeBlocks column (if i.isBlock then l.push .blockEnd else l) indents
    else { l with indents := i :: indents }

/-- Ends the blocks that are indented further than `column`. -/
def unroll (l : Layout) (column : Int) : Layout :=
  if l.inFlow then l else closeBlocks column l l.indents

def maxBlocks : Nat := 255

/-- Gives back the column that `reserveColumn` has taken. -/
def releaseColumn (l : Layout) : Layout :=
  match l.indents with
  | ⟨outside, false⟩ :: indents => { l with indent := outside, indents }
  | _ => l

/-- What follows in a block has to be indented further than the block. -/
def reserveColumn (l : Layout) : Layout :=
  match l.edition, l.inFlow, l.indents with
  | .yaml12, false, ⟨_, true⟩ :: _ =>
    { l with indent := l.indent + 1, indents := ⟨l.indent, false⟩ :: l.indents }
  | _, _, _ => l

/-- Opens a block in a column further right; its token takes the place `at?`. -/
def roll (l : Layout) (column : Nat) (at? : Option Nat) (t : Token) : Option Layout :=
  if l.inFlow then some l
  else
    let l := if l.indent ≤ column then l.releaseColumn else l
    if column ≤ l.indent then some l
    else if l.edition = .yaml12 ∧ maxBlocks ≤ l.indents.length then none
    else
      let l := { l with indent := column, indents := ⟨l.indent, true⟩ :: l.indents }
      some (l.insert (at?.getD l.size) t)

/-- The token can no longer begin a key. -/
def removeKey (l : Layout) : Option Layout :=
  match l.keys with
  | some k :: keys => if k.required then none else some { l with keys := none :: keys }
  | _ => some l

/-- The next token may begin a key. -/
def saveKey (l : Layout) : Option Layout := do
  if !l.keyAllowed then return l
  let l ← if l.edition = .yaml11 then l.removeKey else some l
  let required := !l.inFlow && l.indent == l.column && (l.indents.head?.any (·.isBlock))
  return { l with keys := some ⟨l.size, l.place, required⟩ :: l.keys.drop 1 }

def maxKeySize : Nat := 1024

/-- A key does not reach the next line, and it is not too long. -/
def dropKeys (l : Layout) : Option Layout := do
  if l.edition = .yaml12 ∧ l.inFlow then return l
  let keys ← l.keys.mapM fun key =>
    match key with
    | none => some none
    | some k =>
      if k.place.line < l.place.line ∨ k.place.offset + maxKeySize < l.place.offset then
        if k.required then none else some none
      else some (some k)
  return { l with keys }

/-- How far a gap reaches, and whether a key may follow it. -/
structure GapEnd where
  size : Nat
  keyAllowed : Bool

/-- Skips spaces, line breaks and comments; a tab may not stand where a key may begin. -/
def gap11 (inFlow inComment : Bool) (e : GapEnd) : List Char → GapEnd
  | [] => e
  | c :: cs =>
    let next := { e with size := e.size + 1 }
    if Edition.yaml11.isBreak c then
      gap11 inFlow false { next with keyAllowed := e.keyAllowed || !inFlow } cs
    else if inComment then gap11 inFlow true next cs
    else if c = ' ' ∨ c = '\t' ∧ (inFlow ∨ !e.keyAllowed) then gap11 inFlow false next cs
    else if c = '#' then gap11 inFlow true next cs
    else e

/-- What has been seen of a line in a gap. -/
structure GapLine where
  column : Nat
  fresh : Bool
  tabbed : Bool := false
  comment : Bool := false

/-- Skips spaces, line breaks and comments; a tab may not indent a line with content. -/
def gap12 (inFlow : Bool) (indent : Int) (line : GapLine) (e : GapEnd) :
    List Char → Option GapEnd
  | [] => some e
  | c :: cs =>
    let next := { e with size := e.size + 1 }
    let further := { line with column := line.column + 1 }
    if Edition.yaml12.isBreak c then
      gap12 inFlow indent ⟨0, true, false, false⟩
        { next with keyAllowed := e.keyAllowed || !inFlow } cs
    else if line.comment ∨ c = ' ' then gap12 inFlow indent further next cs
    else if c = '\t' then
      let tabbed := line.tabbed || (line.fresh && decide (line.column < indent))
      gap12 inFlow indent { further with tabbed } next cs
    else if c = '#' then gap12 inFlow indent { further with comment := true } next cs
    else if line.tabbed then none
    else some e

def skipGap (l : Layout) : Option Layout := do
  let start : GapEnd := ⟨0, l.keyAllowed⟩
  let e ←
    match l.edition with
    | .yaml11 => some (gap11 l.inFlow false start l.rest)
    | .yaml12 => gap12 l.inFlow l.indent ⟨l.column, l.place.fresh, false, false⟩ start l.rest
  return { l.pass e.size with keyAllowed := e.keyAllowed }

/-- Skips what is left of a line if it is only a comment; a space has to precede that. -/
def skipTail (l : Layout) : Option Layout :=
  if l.edition = .yaml11 then some l
  else if l.rest.head? = some '#' then none
  else
    let l := l.pass (l.rest.takeWhile isSpace).length
    if l.rest.head? = some '#' then
      some (l.pass (l.rest.takeWhile (!l.edition.isBreak ·)).length)
    else some l

end Layout

end VenueGateway.Yaml
