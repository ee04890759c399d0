import VenueGateway.Yaml.Basic

namespace VenueGateway.Yaml

inductive Chomp where
  | strip
  | clip
  | keep
deriving DecidableEq

/-- A literal block keeps its line breaks; a folded one joins neighbouring lines with a space,
unless one of them is indented further. -/
structure BlockHeader where
  chomp : Option Chomp := none
  indent : Option Nat := none

/-- Each indicator stands at most once. -/
def BlockHeader.read (h : BlockHeader) : List Char → Option (BlockHeader × List Char)
  | '+' :: cs => if h.chomp.isSome then some (h, '+' :: cs) else read { h with chomp := some .keep } cs
  | '-' :: cs => if h.chomp.isSome then some (h, '-' :: cs) else read { h with chomp := some .strip } cs
  | c :: cs =>
    if c.isDigit ∧ h.indent.isNone then
      if c = '0' then none else read { h with indent := some (c.toNat - 48) } cs
    else some (h, c :: cs)
  | [] => some (h, [])

/-- The text of a block so far in reverse, and the line breaks that wait for its next line. -/
structure BlockText where
  reversed : List Char := []
  first : List Char := []
  more : List Char := []
  indented : Bool := false

namespace BlockText

def emptyLine (b : BlockText) (text : List Char) : BlockText := { b with more := b.more ++ text }

/-- Begins a line, which is indented further if a space comes first. -/
def beginLine (folded : Bool) (b : BlockText) (c : Char) : BlockText :=
  let indented := isSpace c
  let joined :=
    if folded ∧ b.first = ['\n'] ∧ !b.indented ∧ !indented then
      if b.more.isEmpty then [' '] else b.more
    else b.first ++ b.more
  { reversed := c :: joined.reverseAux b.reversed, indented }

def finish (chomp : Chomp) (b : BlockText) : List Char :=
  let tail := match chomp with
    | .strip => []
    | .clip => b.first
    | .keep => b.first ++ b.more
  b.reversed.reverse ++ tail

end BlockText

/-- The empty lines in front of a block, and the widest indentation up to its first content. -/
structure BlockStart where
  breaks : List Char
  column : Nat
  widest : Nat
  rest : List Char

/-- Spaces up to a declared indentation are skipped, and without one all of them; no tab may indent. -/
def blockStart (e : Edition) (declared : Option Nat) (breaks : List Char) (column widest : Nat) :
    List Char → Option BlockStart
  | [] => some ⟨breaks, column, max column widest, []⟩
  | '\r' :: '\n' :: cs => blockStart e declared (breaks ++ ['\n']) 0 (max column widest) cs
  | c :: cs =>
    let indenting := declared.all (column < ·)
    if indenting ∧ c = ' ' then blockStart e declared breaks (column + 1) widest cs
    else if indenting ∧ c = '\t' then none
    else if e.isBreak c then
      blockStart e declared (breaks ++ breakText c) 0 (max column widest) cs
    else some ⟨breaks, column, max column widest, c :: cs⟩

/-- The lines of a block; the column counts up to the indentation and not in the content. -/
def blockLines (e : Edition) (folded : Bool) (indent : Nat) (b : BlockText) :
    Option Nat → List Char → Option (BlockText × List Char)
  | _, [] => some (b, [])
  | none, '\r' :: '\n' :: cs => blockLines e folded indent { b with first := ['\n'] } (some 0) cs
  | some _, '\r' :: '\n' :: cs => blockLines e folded indent (b.emptyLine ['\n']) (some 0) cs
  | none, c :: cs =>
    if e.isBreak c then blockLines e folded indent { b with first := breakText c } (some 0) cs
    else blockLines e folded indent { b with reversed := c :: b.reversed } none cs
  | some column, c :: cs =>
    if column < indent ∧ c = ' ' then blockLines e folded indent b (some (column + 1)) cs
    else if e.isBreak c then blockLines e folded indent (b.emptyLine (breakText c)) (some 0) cs
    else if indent ≤ column then blockLines e folded indent (b.beginLine folded c) none cs
    else if c = '\t' then none
    else some (b, c :: cs)

/--
The text of a block after its mark, and what follows it. The block is indented further than `indent`,
and by the rules of YAML 1.2 its first line is not indented by less than it declares.
-/
def blockScalar (e : Edition) (folded : Bool) (indent : Int) (cs : List Char) :
    Option (List Char × List Char) := do
  let (header, cs) ← BlockHeader.read {} cs
  let after := skipSpaces cs
  if after.head? = some '#' ∧ e = .yaml12 ∧ after.length = cs.length then none
  let after := if after.head? = some '#' then e.skipLine after else after
  if !e.atBreak after then none
  let body := match after with
    | '\r' :: '\n' :: cs => cs
    | cs => cs.drop 1
  let declared := header.indent.map ((max indent 0).toNat + ·)
  let start ← blockStart e declared [] 0 0 body
  let least := declared.getD (max start.widest (max (indent + 1).toNat 1))
  if e = .yaml12 ∧ !start.rest.isEmpty ∧ start.column < least ∧ indent < start.column then none
  let chomp := header.chomp.getD .clip
  let (b, rest) ← blockLines e folded least { more := start.breaks } (some start.column) start.rest
  return (b.finish chomp, rest)

end VenueGateway.Yaml
