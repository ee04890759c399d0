import VenueGateway.Text.Hex
import VenueGateway.Yaml.Basic

namespace VenueGateway.Yaml

/-- What lies between two words of a scalar. Behind line breaks stand spaces up to a column. -/
inductive Gap where
  | spaces (cs : List Char)
  | breaks (first more : List Char) (column : Nat)

namespace Gap

def none : Gap := .spaces []

def isNone : Gap → Bool
  | .spaces [] => true
  | _ => false

def column? : Gap → Option Nat
  | .spaces _ => Option.none
  | .breaks _ _ column => some column

def isBroken (g : Gap) : Bool := g.column?.isSome

def space (g : Gap) (c : Char) : Gap :=
  match g with
  | .spaces cs => .spaces (cs ++ [c])
  | .breaks first more column => .breaks first more (column + 1)

def lineBreak (g : Gap) (text : List Char) : Gap :=
  match g with
  | .spaces _ => .breaks text [] 0
  | .breaks first more _ => .breaks first (more ++ text) 0

def text : Gap → List Char
  | .spaces cs => cs
  | .breaks ['\n'] [] _ => [' ']
  | .breaks ['\n'] more _ => more
  | .breaks first more _ => first ++ more

/-- A text in reverse with the gap behind it. -/
def after (g : Gap) (reversed : List Char) : List Char := g.text.reverseAux reversed

end Gap

structure ScalarText where
  text : List Char
  /-- The characters that it takes, with its quotes or the gap behind it. -/
  size : Nat
  /-- Whether that gap holds a line break. -/
  broken : Bool := false

/-- A scalar under way: its text in reverse, the gap behind it and the characters read. -/
structure Passage where
  reversed : List Char := []
  gap : Gap := .none
  size : Nat := 0

namespace Passage

def space (p : Passage) (c : Char) : Passage := { p with gap := p.gap.space c, size := p.size + 1 }

def lineBreak (p : Passage) (text : List Char) (n : Nat) : Passage :=
  { p with gap := p.gap.lineBreak text, size := p.size + n }

def char (p : Passage) (c : Char) (n : Nat) : Passage :=
  { reversed := c :: p.gap.after p.reversed, gap := .none, size := p.size + n }

/-- A line break that only parts the lines of the text. -/
def hiddenBreak (p : Passage) (n : Nat) : Passage :=
  { reversed := p.gap.after p.reversed, gap := .breaks [] [] 0, size := p.size + n }

/-- A plain scalar ends in front of its gap. -/
def stop (p : Passage) : ScalarText := ⟨p.reversed.reverse, p.size, p.gap.isBroken⟩

/-- A quoted scalar ends with its quote. -/
def close (p : Passage) : ScalarText := ⟨(p.gap.after p.reversed).reverse, p.size + 1, false⟩

/-- Whether the gap ends left of a column. -/
def isLeftOf (p : Passage) (column : Int) : Bool :=
  p.gap.column?.any fun k => decide ((k : Int) < column)

end Passage

/--
A plain scalar and the gap behind it. It ends before a colon that a space follows, before a comment,
before a marker of documents, and before a line whose content begins left of `least`; inside brackets
also before their marks, but there the column does not count.
-/
def plainText (e : Edition) (inFlow : Bool) (least : Nat) (p : Passage) :
    List Char → Option ScalarText
  | [] => some p.stop
  | '\r' :: '\n' :: cs => plainText e inFlow least (p.lineBreak ['\n'] 2) cs
  | c :: cs =>
    let flowNext := cs.head?.any isFlowMark
    if e.isBreak c then plainText e inFlow least (p.lineBreak (breakText c) 1) cs
    else if isSpace c then
      if c = '\t' ∧ p.isLeftOf least then none else plainText e inFlow least (p.space c) cs
    else if !p.gap.isNone ∧ c = '#' then some p.stop
    else if !inFlow ∧ p.isLeftOf least then some p.stop
    else if p.gap.column? = some 0 ∧ e.isMarker (c :: cs) then some p.stop
    else if e = .yaml12 ∧ inFlow ∧ c = '-' ∧ flowNext ∧ (p.reversed.isEmpty ∨ !p.gap.isNone) then none
    else if c = ':' ∧ e.atSpace cs then some p.stop
    else if inFlow ∧ isFlowMark c then some p.stop
    else if inFlow ∧ c = ':' ∧ e = .yaml11 ∧ (flowNext ∨ cs.head? = some '?') then none
    else if inFlow ∧ c = ':' ∧ flowNext then some p.stop
    else plainText e inFlow least (p.char c 1) cs

def escapedChar? : Char → Option Char
  | '0' => some '\x00'
  | 'a' => some '\x07'
  | 'b' => some '\x08'
  | 't' => some '\t'
  | '\t' => some '\t'
  | 'n' => some '\n'
  | 'v' => some '\x0b'
  | 'f' => some '\x0c'
  | 'r' => some '\r'
  | 'e' => some '\x1b'
  | ' ' => some ' '
  | '"' => some '"'
  | '/' => some '/'
  | '\\' => some '\\'
  | 'N' => some '\u0085'
  | '_' => some '\u00a0'
  | 'L' => some '\u2028'
  | 'P' => some '\u2029'
  | _ => none

def escapeDigits : Char → Nat
  | 'x' => 2
  | 'u' => 4
  | 'U' => 8
  | _ => 0

/-- The character of an escape by number. -/
def numbered? (digits : List Char) : Option Char := do
  let n ← digits.foldlM (fun n c => (Text.hexValue? c).map (16 * n + ·)) 0
  if n.isValidChar then some (Char.ofNat n) else none

/-- The character of an escape, and how many characters write it. -/
def escape? (cs : List Char) : Option (Char × Nat) := do
  let e ← cs.head?
  let n := escapeDigits e
  if n = 0 then return (← escapedChar? e, 1)
  let digits := (cs.drop 1).take n
  if digits.length < n then none
  return (← numbered? digits, n + 1)

/-- Whether the lines of a quoted scalar may continue like this. -/
def Passage.mayContinue (p : Passage) (e : Edition) (least : Int) (cs : List Char) : Bool :=
  !(p.gap.column? == some 0 && e.isMarker cs) && (e == .yaml11 || !p.isLeftOf least)

/--
A quoted scalar up to its closing quote. By the rules of YAML 1.2 its lines do not begin left of
`least`. The number counts the characters of an escape that have been read already.
-/
def quotedText (e : Edition) (double : Bool) (least : Int) :
    Nat → Passage → List Char → Option ScalarText
  | _, _, [] => none
  | n + 1, p, _ :: cs => quotedText e double least n p cs
  | 0, p, '\r' :: '\n' :: cs => quotedText e double least 0 (p.lineBreak ['\n'] 2) cs
  | 0, p, c :: cs =>
    if e.isBreak c then quotedText e double least 0 (p.lineBreak (breakText c) 1) cs
    else if isSpace c then
      if e = .yaml12 ∧ c = '\t' ∧ p.isLeftOf least then none
      else quotedText e double least 0 (p.space c) cs
    else if !p.mayContinue e least (c :: cs) then none
    else if !double ∧ c = '\x27' then
      match cs with
      | '\x27' :: cs => quotedText e double least 0 (p.char '\x27' 2) cs
      | _ => some p.close
    else if double ∧ c = '"' then some p.close
    else if double ∧ c = '\\' then
      match cs with
      | '\r' :: '\n' :: cs => quotedText e double least 0 (p.hiddenBreak 3) cs
      | d :: more =>
        if e.isBreak d then quotedText e double least 0 (p.hiddenBreak 2) more
        else
          match escape? (d :: more) with
          | none => none
          | some (x, n) => quotedText e double least (n - 1) (p.char x (n + 1)) more
      | [] => none
    else quotedText e double least 0 (p.char c 1) cs

end VenueGateway.Yaml
