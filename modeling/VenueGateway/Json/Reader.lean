import VenueGateway.Json.Basic
import VenueGateway.Text.Integer
import VenueGateway.Text.Hex

namespace VenueGateway.Json

/-- Text is read by two machines that take one element at a time: characters to tokens, and tokens
to a value, the second with the open containers on a stack. -/
inductive Token where
  | beginArray
  | endArray
  | beginObject
  | endObject
  | comma
  | colon
  | literal (j : Json)
  | text (s : String)

/-- Digits that the significand, of at most 64 bits, takes in, and the count of those it drops. -/
def significand : Nat → List Char → Nat × Nat
  | s, [] => (s, 0)
  | s, c :: cs =>
    let s' := 10 * s + (c.toNat - 48)
    if s' < Text.bound64 then significand s' cs else (s, (c :: cs).length)

/-- One multiplication or division by a power of ten within the table of doubles. -/
def scaleOnce (x : Float) (e : Int) : Float :=
  if 0 ≤ e then x * Decimal.nearest false (Nat.pow 10 e.toNat) 1
  else x / Decimal.nearest false (Nat.pow 10 (-e).toNat) 1

/-- Steps of 10^308 first, for exponents far below the table; above it there is no value. -/
def scaleDown : Nat → Float → Int → Option Float
  | 0, x, _ => some x
  | n + 1, x, e =>
    if e.natAbs ≤ 308 then
      let y := scaleOnce x e
      if y.isFinite then some y else none
    else if x == 0 then some x
    else if 0 ≤ e then none
    else scaleDown n (x / 1e308) (e + 308)

/-- The double of a significand and a power of ten; none when it is too large. -/
def scaled (negative : Bool) (s : Nat) (e : Int) : Option Json :=
  (scaleDown 4 (Decimal.nearest false s 1) e).map fun x =>
    .number (.double (if negative then -x else x))

def readExponent (negative : Bool) (s : Nat) (e : Int) (cs : List Char) : Option Json :=
  let (down, ds) :=
    match cs with
    | '+' :: ds => (false, ds)
    | '-' :: ds => (true, ds)
    | ds => (false, ds)
  if ds.isEmpty then none
  else do
    let n ← Text.readDigits 0 ds
    if n < 2147483648 then scaled negative s (if down then e - n else e + n)
    else if s ≠ 0 ∧ !down then none
    else pure (.number (.double (if negative then -0.0 else 0.0)))

def wholeNumber (negative : Bool) (s : Nat) : Json :=
  if !negative then .number (.whole s)
  else if s = 0 ∨ Text.signedBound64 < s then .number (.double (-(Decimal.nearest false s 1)))
  else .number (.whole (-(s : Int)))

/-- A number without its sign: no leading zeros, a digit on both sides of a point. -/
def readUnsigned (negative : Bool) (cs : List Char) : Option Json := do
  let (whole, rest) := cs.span Char.isDigit
  if whole.isEmpty then none
  if whole.length > 1 ∧ whole.head? = some '0' then none
  let (s, dropped) := significand 0 whole
  match rest with
  | [] => if dropped = 0 then pure (wholeNumber negative s) else scaled negative s dropped
  | '.' :: rest =>
    let (frac, rest) := rest.span Char.isDigit
    if frac.isEmpty then none
    let (s, unread) := significand s frac
    let e : Int := (dropped : Int) - ((frac.length - unread : Nat) : Int)
    match rest with
    | [] => scaled negative s e
    | 'e' :: rest => readExponent negative s e rest
    | 'E' :: rest => readExponent negative s e rest
    | _ => none
  | 'e' :: rest => readExponent negative s dropped rest
  | 'E' :: rest => readExponent negative s dropped rest
  | _ => none

def readWord (cs : List Char) : Option Json :=
  match String.ofList cs with
  | "null" => some .null
  | "true" => some (.bool true)
  | "false" => some (.bool false)
  | _ =>
    match cs with
    | '-' :: cs => readUnsigned true cs
    | cs => readUnsigned false cs

/-- Inside a string: characters so far, and a first surrogate that waits for its second. -/
structure Quote where
  chars : List Char := []
  surrogate : Option Nat := none

def Quote.push (q : Quote) (c : Char) : Option Quote :=
  if q.surrogate.isNone then some { q with chars := c :: q.chars } else none

/-- A four-digit escape; the two halves of a pair make one character. -/
def Quote.pushUnit (q : Quote) (n : Nat) : Option Quote :=
  match q.surrogate with
  | none =>
    if 0xD800 ≤ n ∧ n < 0xDC00 then some { q with surrogate := some n }
    else if 0xDC00 ≤ n ∧ n < 0xE000 then none
    else q.push (Char.ofNat n)
  | some high =>
    if 0xDC00 ≤ n ∧ n < 0xE000 then
      some ⟨Char.ofNat (0x10000 + (high - 0xD800) * 1024 + (n - 0xDC00)) :: q.chars, none⟩
    else none

def escaped? (c : Char) : Option Char :=
  match c with
  | '"' => some '"'
  | '\\' => some '\\'
  | '/' => some '/'
  | 'b' => some (Char.ofNat 8)
  | 'f' => some (Char.ofNat 12)
  | 'n' => some '\n'
  | 'r' => some '\r'
  | 't' => some '\t'
  | _ => none

/-- Where the scan of the characters stands. -/
inductive Scan where
  | between
  | word (reversed : List Char)
  | quote (q : Quote)
  | escape (q : Quote)
  | units (q : Quote) (value digits : Nat)

def punctuation? (c : Char) : Option Token :=
  match c with
  | '[' => some .beginArray
  | ']' => some .endArray
  | '{' => some .beginObject
  | '}' => some .endObject
  | ',' => some .comma
  | ':' => some .colon
  | _ => none

def isSpace (c : Char) : Bool := c == ' ' || c == '\n' || c == '\t' || c == '\r'

/-- One character outside of words and strings. -/
def scanBetween (tokens : List Token) (c : Char) : Scan × List Token :=
  if isSpace c then (.between, tokens)
  else if c = '"' then (.quote {}, tokens)
  else
    match punctuation? c with
    | some t => (.between, t :: tokens)
    | none => (.word [c], tokens)

def scanChar (state : Scan × List Token) (c : Char) : Option (Scan × List Token) :=
  let (scan, tokens) := state
  match scan with
  | .between => some (scanBetween tokens c)
  | .word cs =>
    if isSpace c || c = '"' || (punctuation? c).isSome then
      (readWord cs.reverse).map fun j => scanBetween (.literal j :: tokens) c
    else some (.word (c :: cs), tokens)
  | .quote q =>
    if c = '"' then
      if q.surrogate.isSome then none
      else some (.between, .text (String.ofList q.chars.reverse) :: tokens)
    else if c = '\\' then some (.escape q, tokens)
    else if c.toNat < 32 then none
    else (q.push c).map fun q => (.quote q, tokens)
  | .escape q =>
    if c = 'u' then some (.units q 0 0, tokens)
    else do
      let c ← escaped? c
      let q ← q.push c
      pure (.quote q, tokens)
  | .units q value digits => do
    let d ← Text.hexValue? c
    let value := 16 * value + d
    if digits < 3 then pure (.units q value (digits + 1), tokens)
    else
      let q ← q.pushUnit value
      pure (.quote q, tokens)

def tokens (cs : List Char) : Option (List Token) := do
  let (scan, ts) ← cs.foldlM scanChar (.between, [])
  match scan with
  | .between => pure ts.reverse
  | .word cs => (readWord cs.reverse).map fun j => (.literal j :: ts).reverse
  | _ => none

/-- A container that is still open. -/
inductive Open where
  | array (reversed : List Json)
  | object (fields : List (String × Json)) (key : String)

/-- What the next token may be. -/
inductive Expect where
  | value
  | valueOrEnd
  | keyOrEnd (fields : List (String × Json))
  | key (fields : List (String × Json))
  | colon (fields : List (String × Json)) (key : String)
  | commaOrEnd
  | nothing (result : Json)

/-- A value is complete: it goes into the innermost open container, or it is the result. -/
def close (j : Json) : List Open → Expect × List Open
  | [] => (.nothing j, [])
  | .array items :: stack => (.commaOrEnd, .array (j :: items) :: stack)
  | .object fields key :: stack => (.commaOrEnd, .object (insertField key j fields) key :: stack)

/-- Containers may be nested 127 deep. -/
def maxDepth : Nat := 127

def startValue (stack : List Open) : Token → Option (Expect × List Open)
  | .literal j => some (close j stack)
  | .text s => some (close (.string s) stack)
  | .beginArray => if stack.length < maxDepth then some (.valueOrEnd, .array [] :: stack) else none
  | .beginObject => if stack.length < maxDepth then some (.keyOrEnd [], stack) else none
  | _ => none

def parseToken (state : Expect × List Open) (t : Token) : Option (Expect × List Open) :=
  let (expect, stack) := state
  match expect, t with
  | .value, t => startValue stack t
  | .valueOrEnd, .endArray => some (close (.array []) stack.tail)
  | .valueOrEnd, t => startValue stack t
  | .keyOrEnd _, .endObject => some (close (.object []) stack)
  | .keyOrEnd fields, .text k => some (.colon fields k, stack)
  | .key fields, .text k => some (.colon fields k, stack)
  | .colon fields k, .colon => some (.value, .object fields k :: stack)
  | .commaOrEnd, .comma =>
    match stack with
    | .array _ :: _ => some (.value, stack)
    | .object fields _ :: stack => some (.key fields, stack)
    | [] => none
  | .commaOrEnd, .endArray =>
    match stack with
    | .array items :: stack => some (close (.array items.reverse) stack)
    | _ => none
  | .commaOrEnd, .endObject =>
    match stack with
    | .object fields _ :: stack => some (close (.object fields) stack)
    | _ => none
  | _, _ => none

/-- The value of a whole text; none if it is no JSON. -/
def read (s : String) : Option Json := do
  let ts ← tokens s.toList
  match ← ts.foldlM parseToken (.value, []) with
  | (.nothing j, _) => pure j
  | _ => none

end VenueGateway.Json
