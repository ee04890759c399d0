import VenueGateway.Yaml.Node
import VenueGateway.Yaml.Stream

namespace VenueGateway.Yaml

/-- The tokens to come, and what has been declared before them. -/
structure Reading where
  tokens : List Token
  handles : List (String × String) := []
  names : List (String × Nat) := []
  anchored : List (Nat × Node) := []
  anchors : Nat := 0
  references : Nat := 0
  parts : Nat := 0

abbrev Read := StateT Reading Option

def peek : Read Token := do
  match (← get).tokens with
  | t :: _ => return t
  | [] => failure

def skip : Read Unit := modify fun r => { r with tokens := r.tokens.drop 1 }

def isNext (t : Token) : Read Bool := return (← peek) == t

def expect (t : Token) : Read Unit := do
  if ← isNext t then skip else failure

def count (n : Nat) : Read Unit := modify fun r => { r with parts := r.parts + n }

def standardHandles : List (String × String) := [("!", "!"), ("!!", "tag:yaml.org,2002:")]

/-- The whole tag; an unknown handle is a fault. -/
def wholeTag (handle suffix : String) : Read String := do
  if handle = "" then return suffix
  let start ← ((← get).handles ++ standardHandles).lookup handle
  return start ++ suffix

/-- From here on the name stands for a new node. -/
def declareAnchor (name : String) : Read Nat := do
  let r ← get
  set { r with names := (name, r.anchors) :: r.names, anchors := r.anchors + 1 }
  return r.anchors

def anchor? : Read (Option Nat) := do
  match ← peek with
  | .anchor name =>
    skip
    return some (← declareAnchor name)
  | _ => return none

def tag? : Read (Option String) := do
  match ← peek with
  | .tag handle suffix =>
    skip
    return some (← wholeTag handle suffix)
  | _ => return none

/-- An anchor and a tag, in either order. -/
def properties : Read (Option Nat × Option String) := do
  let before ← anchor?
  let tag ← tag?
  if before.isSome then return (before, tag)
  return (← anchor?, tag)

def scalar (tag : Option String) (style : ScalarStyle) (text : String) : Read Node := do
  count 1
  return .scalar tag style text

def absent : Read Node := scalar none .plain ""

/-- A node, or the node that is not written before one of some tokens. -/
def nodeUnless (ends : List Token) (read : Read Node) : Read Node := do
  if ends.contains (← peek) then absent else read

/-- The value of a key, if a colon comes next. -/
def valueUnless (ends : List Token) (read : Read Node) : Read Node := do
  if ← isNext .value then
    skip
    nodeUnless ends read
  else absent

/-- The node of properties without content. -/
def missing (anchor : Option Nat) (tag : Option String) : Read Node :=
  if anchor.isSome || tag.isSome then scalar tag .plain "" else failure

def collection (make : α → Node) (parts : Read α) : Read Node := do
  count 2
  return make (← parts)

mutual

/-- A node; blocks, and sequences without indentation, are not allowed everywhere. -/
def node (e : Edition) (inBlock unindented : Bool) : Nat → Read Node
  | 0 => failure
  | fuel + 1 => do
    if let .reference name ← peek then
      skip
      count 1
      modify fun r => { r with references := r.references + 1 }
      return .reference (← (← get).names.lookup name)
    let (anchor, tag) ← properties
    let n ← match ← peek with
      | .scalar style text => do
        skip
        scalar (tag.filter (· != "!")) style text
      | .opening .square => do
        skip
        collection (.sequence tag) (flowItems e true fuel)
      | .opening .curly => do
        skip
        collection (.mapping tag) (flowEntries e true fuel)
      | .entry =>
        if unindented then collection (.sequence tag) (unindentedItems e fuel)
        else missing anchor tag
      | .blockSequence =>
        if inBlock then collection (.sequence tag) (do skip; items e fuel)
        else missing anchor tag
      | .blockMapping =>
        if inBlock then collection (.mapping tag) (do skip; entries e fuel)
        else missing anchor tag
      | _ => missing anchor tag
    if let some i := anchor then modify fun r => { r with anchored := (i, n) :: r.anchored }
    return n

def items (e : Edition) : Nat → Read (List Node)
  | 0 => failure
  | fuel + 1 => do
    match ← peek with
    | .blockEnd =>
      skip
      return []
    | .entry =>
      skip
      let item ← nodeUnless [.entry, .blockEnd] (node e true false fuel)
      return item :: (← items e fuel)
    | _ => failure

/-- The items of a sequence that stands as far left as the key above it. -/
def unindentedItems (e : Edition) : Nat → Read (List Node)
  | 0 => failure
  | fuel + 1 => do
    if ← isNext .entry then
      skip
      let item ← nodeUnless [.entry, .key, .value, .blockEnd] (node e true false fuel)
      return item :: (← unindentedItems e fuel)
    else return []

/-- By the rules of YAML 1.2 a value may have an empty key. -/
def entries (e : Edition) : Nat → Read (List (Node × Node))
  | 0 => failure
  | fuel + 1 => do
    match ← peek with
    | .blockEnd =>
      skip
      return []
    | t =>
      let key ←
        if t = .key then
          skip
          nodeUnless [.key, .value, .blockEnd] (node e true true fuel)
        else if t = .value ∧ e = .yaml12 then absent
        else failure
      let value ← valueUnless [.key, .value, .blockEnd] (node e true true fuel)
      return (key, value) :: (← entries e fuel)

/-- Commas part the items, and one may follow the last. A key makes an item a mapping of one pair. -/
def flowItems (e : Edition) (first : Bool) : Nat → Read (List Node)
  | 0 => failure
  | fuel + 1 => do
    if !first ∧ !(← isNext (.closing .square)) then expect .comma
    match ← peek with
    | .closing .square =>
      skip
      return []
    | .key =>
      skip
      let pair ← collection (fun p => .mapping none [p]) (do
        let key ←
          if [.value, .comma, .closing .square].contains (← peek) then
            -- A key that is not written takes its mark with it.
            skip
            absent
          else node e false false fuel
        return (key, ← valueUnless [.comma, .closing .square] (node e false false fuel)))
      return pair :: (← flowItems e false fuel)
    | _ =>
      let item ← node e false false fuel
      return item :: (← flowItems e false fuel)

/-- A node without a key mark before it is a key without a value. -/
def flowEntries (e : Edition) (first : Bool) : Nat → Read (List (Node × Node))
  | 0 => failure
  | fuel + 1 => do
    if !first ∧ !(← isNext (.closing .curly)) then expect .comma
    match ← peek with
    | .closing .curly =>
      skip
      return []
    | t =>
      let value : Read Node := valueUnless [.comma, .closing .curly] (node e false false fuel)
      let entry ←
        if t = .key then do
          skip
          let key ← nodeUnless [.value, .comma, .closing .curly] (node e false false fuel)
          pure (key, ← value)
        else if t = .value ∧ e = .yaml12 then do pure (← absent, ← value)
        else do pure (← node e false false fuel, ← absent)
      return entry :: (← flowEntries e false fuel)

end

/-- The directives in front of a document: the version, once, and handles of tags. -/
def directives (versioned : Bool) : Nat → Read Unit
  | 0 => failure
  | fuel + 1 => do
    match ← peek with
    | .version major minor =>
      if versioned ∨ !(major = 1 ∧ (minor = 1 ∨ minor = 2)) then failure
      skip
      directives true fuel
    | .tagHandle handle start =>
      if ((← get).handles.lookup handle).isSome then failure
      modify fun r => { r with handles := (handle, start) :: r.handles }
      skip
      directives versioned fuel
    | _ => return

def isOutside : Token → Bool
  | .version .. | .tagHandle .. | .documentStart | .documentEnd | .streamEnd => true
  | _ => false

/-- A document behind its directives and its marker. -/
def marked (e : Edition) (fuel : Nat) : Read Node := do
  directives false fuel
  expect .documentStart
  if isOutside (← peek) then absent else node e true false fuel

/-- The first document; only it needs no marker. -/
def first (e : Edition) (fuel : Nat) : Read Node := do
  if e = .yaml12 then
    modify fun r => { r with tokens := r.tokens.dropWhile (· == .documentEnd) }
  match ← peek with
  | .streamEnd => absent
  | t => if isOutside t then marked e fuel else node e true false fuel

/-- A further document up to where it ends. -/
def further (e : Edition) (fuel : Nat) : Read Unit := do
  modify fun r => { r with tokens := r.tokens.dropWhile (· == .documentEnd) }
  let _ ← marked e fuel
  let _ ← peek

namespace Document

def steps (tokens : List Token) : Nat := 4 * tokens.length + 8

/-- The first document among tokens, and the tokens from its end on. -/
def ofTokens? (e : Edition) (tokens : List Token) : Option (Document × List Token) := do
  let (root, r) ← (first e (steps tokens)).run { tokens }
  if r.tokens.isEmpty then none
  return (⟨root, r.anchored, r.anchors, r.references, r.parts⟩, r.tokens)

/--
The only document of a text. Behind a marker that ends it nothing may follow that makes up a document;
text at fault is no document.
-/
def read (text : String) : Option Document := do
  let (laid, _) ← ofTokens? .yaml12 (tokensOf .yaml12 text)
  if !laid.isModest then none
  let (d, after) ← ofTokens? .yaml11 (tokensOf .yaml11 text)
  match after with
  | [.streamEnd] => some d
  | .documentEnd :: tokens =>
    if ((further .yaml11 (steps tokens)).run { tokens }).isNone then some d else none
  | _ => none

end Document

end VenueGateway.Yaml
