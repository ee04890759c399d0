import VenueGateway.Yaml.Node
import VenueGateway.Yaml.Scalar

namespace VenueGateway.Yaml

/-- A value when nothing says what is asked for: plain scalars are what their words look like,
aliases are replaced, and mappings take over what they merge. -/
inductive Value where
  | null
  | bool (b : Bool)
  | int (n : Int)
  | float (x : Float)
  | text (s : String)
  | sequence (items : List Value)
  | mapping (entries : List (Value × Value))
  | tagged (tag : String) (content : Value)

namespace Value

def maxDepth : Nat := 128

/-- A tag can stand around each collection. -/
def maxHeight : Nat := 2 * maxDepth + 2

/-- Equality of values of some height; the order of a mapping does not count. -/
def same : Nat → Value → Value → Bool
  | 0, _, _ => false
  | _ + 1, .null, .null => true
  | _ + 1, .bool a, .bool b => a == b
  | _ + 1, .int a, .int b => a == b
  | _ + 1, .float a, .float b => a == b || a.isNaN && b.isNaN
  | _ + 1, .text a, .text b => a == b
  | h + 1, .sequence as, .sequence bs =>
    as.length == bs.length && (as.zip bs).all fun (a, b) => same h a b
  | h + 1, .mapping as, .mapping bs =>
    as.length == bs.length &&
      as.all fun (k, a) => bs.any fun (k', b) => same h k k' && same h a b
  | h + 1, .tagged s a, .tagged t b => s == t && same h a b
  | _ + 1, _, _ => false

def isKey (k : Value) (entry : Value × Value) : Bool := same maxHeight k entry.1

def hasRepeatedKey : List (Value × Value) → Bool
  | [] => false
  | (k, _) :: entries => entries.any (isKey k) || hasRepeatedKey entries

/-- Integers have 64 bits; those of up to 128 are refused, and larger ones are not integers. -/
def ofInteger? (n : Int) : Option (Option Value) :=
  if -(Text.signedBound64 : Int) ≤ n ∧ n < Text.bound64 then some (some (.int n))
  else if -(Nat.pow 2 127 : Int) ≤ n ∧ n < Nat.pow 2 128 then none
  else some none

def ofInteger (s : String) : Option (Option Value) :=
  match integer? s with
  | none => some none
  | some n => ofInteger? n

/-- A plain scalar by what it looks like. -/
def ofPlain (s : String) : Option Value :=
  if s.isEmpty || isNullWord s then some .null
  else
    match truth? s with
    | some b => some (.bool b)
    | none => do
      match ← ofInteger s with
      | some n => return n
      | none =>
        match if isPadded s then none else float? s with
        | some x => return .float x
        | none => return .text s

/-- The name of a tag that is not one of all YAML. -/
def localTag? (tag : Option String) : Option String := do
  match (← tag).toList with
  | ['!'] => some "!"
  | '!' :: name => some (String.ofList name)
  | _ => none

def ofTagged (tag : String) (style : ScalarStyle) (s : String) : Option Value :=
  match tag with
  | "tag:yaml.org,2002:bool" => (truth? s).map .bool
  | "tag:yaml.org,2002:int" => do ← ofInteger s
  | "tag:yaml.org,2002:float" => (float? s).map .float
  | "tag:yaml.org,2002:null" => if isNullWord s then some .null else none
  | _ => if tag.startsWith "!" ∧ style = .plain then ofPlain s else some (.text s)

def ofScalar (tag : Option String) (style : ScalarStyle) (s : String) : Option Value :=
  match tag with
  | some tag => ofTagged tag style s
  | none => if style = .plain then ofPlain s else some (.text s)

def withTag (tag : Option String) (v : Value) : Value :=
  match localTag? tag with
  | some name => .tagged name v
  | none => v

/-- Aliases that may still be followed. -/
abbrev Following := StateT Nat Option

def follow (d : Document) (n : Node) : Following Node := do
  match n with
  | .reference _ =>
    if (← get) = 0 then failure
    modify (· - 1)
  | _ => pure ()
  d.resolve n

/-- The value of a node up to some depth of collections; a key stands once in a mapping. -/
def ofNode (d : Document) (depth : Nat) (n : Node) : Following Value := do
  match ← follow d n with
  | .scalar tag style s => return withTag tag (← ofScalar tag style s)
  | .sequence tag items =>
    match depth with
    | 0 => failure
    | depth + 1 => return withTag tag (.sequence (← items.mapM (ofNode d depth)))
  | .mapping tag entries =>
    match depth with
    | 0 => failure
    | depth + 1 =>
      let entries ← entries.mapM fun (k, v) => return (← ofNode d depth k, ← ofNode d depth v)
      if hasRepeatedKey entries then failure
      return withTag tag (.mapping entries)
  | .reference _ => failure

def isMergeKey : Value → Bool
  | .text s => s == "<<"
  | _ => false

/-- Entries and those of others for keys that are not there. -/
def overlay (entries others : List (Value × Value)) : List (Value × Value) :=
  entries ++ others.filter fun (k, _) => !entries.any (isKey k)

/-- The entries of a mapping with what it merges; of several mappings the later ones come first. -/
def mergeEntries (entries : List (Value × Value)) : Option (List (Value × Value)) :=
  match entries.find? (isMergeKey ·.1) with
  | none => some entries
  | some (_, merged) => do
    let own := entries.filter (!isMergeKey ·.1)
    match merged with
    | .mapping more => return overlay own more
    | .sequence items =>
      let more ← items.mapM fun v =>
        match v with
        | .mapping more => some more
        | _ => none
      return overlay own (more.foldl (fun acc more => overlay more acc) [])
    | _ => none

/-- All merges in a value of some height, the outer ones first. -/
def merge : Nat → Value → Option Value
  | 0, v => some v
  | h + 1, .sequence items => return .sequence (← items.mapM (merge h))
  | h + 1, .mapping entries => do
    let entries ← mergeEntries entries
    return .mapping (← entries.mapM fun (k, v) => return (k, ← merge h v))
  | h + 1, .tagged tag v => return .tagged tag (← merge h v)
  | _ + 1, v => some v

/-- The value without its tags. -/
def bare : Value → Value
  | .tagged _ v => bare v
  | v => v

end Value

/-- Each part of a document pays for a hundred aliases. -/
def Document.value? (d : Document) : Option Value := do
  let (v, _) ← (Value.ofNode d Value.maxDepth d.root).run (100 * d.parts)
  v.merge Value.maxHeight

end VenueGateway.Yaml
