import VenueGateway.Text.Integer
import VenueGateway.Yaml.Value

namespace VenueGateway.Yaml

abbrev Fields (α : Type) := List (String × α)

/-- What settings take from a document. Its nodes can be read by what is asked for, so that a scalar
of any look is text, or else its values by what they look like. -/
structure Source (α : Type) where
  text? : α → Option String
  isNull? : α → Option Bool
  bool? : α → Option Bool
  natural? : α → Option Nat
  float? : α → Option Float
  items? : α → Option (List α)
  fields? : α → Option (Fields α)
  /-- The name of one of several cases. -/
  name? : α → Option String

namespace Source

variable {α β : Type} (s : Source α)

def nat32? (y : α) : Option Nat := (s.natural? y).filter (· < Text.bound32)

def nat64? (y : α) : Option Nat := (s.natural? y).filter (· < Text.bound64)

def list? (f : α → Option β) (y : α) : Option (List β) := (s.items? y).bind (·.mapM f)

def option? (f : α → Option β) (y : α) : Option (Option β) := do
  if ← s.isNull? y then return none else return some (← f y)

end Source

namespace Fields

variable {α β : Type}

def required (fields : Fields α) (key : String) (f : α → Option β) : Option β :=
  match fields.filter (·.1 == key) with
  | [(_, y)] => f y
  | _ => none

/-- An absent field takes the default; one that is there stands once and must fit. -/
def defaulted (fields : Fields α) (key : String) (default : β) (f : α → Option β) : Option β :=
  match fields.filter (·.1 == key) with
  | [] => some default
  | [(_, y)] => f y
  | _ => none

end Fields

def isEmptyPlain : Node → Bool
  | .scalar _ .plain "" => true
  | _ => false

def coreTag (name : String) : String := "tag:yaml.org,2002:" ++ name

/-- A word that is not quoted; a literal one has to name its kind. -/
def Node.word? (kind : String) : Node → Option String
  | .scalar _ .plain s => some s
  | .scalar tag .literal s => if tag = some (coreTag kind) then some s else none
  | _ => none

def Node.text? : Node → Option String
  | .scalar _ _ s => some s
  | _ => none

/-- A plain null that no tag makes something else; nothing but its words is tagged as null. -/
def Node.isNull? : Node → Option Bool
  | .scalar none .plain s => some (s.isEmpty || isNullWord s)
  | .scalar (some tag) .plain s =>
    if tag != coreTag "null" then some false else if isNullWord s then some true else none
  | _ => some false

/-- What a case without content may have. -/
def Node.isUnit (tagged : Bool) : Node → Bool
  | .scalar tag style s =>
    style == .plain && (isNullWord s || s.isEmpty && (tagged || tag.isNone)) &&
      (tagged || tag.all (· == coreTag "null"))
  | _ => false

namespace Document

variable (d : Document)

def name? (n : Node) : Option String := do
  match n with
  | .scalar tag _ s =>
    match Value.localTag? tag with
    | some name => if n.isUnit true then some name else none
    | none => some s
  | .mapping tag [(k, v)] =>
    if (Value.localTag? tag).isSome then none
    let k ← (← d.resolve k).text?
    if (← d.resolve v).isUnit false then some k else none
  | _ => none

/-- The nodes of a document by what is asked for. -/
def source : Source Node where
  text? n := do (← d.resolve n).text?
  isNull? n := do (← d.resolve n).isNull?
  bool? n := do switch? (← (← d.resolve n).word? "bool")
  natural? n := do Yaml.natural? (← (← d.resolve n).word? "int")
  float? n := do Yaml.float? (← (← d.resolve n).word? "float")
  items? n := do
    match ← d.resolve n with
    | .sequence _ items => some items
    | n => if isEmptyPlain n then some [] else none
  fields? n := do
    match ← d.resolve n with
    | .mapping _ entries => entries.mapM fun (k, v) => return (← (← d.resolve k).text?, v)
    | n => if isEmptyPlain n then some [] else none
  name? n := do d.name? (← d.resolve n)

end Document

namespace Value

def text? : Value → Option String
  | .text s => some s
  | _ => none

def name? : Value → Option String
  | .text s => some s
  | .tagged tag .null => some tag
  | .mapping [(.text s, .null)] => some s
  | _ => none

/-- Values by what they look like. -/
def source : Source Value where
  text? v := v.bare.text?
  isNull? v := some (match v with | .null => true | _ => false)
  bool? v := match v.bare with
    | .bool b => some b
    | _ => none
  natural? v := match v.bare with
    | .int (.ofNat n) => some n
    | _ => none
  float? v := match v.bare with
    | .int n => some (Decimal.nearest (n < 0) n.natAbs 1)
    | .float x => some x
    | _ => none
  items? v := match v.bare with
    | .sequence items => some items
    | .null => some []
    | _ => none
  fields? v := match v.bare with
    | .mapping entries => entries.mapM fun (k, v) => return (← k.bare.text?, v)
    | .null => some []
    | _ => none
  name? := name?

end Value

/-- Reads a document by what is asked for, and where that fails by what its values look like. -/
def Document.readBy (d : Document) (f : {α : Type} → Source α → α → Option β) : Option β :=
  (f d.source d.root).orElse fun _ => d.value?.bind (f Value.source)

end VenueGateway.Yaml
