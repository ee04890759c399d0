import VenueGateway.Decimal.Binary
import VenueGateway.Text.Integer

namespace VenueGateway

/-- Whole numbers of at most 64 bits stay whole; every other number is a double. -/
inductive Number where
  | whole (n : Int)
  | double (x : Float)

/-- JSON values. Objects keep their fields in order: sorted by key when they come from text or from
`Json.sorted`, as declared when a record is written out. -/
inductive Json where
  | null
  | bool (b : Bool)
  | number (n : Number)
  | string (s : String)
  | array (items : List Json)
  | object (fields : List (String × Json))

instance : Inhabited Json := ⟨.null⟩

instance : Coe String Json := ⟨.string⟩

def Number.toFloat : Number → Float
  | .whole n => Decimal.nearest (n < 0) n.natAbs 1
  | .double x => x

namespace Json

def ofInt (n : Int) : Json := .number (.whole n)

def ofNat (n : Nat) : Json := .number (.whole n)

/-- Numbers that JSON cannot write are null. -/
def ofFloat (x : Float) : Json := if x.isFinite then .number (.double x) else .null

def ofOption (f : α → Json) : Option α → Json
  | none => .null
  | some a => f a

def lookup (key : String) : List (String × α) → Option α
  | [] => none
  | (k, v) :: rest => if k = key then some v else lookup key rest

/-- Puts a field in its place by key, over an earlier one of the same key. -/
def insertField (key : String) (value : α) : List (String × α) → List (String × α)
  | [] => [(key, value)]
  | (k, v) :: rest =>
    if key < k then (key, value) :: (k, v) :: rest
    else if key = k then (key, value) :: rest
    else (k, v) :: insertField key value rest

def sortFields (fields : List (String × α)) : List (String × α) :=
  fields.foldl (fun acc (k, v) => insertField k v acc) []

def sorted (fields : List (String × Json)) : Json := .object (sortFields fields)

def field? (j : Json) (key : String) : Option Json :=
  match j with
  | .object fields => lookup key fields
  | _ => none

def item? (j : Json) (i : Nat) : Option Json :=
  match j with
  | .array items => items[i]?
  | _ => none

def isNull : Json → Bool
  | .null => true
  | _ => false

def isObject : Json → Bool
  | .object _ => true
  | _ => false

def string? : Json → Option String
  | .string s => some s
  | _ => none

def bool? : Json → Option Bool
  | .bool b => some b
  | _ => none

def array? : Json → Option (List Json)
  | .array items => some items
  | _ => none

def object? : Json → Option (List (String × Json))
  | .object fields => some fields
  | _ => none

def float? : Json → Option Float
  | .number n => some n.toFloat
  | _ => none

def whole? : Json → Option Int
  | .number (.whole n) => some n
  | _ => none

/-- A whole number from 0 to 2^64 - 1. -/
def unsigned? (j : Json) : Option Nat :=
  j.whole?.bind fun n => if 0 ≤ n then some n.toNat else none

/-- A whole number from -2^63 to 2^63 - 1. -/
def signed? (j : Json) : Option Int :=
  j.whole?.filter (· < (Text.signedBound64 : Int))

/-- The value at the end of a path of keys. -/
def path? (j : Json) (keys : List String) : Option Json :=
  keys.foldlM (fun v k => v.field? k) j

end Json

end VenueGateway
