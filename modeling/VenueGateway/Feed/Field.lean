import VenueGateway.Decimal.Reading
import VenueGateway.Error
import VenueGateway.Json.Writer
import VenueGateway.Text.Blank
import VenueGateway.Timestamp

namespace VenueGateway

inductive FeedError where
  | missing (field : String)
  | invalid (field value : String)
  | unsupported (text : String)
deriving DecidableEq, Repr

namespace FeedError

def message : FeedError → String
  | .missing field => "missing field `" ++ field ++ "`"
  | .invalid field value => "invalid value for `" ++ field ++ "`: " ++ value
  | .unsupported text => "unsupported message: " ++ text

def toGatewayError (e : FeedError) : GatewayError := ⟨.api, e.message, []⟩

end FeedError

namespace Feed

/-- The venues' messages are read leniently: numbers come as numbers or as text, times in several
units, and a null counts as absent. -/
abbrev Parsed (α : Type) := Except FeedError α

/-- A finite number, written as one or as text. -/
def amount? (j : Json) : Option Float :=
  (match j with
    | .number n => some n.toFloat
    | .string s => Decimal.readFloat (Text.trimChars s.toList)
    | _ => none).filter Float.isFinite

/-- The value of the first of the keys that has one. -/
def first? (j : Json) (keys : List String) : Option Json :=
  keys.findSome? fun k => (j.field? k).filter (!·.isNull)

def amountAt? (j : Json) (keys : List String) : Option Float := (first? j keys).bind amount?

def amountAt (j : Json) (field : String) (keys : List String) : Parsed Float :=
  match first? j keys with
  | none => .error (.missing field)
  | some v =>
    match amount? v with
    | some x => .ok x
    | none => .error (.invalid field v.text)

/-- Text that is not empty, or the text of a number. -/
def text? : Json → Option String
  | .string s => if s.isEmpty then none else some s
  | .number n => some (Json.numberText n)
  | _ => none

def textAt? (j : Json) (keys : List String) : Option String := (first? j keys).bind text?

def textAt (j : Json) (field : String) (keys : List String) : Parsed String :=
  match textAt? j keys with
  | some s => .ok s
  | none => .error (.missing field)

def time? (j : Json) : Option Int :=
  match j with
  | .string s => Timestamp.read s
  | j => j.signed?.map Timestamp.toMicros

def timeAt? (j : Json) (keys : List String) : Option Int := (first? j keys).bind time?

def flagAt? (j : Json) (keys : List String) : Option Bool := (first? j keys).bind Json.bool?

/-- The items of an array; any other value is its only item. -/
def items : Json → List Json
  | .array vs => vs
  | v => [v]

/-- The first item of an array that has one, else the value itself. -/
def leading : Json → Json
  | .array (v :: _) => v
  | v => v

def orMissing (field : String) : Option α → Parsed α
  | some a => .ok a
  | none => .error (.missing field)

end Feed

end VenueGateway
