import VenueGateway.Json.Basic

namespace VenueGateway.Json

def get (j : Json) (key : String) : Json := (j.field? key).getD .null

def textOr (j : Json) (key default : String) : String := ((j.get key).string?).getD default

def textAt (j : Json) (key : String) : String := j.textOr key ""

def listAt (j : Json) (key : String) : List Json := ((j.get key).array?).getD []

def fieldsAt (j : Json) (key : String) : List (String × Json) := ((j.get key).object?).getD []

def natOr (j : Json) (key : String) (default : Nat) : Nat := ((j.get key).unsigned?).getD default

def natAt (j : Json) (key : String) : Nat := j.natOr key 0

def intAt (j : Json) (key : String) : Int := ((j.get key).signed?).getD 0

def boolOr (j : Json) (key : String) (default : Bool) : Bool := ((j.get key).bool?).getD default

def boolAt (j : Json) (key : String) : Bool := j.boolOr key false

def namedFloat? : Json → Option Float
  | .number n => some n.toFloat
  | .string "NaN" => some (Decimal.nan false)
  | .string "inf" => some (Decimal.infinity false)
  | .string "-inf" => some (Decimal.infinity true)
  | _ => none

def ofNamedFloat (x : Float) : Json :=
  if x.isFinite then .ofFloat x
  else if x.isNaN then .string "NaN"
  else if x > 0 then .string "inf"
  else .string "-inf"

def floatAt? (j : Json) (key : String) : Option Float := (j.get key).namedFloat?

def floatOr (j : Json) (key : String) (default : Float) : Float := (j.floatAt? key).getD default

def floatAt (j : Json) (key : String) : Float := j.floatOr key 0

/-- What a pair lacks, or has as another thing than text, is the empty text. -/
def pairsAt (j : Json) (key : String) : List (String × String) :=
  (j.listAt key).map fun p => (((p.item? 0).bind string?).getD "", ((p.item? 1).bind string?).getD "")

def ofTexts (ss : List String) : Json := .array (ss.map .string)

def ofText? (s : Option String) : Json := .ofOption .string s

def ofPairs (ps : List (String × String)) : Json := .array (ps.map fun (k, v) => ofTexts [k, v])

end VenueGateway.Json
