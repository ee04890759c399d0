import VenueGateway.Decimal.Binary
import VenueGateway.Text.Integer

namespace VenueGateway.Decimal

/-- The double nearest to `digits · 10 ^ exponent`. -/
def ofDecimal (negative : Bool) (digits : Nat) (exponent : Int) : Float :=
  if digits = 0 then assemble negative 0
  else
    let first : Int := ((Text.natDigits digits).length : Int) + exponent
    if first > 310 then infinity negative
    else if first < -330 then assemble negative 0
    else nearest negative (digits * Nat.pow 10 exponent.toNat) (Nat.pow 10 (-exponent).toNat)

def readExponent : List Char → Option Int
  | [] => some 0
  | c :: cs =>
    if c = 'e' ∨ c = 'E' then
      match cs with
      | '-' :: d :: ds => (Text.readDigits 0 (d :: ds)).map fun n => -(n : Int)
      | '+' :: d :: ds => (Text.readDigits 0 (d :: ds)).map Int.ofNat
      | d :: ds => (Text.readDigits 0 (d :: ds)).map Int.ofNat
      | [] => none
    else none

def readUnsigned (negative : Bool) (cs : List Char) : Option Float :=
  let name := (String.ofList cs).toLower
  if name = "inf" ∨ name = "infinity" then some (infinity negative)
  else if name = "nan" then some (nan negative)
  else
    let (whole, rest) := cs.span Char.isDigit
    let (frac, rest) :=
      match rest with
      | '.' :: rest => rest.span Char.isDigit
      | _ => ([], rest)
    if whole.isEmpty ∧ frac.isEmpty then none
    else do
      let digits ← Text.readDigits 0 (whole ++ frac)
      let e ← readExponent rest
      pure (ofDecimal negative digits (e - frac.length))

/-- Reads decimal text as the nearest double: an optional sign, digits with an optional point and at
least one digit, an optional exponent; or a name of infinity or of not-a-number. -/
def readFloat (cs : List Char) : Option Float :=
  match cs with
  | '-' :: cs => readUnsigned true cs
  | '+' :: cs => readUnsigned false cs
  | cs => readUnsigned false cs

end VenueGateway.Decimal
