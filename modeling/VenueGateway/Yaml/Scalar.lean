import VenueGateway.Decimal.Reading
import VenueGateway.Text.Hex

namespace VenueGateway.Yaml

def isNullWord (s : String) : Bool := ["~", "null", "Null", "NULL"].contains s

def truth? (s : String) : Option Bool :=
  match s.toLower with
  | "true" => some true
  | "false" => some false
  | _ => none

/-- Truth values where one is asked for. -/
def switch? (s : String) : Option Bool :=
  let s := s.toLower
  if ["true", "yes", "y", "on"].contains s then some true
  else if ["false", "no", "n", "off"].contains s then some false
  else none

def readBase (base : Nat) (cs : List Char) : Option Nat :=
  if cs.isEmpty then none
  else cs.foldlM (fun n c => ((Text.hexValue? c).filter (· < base)).map (base * n + ·)) 0

/-- Digits in base ten, or in another base after its mark; other leading zeros make text. -/
def readUnsigned (cs : List Char) : Option Nat :=
  match cs with
  | '0' :: 'x' :: cs => readBase 16 cs
  | '0' :: 'o' :: cs => readBase 8 cs
  | '0' :: 'b' :: cs => readBase 2 cs
  | '0' :: _ :: _ => none
  | cs => readBase 10 cs

def natural? (s : String) : Option Nat :=
  match s.toList with
  | '+' :: cs => readUnsigned cs
  | cs => readUnsigned cs

def integer? (s : String) : Option Int :=
  match s.toList with
  | '-' :: cs => (readUnsigned cs).map fun n => -(n : Int)
  | _ => (natural? s).map Int.ofNat

def float? (s : String) : Option Float :=
  if [".inf", ".Inf", ".INF", "+.inf", "+.Inf", "+.INF"].contains s then
    some (Decimal.infinity false)
  else if ["-.inf", "-.Inf", "-.INF"].contains s then some (Decimal.infinity true)
  else if [".nan", ".NaN", ".NAN"].contains s then some (Decimal.nan false)
  else (Decimal.readFloat s.toList).filter Float.isFinite

/-- Digits after a leading zero, which are text where nothing else is asked for. -/
def isPadded (s : String) : Bool :=
  let cs := s.toList
  match (if cs.head?.any ['+', '-'].contains then cs.drop 1 else cs) with
  | '0' :: c :: cs => (c :: cs).all Char.isDigit
  | _ => false

end VenueGateway.Yaml
