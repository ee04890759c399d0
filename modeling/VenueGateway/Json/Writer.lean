import VenueGateway.Json.Basic
import VenueGateway.Decimal.Shortest
import VenueGateway.Text.Hex

namespace VenueGateway.Json

/-- Doubles are positional while the first digit stands from 10^-5 to below 10^16. -/
def numberLayout : Decimal.Layout := ⟨-5, 16⟩

def escapeChar (c : Char) : List Char :=
  if c = '"' then ['\\', '"']
  else if c = '\\' then ['\\', '\\']
  else if c = '\n' then ['\\', 'n']
  else if c = '\r' then ['\\', 'r']
  else if c = '\t' then ['\\', 't']
  else if c.toNat = 8 then ['\\', 'b']
  else if c.toNat = 12 then ['\\', 'f']
  else if c.toNat < 32 then
    ['\\', 'u', '0', '0', Text.hexDigit (c.toNat / 16), Text.hexDigit c.toNat]
  else [c]

def quoted (s : String) : String :=
  String.ofList ('"' :: (s.toList.flatMap escapeChar ++ ['"']))

def numberText : Number → String
  | .whole n => Text.ofInt n
  | .double x => (numberLayout.text? x).getD "null"

mutual

def pieces : Json → List String
  | .null => ["null"]
  | .bool b => [if b then "true" else "false"]
  | .number n => [numberText n]
  | .string s => [quoted s]
  | .array items => "[" :: (itemPieces items ++ ["]"])
  | .object fields => "\x7b" :: (fieldPieces fields ++ ["\x7d"])

def itemPieces : List Json → List String
  | [] => []
  | [v] => pieces v
  | v :: rest => pieces v ++ "," :: itemPieces rest

def fieldPieces : List (String × Json) → List String
  | [] => []
  | [(k, v)] => quoted k :: ":" :: pieces v
  | (k, v) :: rest => quoted k :: ":" :: (pieces v ++ "," :: fieldPieces rest)

end

/-- Compact text: no spaces, fields in the value's order, only quotes, backslashes and control
characters escaped. -/
def text (j : Json) : String := String.join j.pieces

end VenueGateway.Json
