import VenueGateway.Text.Utf8
import VenueGateway.Text.Hex

namespace VenueGateway.Text

def isUnreserved (c : Char) : Bool :=
  c.isAlphanum || c == '-' || c == '_' || c == '.' || c == '~'

def percentByte (b : UInt8) : List Char :=
  ['%', upperHexDigit (b.toNat / 16), upperHexDigit b.toNat]

def percentChar (c : Char) : List Char :=
  if isUnreserved c then [c] else (encodeChar c).flatMap percentByte

def percentChars (cs : List Char) : List Char := cs.flatMap percentChar

/-- Unreserved ASCII stays, any other byte is a percent sign and two upper case hexadecimal digits.
-/
def percentEncode (s : String) : String := String.ofList (percentChars s.toList)

/-- The keys and values of a query, encoded, joined by equals signs and ampersands. -/
def encodeQuery (params : List (String × String)) : String :=
  String.intercalate "&" (params.map fun (k, v) => percentEncode k ++ "=" ++ percentEncode v)

end VenueGateway.Text
