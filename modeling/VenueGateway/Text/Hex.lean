import VenueGateway.Text.Integer

namespace VenueGateway.Text

def hexDigit (n : Nat) : Char := Nat.digitChar (n % 16)

def upperHexDigit (n : Nat) : Char := (hexDigit n).toUpper

def hexValue? (c : Char) : Option Nat :=
  if '0' ≤ c ∧ c ≤ '9' then some (c.toNat - 48)
  else if 'a' ≤ c ∧ c ≤ 'f' then some (c.toNat - 87)
  else if 'A' ≤ c ∧ c ≤ 'F' then some (c.toNat - 55)
  else none

def hexByte (b : UInt8) : List Char := [hexDigit (b.toNat / 16), hexDigit b.toNat]

def hexOf (bs : List UInt8) : String := String.ofList (bs.flatMap hexByte)

def bytesOfHexChars : List Char → Option (List UInt8)
  | [] => some []
  | a :: b :: cs => do
    let h ← hexValue? a
    let l ← hexValue? b
    let rest ← bytesOfHexChars cs
    pure ((h * 16 + l).toUInt8 :: rest)
  | [_] => none

def bytesOfHex (s : String) : Option (List UInt8) := bytesOfHexChars s.toList

end VenueGateway.Text
