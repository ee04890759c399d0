import VenueGateway.Json.Basic
import VenueGateway.Text.Integer

namespace VenueGateway

structure Duration where
  nanos : Nat
deriving DecidableEq, Repr

namespace Duration

def zero : Duration := ⟨0⟩

def ofSeconds (n : Nat) : Duration := ⟨n * 1000000000⟩

def ofMillis (n : Nat) : Duration := ⟨n * 1000000⟩

def ofMicros (n : Nat) : Duration := ⟨n * 1000⟩

def millis (d : Duration) : Nat := d.nanos / 1000000

/-- The whole milliseconds that a timer of this length takes. -/
def ticks (d : Duration) : Nat := (d.nanos + 999999) / 1000000

def toJson (d : Duration) : Json :=
  .object [("secs", .ofNat (d.nanos / 1000000000)), ("nanos", .ofNat (d.nanos % 1000000000))]

/-- A whole number and a fraction of `width` digits, without the zeros at its end. -/
def decimal (whole frac width : Nat) : List Char :=
  let digits := Text.natDigits frac
  let padded := List.replicate (width - digits.length) '0' ++ digits
  let shown := (padded.reverse.dropWhile (· == '0')).reverse
  Text.natDigits whole ++ (if shown.isEmpty then [] else '.' :: shown)

/-- In the largest unit that leaves a whole part. -/
def text (d : Duration) : String :=
  let n := d.nanos
  if n ≥ 1000000000 then
    String.ofList (decimal (n / 1000000000) (n % 1000000000) 9) ++ "s"
  else if n ≥ 1000000 then String.ofList (decimal (n / 1000000) (n % 1000000) 6) ++ "ms"
  else if n ≥ 1000 then String.ofList (decimal (n / 1000) (n % 1000) 3) ++ "µs"
  else Text.ofNat n ++ "ns"

end Duration

end VenueGateway
