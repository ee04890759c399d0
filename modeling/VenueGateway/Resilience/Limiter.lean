import VenueGateway.Error
import VenueGateway.Metrics

namespace VenueGateway

/--
A limit on calls per one-second window. Window and count share one word, read by one step and
exchanged by another, which fails if the word has changed in between.
-/
structure Limiter where
  name : String
  maxPerSecond : Nat
  slot : UInt64 := 0
  /-- When it was made, in nanoseconds since the program began. -/
  origin : Nat := 0
deriving DecidableEq, Repr

namespace Limiter

def pack (window count : UInt64) : UInt64 := (window <<< 32) ||| (count &&& 0xFFFFFFFF)

def windowOf (slot : UInt64) : UInt64 := slot >>> 32

def countOf (slot : UInt64) : UInt64 := slot &&& 0xFFFFFFFF

/-- The windows are counted from when the limiter was made. -/
def window (l : Limiter) (elapsed : Nat) : UInt64 :=
  UInt64.ofNat ((elapsed - l.origin) / 1000000000)

/-- What a caller in window `now` wants to put in place of the word it read; none if it is full. -/
def propose (limit : Nat) (slot now : UInt64) : Option UInt64 :=
  let window := max now (windowOf slot)
  let taken := if window = windowOf slot then countOf slot else 0
  if limit ≤ taken.toNat then none else some (pack window (taken + 1))

/-- Puts the new word in place, unless the word read is no longer there. -/
def exchange (l : Limiter) (expected new : UInt64) : Except UInt64 Limiter :=
  if l.slot = expected then .ok { l with slot := new } else .error l.slot

/-- Read and exchange with nothing in between. -/
def acquire (l : Limiter) (now : UInt64) : Bool × Limiter :=
  match propose l.maxPerSecond l.slot now with
  | none => (false, l)
  | some new => (true, { l with slot := new })

def check (l : Limiter) (elapsed : Nat) : Except GatewayError Unit × Limiter × List Observation :=
  match l.acquire (l.window elapsed) with
  | (true, l) => (.ok (), l, [])
  | (false, l) =>
    (.error ⟨.rateLimit,
        l.name ++ " exceeded " ++ Text.ofNat l.maxPerSecond ++ " requests per second",
        [("service", l.name)]⟩,
      l, [.rateLimited l.name])

def used (l : Limiter) (elapsed : Nat) : Nat :=
  if windowOf l.slot = l.window elapsed then (countOf l.slot).toNat else 0

end Limiter

end VenueGateway
