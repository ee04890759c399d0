namespace VenueGateway

inductive Venue where
  | binance
  | deribit
  | grvt
deriving DecidableEq, Repr

namespace Venue

def all : List Venue := [.binance, .deribit, .grvt]

def name : Venue → String
  | .binance => "binance"
  | .deribit => "deribit"
  | .grvt => "grvt"

def ofName? (s : String) : Option Venue := all.find? (·.name == s)

/-- Reads a venue's name in any case. -/
def read (s : String) : Except String Venue :=
  match ofName? s.toLower with
  | some v => .ok v
  | none => .error ("unknown venue: " ++ s.toLower)

end Venue

inductive Channel where
  | «public»
  | «private»
deriving DecidableEq, Repr

namespace Channel

def all : List Channel := [.public, .private]

def name : Channel → String
  | .public => "public"
  | .private => "private"

def ofName? (s : String) : Option Channel := all.find? (·.name == s)

def needsLogin (c : Channel) : Bool := c == .private

end Channel

end VenueGateway
