import VenueGateway.Venue

namespace VenueGateway

/-- Whether requests are wrapped under full or under short names. -/
inductive Envelope where
  | full
  | lite
deriving DecidableEq, Repr

/-- How one venue is spoken to, with the settings that its requests carry. -/
inductive Dialect where
  | binance (receiveWindowMs : Nat)
  | deribit
  | grvt (envelope : Envelope) (account authUrl : String)
deriving DecidableEq, Repr

inductive StreamKind where
  | trades
  | orderBook
  | orders
  | positions
  | balances
deriving DecidableEq, Repr

inductive SubscriptionAction where
  | subscribe
  | unsubscribe
deriving DecidableEq, Repr

namespace Envelope

def all : List Envelope := [.full, .lite]

def name : Envelope → String
  | .full => "full"
  | .lite => "lite"

def ofName? (s : String) : Option Envelope := all.find? (·.name == s)

end Envelope

namespace Dialect

def defaultReceiveWindowMs : Nat := 5000

def defaultAuthUrl : String := "https://edge.grvt.io/auth/api_key/login"

def venue : Dialect → Venue
  | .binance _ => .binance
  | .deribit => .deribit
  | .grvt .. => .grvt

end Dialect

namespace StreamKind

def all : List StreamKind := [.trades, .orderBook, .orders, .positions, .balances]

def name : StreamKind → String
  | .trades => "trades"
  | .orderBook => "order_book"
  | .orders => "orders"
  | .positions => "positions"
  | .balances => "balances"

def ofName? (s : String) : Option StreamKind := all.find? (·.name == s)

def isPrivate : StreamKind → Bool
  | .trades | .orderBook => false
  | .orders | .positions | .balances => true

end StreamKind

namespace SubscriptionAction

def name : SubscriptionAction → String
  | .subscribe => "subscribe"
  | .unsubscribe => "unsubscribe"

end SubscriptionAction

end VenueGateway
