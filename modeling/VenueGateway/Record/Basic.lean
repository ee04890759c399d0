import VenueGateway.Order.Entry

namespace VenueGateway

structure OrderEvent (α : Type) where
  venue : Venue
  id : String
  venueId : Option String
  symbol : String
  side : Option Side
  kind : EventKind
  fillQuantity : α
  fillPrice : α
  cumulative : Option α
  average : Option α
  orderQuantity : Option α
  orderPrice : Option α
  reason : Option String
  time : Int
deriving Repr

inductive PositionSide where
  | long
  | short
deriving DecidableEq, Repr

structure Position (α : Type) where
  venue : Venue
  symbol : String
  side : PositionSide
  quantity : α
  entryPrice : α
  unrealizedPnl : α
  time : Int
deriving Repr

structure Balance (α : Type) where
  venue : Venue
  asset : String
  wallet : α
  available : α
  locked : α
  time : Int
deriving Repr

structure Trade (α : Type) where
  venue : Venue
  symbol : String
  tradeId : String
  price : α
  quantity : α
  side : Option Side
  time : Int
deriving Repr

structure PriceLevel (α : Type) where
  price : α
  quantity : α
deriving Repr

structure OrderBook (α : Type) where
  venue : Venue
  symbol : String
  bids : List (PriceLevel α)
  asks : List (PriceLevel α)
  sequence : Option Nat
  time : Int
deriving Repr

/-- What every venue's messages are turned into. -/
inductive Record (α : Type) where
  | order (e : OrderEvent α)
  | position (p : Position α)
  | balance (b : Balance α)
  | trade (t : Trade α)
  | book (b : OrderBook α)
deriving Repr

namespace PositionSide

def all : List PositionSide := [.long, .short]

def name : PositionSide → String
  | .long => "LONG"
  | .short => "SHORT"

def ofName? (s : String) : Option PositionSide := all.find? (·.name == s)

end PositionSide

namespace OrderEvent

variable {α : Type} [Amount α]

/-- An event with nothing but its kind. -/
def bare (venue : Venue) (id symbol : String) (kind : EventKind) (time : Int) : OrderEvent α where
  venue := venue
  id := id
  venueId := none
  symbol := symbol
  side := none
  kind := kind
  fillQuantity := 0
  fillPrice := 0
  cumulative := none
  average := none
  orderQuantity := none
  orderPrice := none
  reason := none
  time := time

def fill (e : OrderEvent α) : Fill α := ⟨e.fillQuantity, e.fillPrice, e.cumulative, e.average⟩

end OrderEvent

/-- Sizes below this count as no position and no balance. -/
def dust : Float := 1e-8

def PositionSide.ofSigned (x : Float) : PositionSide := if x < 0 then .short else .long

/-- A position from a signed size; none for dust and for sizes that are no number. -/
def Position.ofSigned (venue : Venue) (symbol : String) (size entryPrice pnl : Float) (time : Int) :
    Option (Position Float) :=
  if !size.isFinite || size.abs < dust then none
  else some ⟨venue, symbol, .ofSigned size, size.abs, entryPrice, pnl, time⟩

def Position.signed (p : Position Float) : Float :=
  match p.side with
  | .long => p.quantity
  | .short => -p.quantity

/-- A balance whose locked part is what is not available; none for dust. -/
def Balance.ofWallet (venue : Venue) (asset : String) (wallet available : Float) (time : Int) :
    Option (Balance Float) :=
  if !wallet.isFinite || wallet.abs < dust then none
  else some ⟨venue, asset, wallet, available, wallet - available, time⟩

/-- The mean of two prices, also where their sum is too large for a double. -/
def midpoint (a b : Float) : Float :=
  let lo : Float := 2.2250738585072014e-308 * 2
  let hi : Float := 1.7976931348623157e308 / 2
  if a.abs ≤ hi ∧ b.abs ≤ hi then (a + b) / 2
  else if a.abs < lo then a + b / 2
  else if b.abs < lo then a / 2 + b
  else a / 2 + b / 2

namespace OrderBook

variable {α : Type}

def bestBid (b : OrderBook α) : Option (PriceLevel α) := b.bids.head?

def bestAsk (b : OrderBook α) : Option (PriceLevel α) := b.asks.head?

def midPrice (b : OrderBook Float) : Option Float := do
  let bid ← b.bestBid
  let ask ← b.bestAsk
  pure (midpoint bid.price ask.price)

end OrderBook

namespace Record

variable {α : Type}

def venue : Record α → Venue
  | .order e => e.venue
  | .position p => p.venue
  | .balance b => b.venue
  | .trade t => t.venue
  | .book b => b.venue

def time : Record α → Int
  | .order e => e.time
  | .position p => p.time
  | .balance b => b.time
  | .trade t => t.time
  | .book b => b.time

def kindName : Record α → String
  | .order _ => "order"
  | .position _ => "position"
  | .balance _ => "balance"
  | .trade _ => "trade"
  | .book _ => "order_book"

def subject : Record α → String
  | .order e => e.symbol
  | .position p => p.symbol
  | .balance b => b.asset
  | .trade t => t.symbol
  | .book b => b.symbol

def topic (r : Record α) : String := r.kindName ++ "." ++ r.venue.name ++ "." ++ r.subject

end Record

end VenueGateway
