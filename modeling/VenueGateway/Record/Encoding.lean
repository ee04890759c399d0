import VenueGateway.Json.Fields
import VenueGateway.Json.Writer
import VenueGateway.Record.Basic

namespace VenueGateway

open Json

def Side.ofJson? (j : Json) : Option Side := j.constant?.bind Side.ofName?

def Venue.ofJson? (j : Json) : Option Venue := j.constant?.bind Venue.ofName?

namespace OrderEvent

def fieldNames : List String :=
  ["venue", "cl_ord_id", "venue_order_id", "symbol", "side", "kind", "fill_qty", "fill_price",
    "cumulative_qty", "avg_price", "order_qty", "order_price", "reason", "timestamp_us"]

def toFields (e : OrderEvent Float) : Fields :=
  [("venue", e.venue.name), ("cl_ord_id", e.id), ("venue_order_id", .ofOption .string e.venueId),
    ("symbol", e.symbol), ("side", .ofOption (fun s => .string s.name) e.side),
    ("kind", e.kind.name), ("fill_qty", .ofFloat e.fillQuantity),
    ("fill_price", .ofFloat e.fillPrice), ("cumulative_qty", .ofOption .ofFloat e.cumulative),
    ("avg_price", .ofOption .ofFloat e.average), ("order_qty", .ofOption .ofFloat e.orderQuantity),
    ("order_price", .ofOption .ofFloat e.orderPrice), ("reason", .ofOption .string e.reason),
    ("timestamp_us", .ofInt e.time)]

def ofFields? (f : Fields) : Option (OrderEvent Float) := do
  let venue ← f.required "venue" Venue.ofJson?
  let id ← f.required "cl_ord_id" string?
  let venueId ← f.optional "venue_order_id" string?
  let symbol ← f.required "symbol" string?
  let side ← f.optional "side" Side.ofJson?
  let kind ← f.required "kind" fun j => j.constant?.bind EventKind.ofName?
  let fillQuantity ← f.required "fill_qty" float?
  let fillPrice ← f.required "fill_price" float?
  let cumulative ← f.optional "cumulative_qty" float?
  let average ← f.optional "avg_price" float?
  let orderQuantity ← f.optional "order_qty" float?
  let orderPrice ← f.optional "order_price" float?
  let reason ← f.optional "reason" string?
  let time ← f.required "timestamp_us" signed?
  pure ⟨venue, id, venueId, symbol, side, kind, fillQuantity, fillPrice, cumulative, average,
    orderQuantity, orderPrice, reason, time⟩

end OrderEvent

namespace Position

def fieldNames : List String :=
  ["venue", "symbol", "side", "qty", "entry_price", "unrealized_pnl", "timestamp_us"]

def toFields (p : Position Float) : Fields :=
  [("venue", p.venue.name), ("symbol", p.symbol), ("side", p.side.name),
    ("qty", .ofFloat p.quantity), ("entry_price", .ofFloat p.entryPrice),
    ("unrealized_pnl", .ofFloat p.unrealizedPnl), ("timestamp_us", .ofInt p.time)]

def ofFields? (f : Fields) : Option (Position Float) := do
  let venue ← f.required "venue" Venue.ofJson?
  let symbol ← f.required "symbol" string?
  let side ← f.required "side" fun j => j.constant?.bind PositionSide.ofName?
  let quantity ← f.required "qty" float?
  let entryPrice ← f.required "entry_price" float?
  let pnl ← f.required "unrealized_pnl" float?
  let time ← f.required "timestamp_us" signed?
  pure ⟨venue, symbol, side, quantity, entryPrice, pnl, time⟩

end Position

namespace Balance

def fieldNames : List String :=
  ["venue", "asset", "wallet", "available", "locked", "timestamp_us"]

def toFields (b : Balance Float) : Fields :=
  [("venue", b.venue.name), ("asset", b.asset), ("wallet", .ofFloat b.wallet),
    ("available", .ofFloat b.available), ("locked", .ofFloat b.locked),
    ("timestamp_us", .ofInt b.time)]

def ofFields? (f : Fields) : Option (Balance Float) := do
  let venue ← f.required "venue" Venue.ofJson?
  let asset ← f.required "asset" string?
  let wallet ← f.required "wallet" float?
  let available ← f.required "available" float?
  let locked ← f.required "locked" float?
  let time ← f.required "timestamp_us" signed?
  pure ⟨venue, asset, wallet, available, locked, time⟩

end Balance

namespace Trade

def fieldNames : List String :=
  ["venue", "symbol", "trade_id", "price", "qty", "side", "timestamp_us"]

def toFields (t : Trade Float) : Fields :=
  [("venue", t.venue.name), ("symbol", t.symbol), ("trade_id", t.tradeId),
    ("price", .ofFloat t.price), ("qty", .ofFloat t.quantity),
    ("side", .ofOption (fun s => .string s.name) t.side), ("timestamp_us", .ofInt t.time)]

def ofFields? (f : Fields) : Option (Trade Float) := do
  let venue ← f.required "venue" Venue.ofJson?
  let symbol ← f.required "symbol" string?
  let tradeId ← f.required "trade_id" string?
  let price ← f.required "price" float?
  let quantity ← f.required "qty" float?
  let side ← f.optional "side" Side.ofJson?
  let time ← f.required "timestamp_us" signed?
  pure ⟨venue, symbol, tradeId, price, quantity, side, time⟩

end Trade

namespace PriceLevel

def toJson (l : PriceLevel Float) : Json :=
  .object [("price", .ofFloat l.price), ("qty", .ofFloat l.quantity)]

def ofJson? (j : Json) : Option (PriceLevel Float) := do
  let f ← j.record? ["price", "qty"]
  let price ← f.required "price" float?
  let quantity ← f.required "qty" float?
  pure ⟨price, quantity⟩

end PriceLevel

namespace OrderBook

def fieldNames : List String := ["venue", "symbol", "bids", "asks", "sequence", "timestamp_us"]

def toFields (b : OrderBook Float) : Fields :=
  [("venue", b.venue.name), ("symbol", b.symbol), ("bids", .array (b.bids.map PriceLevel.toJson)),
    ("asks", .array (b.asks.map PriceLevel.toJson)), ("sequence", .ofOption .ofNat b.sequence),
    ("timestamp_us", .ofInt b.time)]

def ofFields? (f : Fields) : Option (OrderBook Float) := do
  let venue ← f.required "venue" Venue.ofJson?
  let symbol ← f.required "symbol" string?
  let bids ← f.required "bids" (list? PriceLevel.ofJson?)
  let asks ← f.required "asks" (list? PriceLevel.ofJson?)
  let sequence ← f.optional "sequence" unsigned?
  let time ← f.required "timestamp_us" signed?
  pure ⟨venue, symbol, bids, asks, sequence, time⟩

end OrderBook

namespace Record

def toFields : Record Float → Fields
  | .order e => e.toFields
  | .position p => p.toFields
  | .balance b => b.toFields
  | .trade t => t.toFields
  | .book b => b.toFields

def toJson (r : Record Float) : Json := .object (("type", .string r.kindName) :: r.toFields)

def text (r : Record Float) : String := r.toJson.text

/-- The tag in front of an array, or the type field of an object. -/
def tag? : Json → Option String
  | .object fields => (lookup "type" fields).bind string?
  | .array (tag :: _) => tag.string?
  | _ => none

/-- In a tagged record an empty object may follow the name of a constant in place of null. -/
def settleConstant : Json → Json
  | .object [(name, .object [])] => .object [(name, .null)]
  | j => j

def ofJson? (j : Json) : Option (Record Float) := do
  let fields (names : List String) :=
    (j.record? ("type" :: names)).map fun f => f.map fun (k, v) => (k, settleConstant v)
  match ← tag? j with
  | "order" => return .order (← OrderEvent.ofFields? (← fields OrderEvent.fieldNames))
  | "position" => return .position (← Position.ofFields? (← fields Position.fieldNames))
  | "balance" => return .balance (← Balance.ofFields? (← fields Balance.fieldNames))
  | "trade" => return .trade (← Trade.ofFields? (← fields Trade.fieldNames))
  | "order_book" => return .book (← OrderBook.ofFields? (← fields OrderBook.fieldNames))
  | _ => none

end Record

end VenueGateway
