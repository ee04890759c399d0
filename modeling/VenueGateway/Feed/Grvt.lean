import VenueGateway.Feed.Level
import VenueGateway.Rest.Query

namespace VenueGateway.Grvt

open Feed

/-- An order at the venue with something traded reports a fill. -/
def kindOfStatus (status : String) (traded : Float) : Parsed EventKind :=
  match status with
  | "PENDING" | "OPEN" => .ok (if 0 < traded then .fill else .ack)
  | "FILLED" => .ok .fill
  | "CANCELLED" => .ok .cancel
  | "REJECTED" => .ok .reject
  | other => .error (.invalid "status" other)

def side? (j : Json) (keys : List String) : Option Side :=
  (flagAt? j keys).map fun buying => if buying then .buy else .sell

/-- The first of the amounts that a field lists, one for each leg. -/
def legAmount? (j : Json) (keys : List String) : Option Float :=
  ((first? j keys).map leading).bind amount?

/-- An update of an order of one leg; one placed elsewhere goes by the venue's number. -/
def order (now : Int) (j : Json) : Parsed (OrderEvent Float) := do
  let metadata := first? j ["metadata", "m"]
  let venueId := textAt? j ["order_id", "oi"]
  let ownId := metadata.bind fun m => textAt? m ["client_order_id", "co"]
  let id ← orMissing "client_order_id" (ownId.or venueId)
  let state ← orMissing "state" (first? j ["state", "s1"])
  let status ← textAt state "status" ["status", "s"]
  let traded := (legAmount? state ["traded_size", "ts"]).getD 0
  let kind ← kindOfStatus status traded
  let average := Amount.positive? (legAmount? state ["avg_fill_price", "af"])
  let leg ← orMissing "legs" ((first? j ["legs", "l"]).map leading)
  let symbol ← textAt leg "instrument" ["instrument", "i"]
  let created := metadata.bind fun m => timeAt? m ["create_time", "ct"]
  let time := ((timeAt? state ["update_time", "ut"]).or created).getD now
  let rejected := (textAt? state ["reject_reason", "rr"]).filter (· != "UNSPECIFIED")
  pure { (OrderEvent.bare .grvt id symbol kind time : OrderEvent Float) with
    venueId := venueId
    side := side? leg ["is_buying_asset", "ib"]
    cumulative := some traded
    fillPrice := average.getD 0
    average := average
    orderQuantity := amountAt? leg ["size", "s"]
    orderPrice := Amount.positive? (amountAt? leg ["limit_price", "lp"])
    reason := if kind = .cancel ∨ kind = .reject then rejected.or (some status) else none }

def position (now : Int) (j : Json) : Parsed (Option (Position Float)) := do
  let symbol ← textAt j "instrument" ["instrument", "i"]
  let size ← amountAt j "size" ["size", "s"]
  pure (Position.ofSigned .grvt symbol size ((amountAt? j ["entry_price", "ep"]).getD 0)
    ((amountAt? j ["unrealized_pnl", "up"]).getD 0)
    ((timeAt? j ["event_time", "et"]).getD now))

def balance (now : Int) (j : Json) : Parsed (Option (Balance Float)) := do
  let wallet ← amountAt j "balance" ["balance", "b"]
  let asset ← textAt j "currency" ["currency", "c"]
  pure (Balance.ofWallet .grvt asset wallet ((amountAt? j ["available", "a"]).getD wallet)
    ((timeAt? j ["event_time", "et"]).getD now))

def trade (now : Int) (j : Json) : Parsed (Trade Float) := do
  let symbol ← textAt j "instrument" ["instrument", "i"]
  let tradeId ← textAt j "trade_id" ["trade_id", "ti"]
  let price ← amountAt j "price" ["price", "p"]
  let quantity ← amountAt j "size" ["size", "s"]
  pure ⟨.grvt, symbol, tradeId, price, quantity, side? j ["is_taker_buyer", "it"],
    (timeAt? j ["event_time", "et"]).getD now⟩

/-- A book has both its sides under full names or both under short ones. -/
def book (now : Int) (j : Json) : Parsed (OrderBook Float) := do
  let full := (j.field? "bids").isSome || (j.field? "asks").isSome
  let bids ← levels j (if full then "bids" else "b")
  let asks ← levels j (if full then "asks" else "a")
  let symbol ← textAt j "instrument" ["instrument", "i"]
  pure ⟨.grvt, symbol, bids, asks, none, (timeAt? j ["event_time", "et"]).getD now⟩

def orders (now : Int) (j : Json) : Parsed (List (Record Float)) :=
  (items j).mapM fun v => .order <$> order now v

def positions (now : Int) (j : Json) : Parsed (List (Record Float)) := do
  let found ← (items j).mapM (position now)
  pure (found.filterMap fun p => p.map .position)

/-- The spot balances of a summary; only the settlement currency has an available part. -/
def summary (now : Int) (j : Json) : Parsed (List (Record Float)) := do
  let time := (timeAt? j ["event_time", "et"]).getD now
  let settle := textAt? j ["settle_currency", "sc"]
  let settleAvailable := amountAt? j ["available_balance", "ab"]
  let spot := ((first? j ["spot_balances", "sb"]).bind Json.array?).getD []
  let found ← spot.mapM fun v => do
    let asset ← textAt v "currency" ["currency", "c"]
    let wallet ← amountAt v "balance" ["balance", "b"]
    let available := if settle = some asset then settleAvailable.getD wallet else wallet
    pure (Balance.ofWallet .grvt asset wallet available time)
  pure (found.filterMap fun b => b.map .balance)

def sequence? (j : Json) : Option Nat :=
  (textAt? j ["sequence_number", "n"]).bind fun s => Text.readBelow Text.bound64 s.toList

/-- Feeds by their stream; errors and answers to requests say nothing. -/
def route (now : Int) (j : Json) : Parsed (List (Record Float)) := do
  if ((first? j ["error", "e"]).filter Json.isObject).isSome then return []
  match first? j ["feed", "f"] with
  | none =>
    if (first? j ["result", "r"]).isSome then return []
    .error (.missing "feed")
  | some feed =>
    let stream ← textAt j "stream" ["stream", "s"]
    if stream = "v1.order" then orders now feed
    else if stream = "v1.position" then positions now feed
    else if stream = "v1.trade" then (items feed).mapM fun v => .trade <$> trade now v
    else if stream.startsWith "v1.book" then
      let b ← book now feed
      return [.book { b with sequence := sequence? j }]
    else return []

def snapshot (now : Int) (kind : SnapshotKind) (body : Json) : Parsed (List (Record Float)) :=
  let result := (first? body ["result", "r"]).getD body
  match kind with
  | .openOrders => orders now result
  | .positions => positions now result
  | .balances => summary now result

end VenueGateway.Grvt
