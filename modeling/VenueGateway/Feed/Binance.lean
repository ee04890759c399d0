import VenueGateway.Feed.Level
import VenueGateway.Rest.Query

namespace VenueGateway.Binance

open Feed

def kindOfStatus (status : String) : Parsed EventKind :=
  match status with
  | "NEW" => .ok .ack
  | "PARTIALLY_FILLED" | "FILLED" => .ok .fill
  | "CANCELED" | "EXPIRED" | "EXPIRED_IN_MATCH" => .ok .cancel
  | "REJECTED" => .ok .reject
  | other => .error (.invalid "status" other)

def side? (j : Json) (key : String) : Option Side := (textAt? j [key]).bind Side.read

/-- An order update; a cancelled or rejected order has its status as the reason. -/
def order (now : Int) (j : Json) : Parsed (OrderEvent Float) := do
  let o := (j.field? "o").getD j
  let status ← textAt o "X" ["X"]
  let kind ← kindOfStatus status
  let id ← textAt o "c" ["c"]
  let symbol ← textAt o "s" ["s"]
  let time := ((timeAt? o ["T"]).or (timeAt? j ["T", "E"])).getD now
  pure { (OrderEvent.bare .binance id symbol kind time : OrderEvent Float) with
    venueId := textAt? o ["i"]
    side := side? o "S"
    fillQuantity := (amountAt? o ["l"]).getD 0
    fillPrice := (amountAt? o ["L"]).getD 0
    cumulative := amountAt? o ["z"]
    average := Amount.positive? (amountAt? o ["ap"])
    orderQuantity := amountAt? o ["q"]
    orderPrice := amountAt? o ["p"]
    reason := if kind = .cancel ∨ kind = .reject then some status else none }

/-- An order as the list of open orders has it. -/
def listedOrder (now : Int) (j : Json) : Parsed (OrderEvent Float) := do
  let status ← textAt j "status" ["status"]
  let kind ← kindOfStatus status
  let id ← textAt j "clientOrderId" ["clientOrderId"]
  let symbol ← textAt j "symbol" ["symbol"]
  let time := (timeAt? j ["updateTime", "time"]).getD now
  pure { (OrderEvent.bare .binance id symbol kind time : OrderEvent Float) with
    venueId := textAt? j ["orderId"]
    side := side? j "side"
    cumulative := amountAt? j ["executedQty"]
    average := Amount.positive? (amountAt? j ["avgPrice"])
    orderQuantity := amountAt? j ["origQty"]
    orderPrice := amountAt? j ["price"] }

def position (now : Int) (j : Json) : Parsed (Option (Position Float)) := do
  let symbol ← textAt j "symbol" ["s", "symbol"]
  let size ← amountAt j "positionAmt" ["pa", "positionAmt"]
  let entry := (amountAt? j ["ep", "entryPrice"]).getD 0
  let pnl := (amountAt? j ["up", "unRealizedProfit"]).getD 0
  pure (Position.ofSigned .binance symbol size entry pnl ((timeAt? j ["updateTime"]).getD now))

def balance (now : Int) (j : Json) : Parsed (Option (Balance Float)) := do
  let asset ← textAt j "asset" ["a", "asset"]
  let wallet ← amountAt j "balance" ["wb", "balance"]
  let available := (amountAt? j ["cw", "availableBalance", "crossWalletBalance"]).getD wallet
  pure (Balance.ofWallet .binance asset wallet available ((timeAt? j ["updateTime"]).getD now))

/-- Aggregated trades carry their number under another key. -/
def tradeIdKey (j : Json) : String :=
  if (j.field? "e").bind Json.string? = some "aggTrade" then "a" else "t"

/-- When the buyer is the maker, it was the seller who took. -/
def trade (now : Int) (j : Json) : Parsed (Trade Float) := do
  let side := ((j.field? "m").bind Json.bool?).map fun maker => if maker then Side.sell else .buy
  let symbol ← textAt j "s" ["s"]
  let tradeId ← textAt j "trade_id" [tradeIdKey j]
  let price ← amountAt j "p" ["p"]
  let quantity ← amountAt j "q" ["q"]
  pure ⟨.binance, symbol, tradeId, price, quantity, side, (timeAt? j ["T", "E"]).getD now⟩

def book (now : Int) (j : Json) : Parsed (OrderBook Float) := do
  let symbol ← textAt j "s" ["s"]
  let bids ← levels j "b"
  let asks ← levels j "a"
  pure ⟨.binance, symbol, bids, asks, (j.field? "u").bind Json.unsigned?,
    (timeAt? j ["T", "E"]).getD now⟩

/-- The records of the items that have one. -/
def collect (read : Json → Parsed (Option α)) (wrap : α → Record Float) (vs : List Json) :
    Parsed (List (Record Float)) := do
  let found ← vs.mapM read
  pure (found.filterMap fun r => r.map wrap)

/-- Balances first, then positions, all at the time of the update. -/
def account (now : Int) (j : Json) : Parsed (List (Record Float)) := do
  let time := (timeAt? j ["T", "E"]).getD now
  let account ← orMissing "a" (j.field? "a")
  let list (key : String) := ((account.field? key).bind Json.array?).getD []
  let balances ← collect (balance time) .balance (list "B")
  let positions ← collect (position time) .position (list "P")
  pure (balances ++ positions)

/-- A combined stream wraps its events. -/
def unwrapped (j : Json) : Json :=
  match j.field? "stream", j.field? "data" with
  | some _, some data => data
  | _, _ => j

/-- Events by their type; answers to requests, which have a number and no type, say nothing. -/
def route (now : Int) (message : Json) : Parsed (List (Record Float)) := do
  let j := unwrapped message
  if (j.field? "e").isNone && (j.field? "id").isSome then return []
  match ← orMissing "e" ((j.field? "e").bind Json.string?) with
  | "ORDER_TRADE_UPDATE" => return [.order (← order now j)]
  | "ACCOUNT_UPDATE" => account now j
  | "aggTrade" | "trade" => return [.trade (← trade now j)]
  | "depthUpdate" => return [.book (← book now j)]
  | _ => return []

def snapshot (now : Int) (kind : SnapshotKind) (body : Json) : Parsed (List (Record Float)) :=
  match body with
  | .array vs =>
    match kind with
    | .openOrders => collect (fun j => (listedOrder now j).map some) .order vs
    | .positions => collect (position now) .position vs
    | .balances => collect (balance now) .balance vs
  | _ => .error (.invalid "body" "expected array")

end VenueGateway.Binance
