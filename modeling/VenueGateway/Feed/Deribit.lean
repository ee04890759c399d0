import VenueGateway.Feed.Level
import VenueGateway.Rest.Query

namespace VenueGateway.Deribit

open Feed

/-- An open order with something filled reports a fill. -/
def kindOfState (state : String) (filled : Float) : Parsed EventKind :=
  match state with
  | "open" => .ok (if 0 < filled then .fill else .ack)
  | "untriggered" => .ok .ack
  | "filled" => .ok .fill
  | "cancelled" => .ok .cancel
  | "rejected" => .ok .reject
  | other => .error (.invalid "order_state" other)

def side? (j : Json) : Option Side := (textAt? j ["direction"]).bind Side.read

/-- An order update; an order placed elsewhere has no label and goes by the venue's number. -/
def order (now : Int) (j : Json) : Parsed (OrderEvent Float) := do
  let venueId ← textAt j "order_id" ["order_id"]
  let filled := (amountAt? j ["filled_amount"]).getD 0
  let state ← textAt j "order_state" ["order_state"]
  let kind ← kindOfState state filled
  let symbol ← textAt j "instrument_name" ["instrument_name"]
  let id := (textAt? j ["label"]).getD venueId
  let time := (timeAt? j ["last_update_timestamp", "creation_timestamp"]).getD now
  let average := Amount.positive? (amountAt? j ["average_price"])
  pure { (OrderEvent.bare .deribit id symbol kind time : OrderEvent Float) with
    venueId := some venueId
    side := side? j
    cumulative := some filled
    fillPrice := average.getD 0
    average := average
    orderQuantity := amountAt? j ["amount"]
    orderPrice := amountAt? j ["price"]
    reason :=
      if kind = .cancel ∨ kind = .reject then
        (textAt? j ["cancel_reason", "reject_reason"]).or (some state)
      else none }

/-- The size is signed, or its direction says so. -/
def position (now : Int) (j : Json) : Parsed (Option (Position Float)) := do
  let symbol ← textAt j "instrument_name" ["instrument_name"]
  let size ← amountAt j "size" ["size"]
  let sold := (j.field? "direction").bind Json.string? = some "sell" ∧ 0 < size
  pure (Position.ofSigned .deribit symbol (if sold then -size else size)
    ((amountAt? j ["average_price"]).getD 0)
    ((amountAt? j ["floating_profit_loss", "total_profit_loss"]).getD 0)
    ((timeAt? j ["timestamp", "creation_timestamp"]).getD now))

def balance (now : Int) (j : Json) : Parsed (Option (Balance Float)) := do
  let asset ← textAt j "currency" ["currency"]
  let wallet ← amountAt j "balance" ["balance", "equity"]
  let available := (amountAt? j ["available_funds", "available_withdrawal_funds"]).getD wallet
  pure (Balance.ofWallet .deribit asset.toUpper wallet available
    ((timeAt? j ["creation_timestamp", "timestamp"]).getD now))

def trade (now : Int) (j : Json) : Parsed (Trade Float) := do
  let symbol ← textAt j "instrument_name" ["instrument_name"]
  let tradeId ← textAt j "trade_id" ["trade_id"]
  let price ← amountAt j "price" ["price"]
  let quantity ← amountAt j "amount" ["amount"]
  pure ⟨.deribit, symbol, tradeId, price, quantity, side? j, (timeAt? j ["timestamp"]).getD now⟩

def book (now : Int) (j : Json) : Parsed (OrderBook Float) := do
  let symbol ← textAt j "instrument_name" ["instrument_name"]
  let bids ← levels j "bids"
  let asks ← levels j "asks"
  pure ⟨.deribit, symbol, bids, asks, (j.field? "change_id").bind Json.unsigned?,
    (timeAt? j ["timestamp"]).getD now⟩

def orders (now : Int) (j : Json) : Parsed (List (Record Float)) :=
  (items j).mapM fun v => .order <$> order now v

def positions (now : Int) (j : Json) : Parsed (List (Record Float)) := do
  let found ← (items j).mapM (position now)
  pure (found.filterMap fun p => p.map .position)

/-- The balances, which may stand under a summary. -/
def balances (now : Int) (j : Json) : Parsed (List (Record Float)) := do
  let found ← (items ((j.field? "summaries").getD j)).mapM (balance now)
  pure (found.filterMap fun b => b.map .balance)

/-- Orders first, then positions. -/
def changes (now : Int) (j : Json) : Parsed (List (Record Float)) := do
  let os ← ((j.field? "orders").map (orders now)).getD (.ok [])
  let ps ← ((j.field? "positions").map (positions now)).getD (.ok [])
  pure (os ++ ps)

def notification (now : Int) (params : Json) : Parsed (List (Record Float)) := do
  let channel ← orMissing "channel" ((params.field? "channel").bind Json.string?)
  let data ← orMissing "data" (params.field? "data")
  if channel.startsWith "trades." then (items data).mapM fun v => .trade <$> trade now v
  else if channel.startsWith "book." then return [.book (← book now data)]
  else if channel.startsWith "user.orders." then orders now data
  else if channel.startsWith "user.changes." then changes now data
  else if channel.startsWith "user.portfolio." then balances now data
  else return []

def snapshot (now : Int) (kind : SnapshotKind) (body : Json) : Parsed (List (Record Float)) :=
  let result := (body.field? "result").getD body
  match kind with
  | .openOrders => orders now result
  | .positions => positions now result
  | .balances => balances now result

end VenueGateway.Deribit
