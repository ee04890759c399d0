import VenueGateway.Decimal.Fixed
import VenueGateway.Dialect.Subscription
import VenueGateway.Order.Instruction
import VenueGateway.Rest.Query

namespace VenueGateway

inductive OutboundRequest where
  | frame (text : String)
  | call (query : RestQuery)

/-- An order whose request has not been answered. -/
structure PendingOrder where
  id : String
  symbol : String
deriving DecidableEq, Repr

/-- The unanswered orders by the number of their request. -/
structure PendingOrders where
  entries : List (Nat × PendingOrder) := []
deriving DecidableEq, Repr

namespace PendingOrders

def capacity : Nat := 4096

def put (number : Nat) (o : PendingOrder) : List (Nat × PendingOrder) → List (Nat × PendingOrder)
  | [] => [(number, o)]
  | (n, p) :: rest => if n = number then (n, o) :: rest else (n, p) :: put number o rest

/-- A full table is emptied first. -/
def track (p : PendingOrders) (number : Nat) (o : PendingOrder) : PendingOrders :=
  ⟨put number o (if p.entries.length ≥ capacity then [] else p.entries)⟩

def find? (p : PendingOrders) (number : Nat) : Option PendingOrder :=
  (p.entries.find? (·.1 = number)).map (·.2)

def remove (p : PendingOrders) (number : Nat) : PendingOrders :=
  ⟨p.entries.filter (·.1 ≠ number)⟩

end PendingOrders

/-- Amounts go out with eight places at most. -/
def amountText (x : Float) : String := Decimal.trimmedText 8 x

def orderPath : String := "/fapi/v1/order"

namespace Deribit

def orderParams (r : OrderRequest Float) : Json :=
  let common := [("amount", Json.ofFloat r.quantity), ("instrument_name", Json.string r.symbol),
    ("label", .string r.id)]
  Json.sorted (common ++
    match r.type with
    | .market => [("type", "market")]
    | .limit => [("type", "limit"), ("price", .ofFloat r.price)]
    | .postOnly =>
      [("type", "limit"), ("price", .ofFloat r.price), ("post_only", .bool true),
        ("reject_post_only", .bool true)])

end Deribit

namespace Grvt

def leg (r : OrderRequest Float) : Json :=
  Json.sorted ([("instrument", Json.string r.symbol), ("size", .string (amountText r.quantity)),
    ("is_buying_asset", .bool (r.side = .buy))] ++
    if r.type = .market then [] else [("limit_price", .string (amountText r.price))])

def orderBody (account : String) (r : OrderRequest Float) : Json :=
  let isMarket := r.type = .market
  .object [("order", Json.sorted [
    ("sub_account_id", .string account),
    ("is_market", .bool isMarket),
    ("time_in_force", .string (if isMarket then "IMMEDIATE_OR_CANCEL" else "GOOD_TILL_TIME")),
    ("post_only", .bool (r.type = .postOnly)),
    ("reduce_only", .bool false),
    ("legs", .array [leg r]),
    ("metadata", .object [("client_order_id", .string r.id)])])]

end Grvt

namespace Dialect

/-- A new order; only numbered frames leave it pending. -/
def orderRequest (d : Dialect) (pending : PendingOrders) (number : Nat) (r : OrderRequest Float) :
    Except GatewayError (OutboundRequest × PendingOrders) :=
  match d with
  | .binance _ =>
    let timing :=
      match r.type with
      | .market => [("type", "MARKET")]
      | .limit => [("type", "LIMIT"), ("timeInForce", "GTC")]
      | .postOnly => [("type", "LIMIT"), ("timeInForce", "GTX")]
    let price := if r.type.needsPrice then [("price", amountText r.price)] else []
    let params := [("symbol", r.symbol.toUpper), ("side", r.side.name)] ++ timing ++
      [("quantity", amountText r.quantity)] ++ price ++ [("newClientOrderId", r.id)]
    .ok (.call ⟨.post, orderPath, params, none, true⟩, pending)
  | .deribit =>
    let method := "private/" ++ r.side.lowerName
    .ok (.frame (Deribit.request number method (Deribit.orderParams r)),
      pending.track number ⟨r.id, r.symbol⟩)
  | .grvt _ account _ =>
    if (Text.readBelow Text.bound64 r.id.toList).isNone then
      .error ⟨.validation, "grvt client order ids must be numeric", [("cl_ord_id", r.id)]⟩
    else
      .ok (.call ⟨.post, "/full/v1/create_order", [], some (Grvt.orderBody account r), true⟩,
        pending)

def cancelRequest (d : Dialect) (number : Nat) (o : Order Float) : OutboundRequest :=
  match d with
  | .binance _ =>
    .call ⟨.delete, orderPath, [("symbol", o.symbol.toUpper), ("origClientOrderId", o.id)], none,
      true⟩
  | .deribit =>
    let currency := String.ofList (o.symbol.toList.takeWhile (· != '-'))
    .frame (Deribit.request number "private/cancel_by_label"
      (.object [("currency", currency), ("label", o.id)]))
  | .grvt _ account _ =>
    .call ⟨.post, "/full/v1/cancel_order", [],
      some (.object [("client_order_id", o.id), ("sub_account_id", account)]), true⟩

/-- An amendment; an absent price stays as it is. -/
def amendRequest (d : Dialect) (number : Nat) (o : Order Float) (quantity : Float)
    (price : Option Float) : Except GatewayError OutboundRequest :=
  let refused (reason : String) : GatewayError := ⟨.validation, reason, [("cl_ord_id", o.id)]⟩
  match d with
  | .binance _ =>
    if !o.type.needsPrice then .error (refused "binance can only amend limit orders")
    else
      .ok (.call ⟨.put, orderPath, [("symbol", o.symbol.toUpper), ("origClientOrderId", o.id),
        ("side", o.side.name), ("quantity", amountText quantity),
        ("price", amountText (price.getD o.price))], none, true⟩)
  | .deribit =>
    if !o.type.needsPrice then .error (refused "deribit can only edit limit orders")
    else
      .ok (.frame (Deribit.request number "private/edit_by_label"
        (.object [("amount", .ofFloat quantity), ("instrument_name", o.symbol), ("label", o.id),
          ("price", .ofFloat (price.getD o.price))])))
  | .grvt .. => .error (refused "grvt has no amend; cancel and resend instead")

/-- What goes out for a request, under a number of its own. -/
def outbound (d : Dialect) (pending : PendingOrders) (number : Nat) :
    VenueRequest Float → Except GatewayError (OutboundRequest × PendingOrders)
  | .send r => d.orderRequest pending number r
  | .cancel o => .ok (d.cancelRequest number o, pending)
  | .modify o quantity price =>
    (d.amendRequest number o quantity price).map fun out => (out, pending)

/-- A request is refused where there is nothing to carry it. -/
def checkRoute (d : Dialect) (hasSession hasCalls : Bool) :
    OutboundRequest → Except GatewayError Unit
  | .frame _ =>
    if hasSession then .ok ()
    else
      .error ⟨.system, "no private session for websocket order entry",
        [("venue", d.venue.name)]⟩
  | .call _ =>
    if hasCalls then .ok ()
    else .error ⟨.system, "no rest client for order entry", [("venue", d.venue.name)]⟩

/-- The call that fetches a snapshot. -/
def snapshotQuery (d : Dialect) (kind : SnapshotKind) : RestQuery :=
  match d, kind with
  | .binance _, .openOrders => ⟨.get, "/fapi/v1/openOrders", [], none, true⟩
  | .binance _, .positions => ⟨.get, "/fapi/v2/positionRisk", [], none, true⟩
  | .binance _, .balances => ⟨.get, "/fapi/v2/balance", [], none, true⟩
  | .deribit, .openOrders => ⟨.get, "/api/v2/private/get_open_orders", [], none, true⟩
  | .deribit, .positions =>
    ⟨.get, "/api/v2/private/get_positions", [("currency", "any")], none, true⟩
  | .deribit, .balances => ⟨.get, "/api/v2/private/get_account_summaries", [], none, true⟩
  | .grvt _ account _, kind =>
    let path :=
      match kind with
      | .openOrders => "/full/v1/open_orders"
      | .positions => "/full/v1/positions"
      | .balances => "/full/v1/account_summary"
    ⟨.post, path, [], some (.object [("sub_account_id", account)]), true⟩

end Dialect

end VenueGateway
