import VenueGateway.Dialect.Instruction
import VenueGateway.Feed.Binance
import VenueGateway.Feed.Deribit
import VenueGateway.Feed.Grvt
import VenueGateway.Json.Reader

namespace VenueGateway

namespace Deribit

open Feed

/-- The pending order that an answer is about. -/
def answered? (pending : PendingOrders) (j : Json) : Option PendingOrder :=
  ((j.field? "id").bind Json.unsigned?).bind pending.find?

def settled (pending : PendingOrders) (j : Json) : PendingOrders :=
  match (j.field? "id").bind Json.unsigned? with
  | some number => pending.remove number
  | none => pending

def errorText (error : Json) : String := (textAt? error ["message"]).getD error.text

def rejected (now : Int) (reason : String) (o : PendingOrder) : Record Float :=
  .order { OrderEvent.bare .deribit o.id o.symbol .reject now with reason := some reason }

def answer (now : Int) (pending : PendingOrders) (j : Json) : Parsed (List (Record Float)) :=
  match j.field? "error" with
  | some error => .ok ((answered? pending j).map (rejected now (errorText error))).toList
  | none =>
    match j.path? ["result", "order"] with
    | some o => (order now o).map fun e => [.order e]
    | none => .ok []

def route (now : Int) (pending : PendingOrders) (j : Json) :
    Parsed (List (Record Float)) × PendingOrders :=
  match (j.field? "method").bind Json.string? with
  | some "subscription" =>
    (do notification now (← orMissing "params" (j.field? "params")), pending)
  | some _ => (.ok [], pending)
  | none =>
    if (j.field? "result").isSome || (j.field? "error").isSome then
      (answer now pending j, settled pending j)
    else (.error (.unsupported "frame without method or result"), pending)

end Deribit

namespace Dialect

/-- The records of a message, and what is pending after it. -/
def route (d : Dialect) (now : Int) (pending : PendingOrders) (message : Json) :
    Feed.Parsed (List (Record Float)) × PendingOrders :=
  match d with
  | .binance _ => (Binance.route now message, pending)
  | .deribit => Deribit.route now pending message
  | .grvt .. => (Grvt.route now message, pending)

/-- The records of a text; none when it is malformed. -/
def decode (d : Dialect) (now : Int) (pending : PendingOrders) (text : String) :
    Option (List (Record Float)) × PendingOrders :=
  match Json.read text with
  | none => (none, pending)
  | some j =>
    match d.route now pending j with
    | (.ok records, pending) => (some records, pending)
    | (.error _, pending) => (none, pending)

def snapshot (d : Dialect) (now : Int) (kind : SnapshotKind) (body : Json) :
    Feed.Parsed (List (Record Float)) :=
  match d with
  | .binance _ => Binance.snapshot now kind body
  | .deribit => Deribit.snapshot now kind body
  | .grvt .. => Grvt.snapshot now kind body

/-- One record of each kind, from a message that holds just it. -/
def readOrder (d : Dialect) (now : Int) : Json → Feed.Parsed (OrderEvent Float) :=
  match d with
  | .binance _ => Binance.order now
  | .deribit => Deribit.order now
  | .grvt .. => Grvt.order now

def readPosition (d : Dialect) (now : Int) : Json → Feed.Parsed (Option (Position Float)) :=
  match d with
  | .binance _ => Binance.position now
  | .deribit => Deribit.position now
  | .grvt .. => Grvt.position now

def readBalance (d : Dialect) (now : Int) : Json → Feed.Parsed (Option (Balance Float)) :=
  match d with
  | .binance _ => Binance.balance now
  | .deribit => Deribit.balance now
  | .grvt .. => Grvt.balance now

def readTrade (d : Dialect) (now : Int) : Json → Feed.Parsed (Trade Float) :=
  match d with
  | .binance _ => Binance.trade now
  | .deribit => Deribit.trade now
  | .grvt .. => Grvt.trade now

def readBook (d : Dialect) (now : Int) : Json → Feed.Parsed (OrderBook Float) :=
  match d with
  | .binance _ => Binance.book now
  | .deribit => Deribit.book now
  | .grvt .. => Grvt.book now

end Dialect

end VenueGateway
