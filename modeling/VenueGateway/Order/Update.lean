import VenueGateway.Record.Basic

namespace VenueGateway

/-- What an event from a venue does to an order: the steps it takes, and the quantity it adds. -/
structure OrderUpdate (α : Type) where
  previous : OrderState
  state : OrderState
  transitions : List Transition
  filled : α
  /-- Whether the order was first heard of in this event. -/
  isNew : Bool
deriving Repr

variable {α : Type} [Amount α]

def OrderUpdate.isChange (u : OrderUpdate α) : Bool :=
  u.isNew || Amount.isPositive u.filled || u.transitions.any Transition.isApplied

namespace OrderEntry

/-- The entry of an order that was placed elsewhere. -/
def ofEvent (e : OrderEvent α) : OrderEntry α :=
  let price := (Amount.positive? e.orderPrice).getD 0
  .new {
    id := e.id
    venueId := e.venueId
    venue := e.venue
    symbol := e.symbol
    side := e.side.getD .buy
    quantity := (Amount.positive? e.orderQuantity).getD 0
    price := price
    type := if 0 < price then .limit else .market
    createdAt := e.time
    updatedAt := e.time }

def adoptVenueId (entry : OrderEntry α) (e : OrderEvent α) : OrderEntry α :=
  { entry with order := { entry.order with venueId := entry.order.venueId.or e.venueId } }

/-- The quantity and price that the venue now has for an order that is still open. -/
def amend (entry : OrderEntry α) (e : OrderEvent α) : OrderEntry α :=
  if entry.state.isTerminal then entry
  else
    { entry with
      order := { entry.order with
        quantity := (Amount.usable? e.orderQuantity).getD entry.order.quantity
        price := (Amount.usable? e.orderPrice).getD entry.order.price } }

def stepIf (entry : OrderEntry α) (condition : Bool) (kind : EventKind) (now : Int) :
    OrderEntry α × List Transition :=
  if condition then
    let (entry, t) := entry.step kind now
    (entry, [t])
  else (entry, [])

/-- An execution: it acknowledges a pending order first, and may complete the order. -/
def receiveFill (entry : OrderEntry α) (f : Fill α) (now : Int) :
    OrderEntry α × List Transition × α :=
  let (entry, first) := entry.stepIf (entry.state = .pending) .ack now
  if entry.state.isTerminal then (entry, first ++ [.ignored entry.state .fill], 0)
  else
    let (entry, delta) := entry.recordFill f now
    let (entry, second) :=
      entry.stepIf (entry.state = .acknowledged && Amount.isPositive entry.filled) .fill now
    let (entry, third) :=
      entry.stepIf (entry.state = .partiallyFilled && entry.isComplete) .fill now
    (entry, first ++ second ++ third, delta)

/-- An event that is no execution; the end of an order takes over the event's reason. -/
def receiveStep (entry : OrderEntry α) (e : OrderEvent α) (now : Int) :
    OrderEntry α × List Transition × α :=
  let (entry, t) := entry.step e.kind now
  let entry :=
    if t.isApplied && (e.kind = .cancel || e.kind = .reject) then { entry with reason := e.reason }
    else entry
  (entry, [t], 0)

def receive (entry : OrderEntry α) (e : OrderEvent α) (now : Int) (isNew : Bool) :
    OrderEntry α × OrderUpdate α :=
  let previous := entry.state
  let entry := (entry.adoptVenueId e).amend e
  let (entry, transitions, filled) :=
    match e.kind with
    | .fill => entry.receiveFill e.fill now
    | _ => entry.receiveStep e now
  (entry, ⟨previous, entry.state, transitions, filled, isNew⟩)

end OrderEntry

end VenueGateway
