import VenueGateway.Order.Request

namespace VenueGateway

structure Order (α : Type) where
  id : String
  venueId : Option String
  venue : Venue
  symbol : String
  side : Side
  quantity : α
  price : α
  type : OrderType
  createdAt : Int
  updatedAt : Int
deriving Repr

/-- An execution: its own quantity, or the total so far, and the venue's average price if given. -/
structure Fill (α : Type) where
  quantity : α
  price : α
  cumulative : Option α
  average : Option α
deriving Repr

/-- An order and what the venue has said of it. -/
structure OrderEntry (α : Type) where
  order : Order α
  state : OrderState
  filled : α
  average : α
  retries : Nat
  updatedAt : Int
  reason : Option String
deriving Repr

variable {α : Type} [Amount α]

def OrderRequest.toOrder (r : OrderRequest α) (now : Int) : Order α where
  id := r.id
  venueId := none
  venue := r.venue
  symbol := r.symbol
  side := r.side
  quantity := r.quantity
  price := r.price
  type := r.type
  createdAt := now
  updatedAt := now

namespace OrderEntry

def new (o : Order α) : OrderEntry α := ⟨o, .pending, 0, 0, 0, o.updatedAt, none⟩

def remaining (e : OrderEntry α) : α := Amount.atLeastZero (e.order.quantity - e.filled)

def isComplete (e : OrderEntry α) : Bool :=
  decide (0 < e.order.quantity) && decide (e.order.quantity ≤ e.filled + Amount.epsilon)

def touch (e : OrderEntry α) (now : Int) : OrderEntry α :=
  { e with updatedAt := now, order := { e.order with updatedAt := now } }

/-- What an execution adds: the total's excess over what is known, or the quantity itself. -/
def increment (e : OrderEntry α) (f : Fill α) : α :=
  match f.cumulative with
  | some total => Amount.atLeastZero (total - e.filled)
  | none => Amount.atLeastZero f.quantity

/-- The entry after an execution, and the quantity it added. The venue's average price wins. -/
def recordFill (e : OrderEntry α) (f : Fill α) (now : Int) : OrderEntry α × α :=
  let delta := e.increment f
  let venueAverage := Amount.positive? f.average
  if delta ≤ Amount.epsilon then ({ e with average := venueAverage.getD e.average }, 0)
  else
    let filled := e.filled + delta
    let mean := Amount.mulAdd e.average e.filled (f.price * delta) / filled
    (({ e with average := venueAverage.getD mean, filled }).touch now, delta)

/-- One event kind against the state machine; the clock moves only with the state. -/
def step (e : OrderEntry α) (kind : EventKind) (now : Int) : OrderEntry α × Transition :=
  match e.state.receive kind with
  | .applied source target => ({ e with state := target }.touch now, .applied source target)
  | t => (e, t)

end OrderEntry

end VenueGateway
