import VenueGateway.Order.Table
import VenueGateway.Resilience.Call

namespace VenueGateway

/-- The coordinator owns the orders of all venues. What venues report moves the orders and goes on
to the bus; what has changed is also announced inside the program. -/
structure Coordinator (α : Type) where
  table : OrderTable α := {}
  venues : List Venue := []
  registry : Registry α

/-- What the coordinator gives to the outside. -/
inductive Emission (α : Type) where
  | publish (r : Record α)
  | announce (r : Record α)
  | observe (o : Observation)
deriving Repr

namespace Emission

variable {α : Type}

def published? : Emission α → Option (Record α)
  | .publish r => some r
  | _ => none

def announced? : Emission α → Option (Record α)
  | .announce r => some r
  | _ => none

def observed? : Emission α → Option Observation
  | .observe o => some o
  | _ => none

end Emission

namespace Coordinator

variable {α : Type} [Amount α]

/-- Venues in the order of their names, each of them once. -/
def register (c : Coordinator α) (venue : Venue) : Coordinator α :=
  { c with venues := Venue.all.filter fun v => v == venue || c.venues.contains v }

def checkVenue (c : Coordinator α) (venue : Venue) : Except GatewayError Unit :=
  if c.venues.contains venue then .ok ()
  else
    .error ⟨.validation, "venue " ++ venue.name ++ " is not configured", [("venue", venue.name)]⟩

def openGauge (c : Coordinator α) (venue : Venue) : Emission α :=
  .observe (.openOrders venue.name (c.table.openCount venue))

/-- An acknowledgement of an order that is known to be at the venue says nothing new. -/
def isRedundant (state : OrderState) (kind : EventKind) : Bool :=
  kind = .ack && OrderTable.isAtVenue state

def ignoredStep? (venue : Venue) : Transition → Option Observation
  | .applied .. => none
  | .ignored state kind =>
    if isRedundant state kind then none
    else some (.ignoredTransition venue.name state.name kind.name)

def receive (c : Coordinator α) (e : OrderEvent α) (now : Int) :
    OrderUpdate α × Coordinator α × List (Emission α) :=
  let (table, u) := c.table.receive e now
  let c := { c with table }
  let ignored := u.transitions.filterMap (ignoredStep? e.venue)
  let announced := if u.isChange then [.announce (.order e)] else []
  (u, c, .observe (.orderEvent e.venue.name e.kind.name) :: ignored.map .observe ++
    [c.openGauge e.venue, .publish (.order e)] ++ announced)

def passOn (r : Record α) : List (Emission α) := [.publish r, .announce r]

/-- Any record; all but order events are just passed on. -/
def receiveRecord (c : Coordinator α) (r : Record α) (now : Int) :
    Coordinator α × List (Emission α) :=
  match r with
  | .order e =>
    let (_, c, out) := c.receive e now
    (c, out)
  | r => (c, passOn r)

def receiveAll (c : Coordinator α) (now : Int) : List (Record α) → Coordinator α × List (Emission α)
  | [] => (c, [])
  | r :: rs =>
    let (c, out) := c.receiveRecord r now
    let (c, more) := c.receiveAll now rs
    (c, out ++ more)

end Coordinator

end VenueGateway
