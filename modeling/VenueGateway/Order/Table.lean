import VenueGateway.Order.Update

namespace VenueGateway

/-- All orders by their ids, in the order in which they came in. Each operation on the table is one
atomic step. -/
structure OrderTable (α : Type) where
  entries : List (OrderEntry α) := []
deriving Repr

namespace OrderTable

variable {α : Type} [Amount α]

def find? (t : OrderTable α) (id : String) : Option (OrderEntry α) :=
  t.entries.find? (·.order.id == id)

def contains (t : OrderTable α) (id : String) : Bool := (t.find? id).isSome

def put (t : OrderTable α) (entry : OrderEntry α) : OrderTable α :=
  ⟨t.entries.map fun e => if e.order.id = entry.order.id then entry else e⟩

/-- Adds an order, unless its id is taken. -/
def insertNew? (t : OrderTable α) (o : Order α) : Option (OrderTable α) :=
  if t.contains o.id then none else some ⟨t.entries ++ [.new o]⟩

def addRetries (t : OrderTable α) (id : String) (n : Nat) : OrderTable α :=
  match t.find? id with
  | some entry => t.put { entry with retries := entry.retries + n }
  | none => t

/-- An event from a venue; one for an unknown order adds that order. -/
def receive (t : OrderTable α) (e : OrderEvent α) (now : Int) : OrderTable α × OrderUpdate α :=
  match t.find? e.id with
  | some entry =>
    let (entry, u) := entry.receive e now false
    (t.put entry, u)
  | none =>
    let (entry, u) := (OrderEntry.ofEvent e).receive e now true
    (⟨t.entries ++ [entry]⟩, u)

/-- An order that may still be cancelled or modified. -/
def live (t : OrderTable α) (id : String) : Except OrderError (Order α) :=
  match t.find? id with
  | none => .error (.notFound id)
  | some entry =>
    if entry.state.isTerminal then .error (.closed id entry.state) else .ok entry.order

def openCount (t : OrderTable α) (venue : Venue) : Nat :=
  t.entries.countP fun e => e.order.venue == venue && e.state.isOpen

/-- Entries from the oldest order to the newest, by id where the times are the same. -/
def sorted (t : OrderTable α) : List (OrderEntry α) :=
  t.entries.mergeSort fun a b =>
    decide (a.order.createdAt < b.order.createdAt) ||
      (decide (a.order.createdAt = b.order.createdAt) && decide (a.order.id ≤ b.order.id))

def openEntries (t : OrderTable α) : List (OrderEntry α) := t.sorted.filter (·.state.isOpen)

def isAtVenue (s : OrderState) : Bool := s = .acknowledged || s = .partiallyFilled

/-- The venue's orders that are open here but not on its list, in ascending order of ids. -/
def unlisted (t : OrderTable α) (venue : Venue) (listed : List String) : List String :=
  ((t.entries.filter fun e =>
      e.order.venue == venue && isAtVenue e.state && !listed.contains e.order.id).map
    (·.order.id)).mergeSort fun a b => decide (a ≤ b)

end OrderTable

end VenueGateway
