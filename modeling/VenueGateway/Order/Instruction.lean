import VenueGateway.Order.Encoding
import VenueGateway.Order.Entry

namespace VenueGateway

inductive Instruction (α : Type) where
  | send (r : OrderRequest α)
  | cancel (id : String)
  | modify (id : String) (quantity : α) (price : Option α)
deriving Repr

/-- What a venue is asked to do. -/
inductive VenueRequest (α : Type) where
  | send (r : OrderRequest α)
  | cancel (o : Order α)
  | modify (o : Order α) (quantity : α) (price : Option α)
deriving Repr

namespace VenueRequest

variable {α : Type}

def venue : VenueRequest α → Venue
  | .send r => r.venue
  | .cancel o | .modify o .. => o.venue

def id : VenueRequest α → String
  | .send r => r.id
  | .cancel o | .modify o .. => o.id

def operation : VenueRequest α → String
  | .send _ => "send_order"
  | .cancel _ => "cancel_order"
  | .modify .. => "modify_order"

def service (v : VenueRequest α) : String := v.venue.name ++ ".orders"

def payload [JsonAmount α] : VenueRequest α → String
  | .send r => r.text
  | v => v.id

end VenueRequest

end VenueGateway
