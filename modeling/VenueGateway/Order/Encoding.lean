import VenueGateway.Json.Lenient
import VenueGateway.Json.Writer
import VenueGateway.Record.Encoding

namespace VenueGateway

/-- Amounts that have a JSON form. -/
class JsonAmount (α : Type) where
  toJson : α → Json

instance : JsonAmount Float := ⟨.ofFloat⟩

/-- An exact fraction is written as text. -/
instance : JsonAmount Rat := ⟨fun q => .string (Text.ofInt q.num ++ "/" ++ Text.ofNat q.den)⟩

namespace OrderRequest

variable {α : Type} [JsonAmount α]

def toJson (r : OrderRequest α) : Json :=
  .object [("cl_ord_id", r.id), ("venue", r.venue.name), ("symbol", r.symbol),
    ("side", r.side.name), ("order_type", r.type.name), ("quantity", JsonAmount.toJson r.quantity),
    ("price", JsonAmount.toJson r.price)]

def text (r : OrderRequest α) : String := r.toJson.text

end OrderRequest

namespace OrderRequest

open Json

/-- Fields by name may give amounts as the names of numbers that JSON has not. -/
def amountOfJson? (named : Bool) : Json → Option Float
  | .string s => if named then some ((namedFloat? (.string s)).getD 0) else none
  | j => j.float?

def ofJson? (j : Json) : Option (OrderRequest Float) := do
  let f ← j.record? ["cl_ord_id", "venue", "symbol", "side", "order_type", "quantity", "price"]
  let id ← f.required "cl_ord_id" string?
  let venue ← f.required "venue" Venue.ofJson?
  let symbol ← f.required "symbol" string?
  let side ← f.required "side" Side.ofJson?
  let type ← f.required "order_type" fun j => j.constant?.bind OrderType.ofName?
  let quantity ← f.required "quantity" (amountOfJson? j.isObject)
  let price ← f.required "price" (amountOfJson? j.isObject)
  pure ⟨id, venue, symbol, side, type, quantity, price⟩

end OrderRequest

def Transition.toJson : Transition → Json
  | .applied a b => .object [("applied", .ofTexts [a.name, b.name])]
  | .ignored s k => .object [("ignored", .ofTexts [s.name, k.name])]

def OrderEntry.toJson (e : OrderEntry Float) : Json :=
  let o := e.order
  .object [("cl_ord_id", o.id), ("venue_order_id", .ofText? o.venueId), ("venue", o.venue.name),
    ("symbol", o.symbol), ("side", o.side.name), ("order_type", o.type.name),
    ("quantity", .ofNamedFloat o.quantity), ("price", .ofNamedFloat o.price),
    ("state", e.state.name), ("filled_qty", .ofNamedFloat e.filled),
    ("avg_fill_price", .ofNamedFloat e.average), ("retry_count", .ofNat e.retries),
    ("created_at_us", .ofInt o.createdAt), ("updated_at_us", .ofInt o.updatedAt),
    ("last_update_us", .ofInt e.updatedAt), ("reason", .ofText? e.reason)]

end VenueGateway
