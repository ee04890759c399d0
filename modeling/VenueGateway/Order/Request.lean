import VenueGateway.Amount
import VenueGateway.Error
import VenueGateway.Order.State
import VenueGateway.Text.Blank
import VenueGateway.Venue

namespace VenueGateway

inductive Side where
  | buy
  | sell
deriving DecidableEq, Repr

namespace Side

def all : List Side := [.buy, .sell]

def name : Side → String
  | .buy => "BUY"
  | .sell => "SELL"

def lowerName : Side → String
  | .buy => "buy"
  | .sell => "sell"

def ofName? (s : String) : Option Side := all.find? (·.name == s)

def opposite : Side → Side
  | .buy => .sell
  | .sell => .buy

/-- The venues' spellings, in any case. -/
def read (s : String) : Option Side :=
  match s.toLower with
  | "buy" | "bid" | "b" => some .buy
  | "sell" | "ask" | "s" => some .sell
  | _ => none

end Side

inductive OrderType where
  | market
  | limit
  | postOnly
deriving DecidableEq, Repr

namespace OrderType

def all : List OrderType := [.market, .limit, .postOnly]

def name : OrderType → String
  | .market => "MARKET"
  | .limit => "LIMIT"
  | .postOnly => "POST_ONLY"

def ofName? (s : String) : Option OrderType := all.find? (·.name == s)

def needsPrice : OrderType → Bool
  | .market => false
  | .limit | .postOnly => true

/-- The venues' spellings, in any case. -/
def read (s : String) : Option OrderType :=
  match s.toUpper with
  | "MARKET" => some .market
  | "LIMIT" => some .limit
  | "LIMIT_MAKER" | "POST_ONLY" | "GTX" => some .postOnly
  | _ => none

end OrderType

/-- Why an instruction is refused here. -/
inductive OrderError where
  | invalid (field message : String)
  | duplicate (id : String)
  | notFound (id : String)
  | closed (id : String) (state : OrderState)
deriving DecidableEq, Repr

namespace OrderError

def message : OrderError → String
  | .invalid field message => "invalid " ++ field ++ ": " ++ message
  | .duplicate id => "duplicate cl_ord_id " ++ id
  | .notFound id => "order " ++ id ++ " not found"
  | .closed id state => "order " ++ id ++ " is " ++ state.name

def toGatewayError (e : OrderError) : GatewayError :=
  let context :=
    match e with
    | .invalid field _ => ("field", field)
    | .duplicate id | .notFound id | .closed id _ => ("cl_ord_id", id)
  ⟨.validation, e.message, [context]⟩

end OrderError

structure OrderRequest (α : Type) where
  id : String
  venue : Venue
  symbol : String
  side : Side
  type : OrderType
  quantity : α
  price : α
deriving Repr

variable {α : Type} [Amount α]

def checkQuantity (quantity : α) : Except OrderError Unit :=
  if Amount.isFinite quantity && decide (0 < quantity) then .ok ()
  else .error (.invalid "quantity" "must be positive")

def checkPrice (type : OrderType) (price : α) : Except OrderError Unit :=
  if !Amount.isFinite price || decide (price < 0) then
    .error (.invalid "price" "must not be negative")
  else if type.needsPrice && decide (price ≤ 0) then
    .error (.invalid "price" (type.name ++ " orders require a price"))
  else .ok ()

/-- The first fault of a request, if it has one. -/
def OrderRequest.check (r : OrderRequest α) : Except OrderError Unit := do
  if r.id.isEmpty then .error (.invalid "cl_ord_id" "must not be empty")
  if Text.isAllBlank r.symbol then .error (.invalid "symbol" "must not be empty")
  checkQuantity r.quantity
  checkPrice r.type r.price

end VenueGateway
