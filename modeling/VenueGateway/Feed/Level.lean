import VenueGateway.Feed.Field
import VenueGateway.Record.Basic

namespace VenueGateway.Feed

/-- The first two numbers of an array, or the price and size fields of an object. -/
def level? (j : Json) : Option (PriceLevel Float) :=
  match j with
  | .array vs =>
    match vs.filterMap amount? with
    | price :: quantity :: _ => some ⟨price, quantity⟩
    | _ => none
  | .object _ => do
    let price ← amountAt? j ["price", "p"]
    let quantity ← amountAt? j ["size", "qty", "amount", "s"]
    pure ⟨price, quantity⟩
  | _ => none

def level (field : String) (j : Json) : Parsed (PriceLevel Float) :=
  match level? j with
  | some l => .ok l
  | none => .error (.invalid field j.text)

/-- A side that the message does not carry is empty. -/
def levels (j : Json) (field : String) : Parsed (List (PriceLevel Float)) :=
  match j.field? field with
  | none => .ok []
  | some (.array vs) => vs.mapM (level field)
  | some v => .error (.invalid field v.text)

end VenueGateway.Feed
