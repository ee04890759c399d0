import VenueGateway.Json.Fields

namespace VenueGateway

inductive HttpMethod where
  | get
  | post
  | put
  | delete
deriving DecidableEq, Repr

namespace HttpMethod

def all : List HttpMethod := [.get, .post, .put, .delete]

def name : HttpMethod → String
  | .get => "GET"
  | .post => "POST"
  | .put => "PUT"
  | .delete => "DELETE"

def ofName? (s : String) : Option HttpMethod := all.find? (·.name == s)

end HttpMethod

structure RestQuery where
  method : HttpMethod
  path : String
  params : List (String × String) := []
  body : Option Json := none
  signed : Bool := false

/-- What a venue is asked for after a gap, in this order. -/
inductive SnapshotKind where
  | openOrders
  | positions
  | balances
deriving DecidableEq, Repr

namespace SnapshotKind

def all : List SnapshotKind := [.openOrders, .positions, .balances]

def name : SnapshotKind → String
  | .openOrders => "open_orders"
  | .positions => "positions"
  | .balances => "balances"

def ofName? (s : String) : Option SnapshotKind := all.find? (·.name == s)

end SnapshotKind

namespace RestQuery

open Json

def toJson (q : RestQuery) : Json :=
  .object [("method", q.method.name), ("path", q.path),
    ("params", .array (q.params.map fun (k, v) => .array [.string k, .string v])),
    ("body", q.body.getD .null), ("signed", .bool q.signed)]

def ofJson? (j : Json) : Option RestQuery := do
  let f ← j.record? ["method", "path", "params", "body", "signed"]
  let method ← f.required "method" fun j => j.constant?.bind HttpMethod.ofName?
  let path ← f.required "path" string?
  let params ← f.required "params" (list? textPair?)
  let body ← f.optional "body" some
  let signed ← f.required "signed" bool?
  pure ⟨method, path, params, body, signed⟩

end RestQuery

end VenueGateway
