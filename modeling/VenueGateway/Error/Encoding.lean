import VenueGateway.Error
import VenueGateway.Json.Fields
import VenueGateway.Json.Lenient

namespace VenueGateway

namespace GatewayError

def toJson (e : GatewayError) : Json :=
  .object [("error", e.kind.name), ("message", e.message), ("context", .ofPairs e.context)]

/-- A kind that nobody knows is taken as such. -/
def ofJson (j : Json) : GatewayError :=
  ⟨((j.get "error").constant?.bind ErrorKind.ofName?).getD .unknown, j.textAt "message",
    j.pairsAt "context"⟩

/-- An outcome is a failure if it has an error, whatever that is. -/
def outcomeOfJson (j : Json) : Except GatewayError Unit :=
  if (j.field? "error").isSome then .error (ofJson j) else .ok ()

/-- A success is written as a word. -/
def outcomeToJson : Except GatewayError Unit → Json
  | .ok _ => "ok"
  | .error e => e.toJson

end GatewayError

end VenueGateway
