import VenueGateway.Record.Encoding

namespace VenueGateway

structure BusMessage where
  topic : String
  payload : String
deriving DecidableEq, Repr

inductive PublishError where
  | connection (reason : String)
  | failed (reason : String)
deriving DecidableEq, Repr

def PublishError.message : PublishError → String
  | .connection reason => "Event publish connection error: " ++ reason
  | .failed reason => "Event publish failed: " ++ reason

def Record.busMessage (r : Record Float) : BusMessage := ⟨r.topic, r.text⟩

/-- What the bus takes of a batch, and whether it took it all. -/
def publish (receiverGone : Bool) (rs : List (Record Float)) :
    List BusMessage × Except PublishError Unit :=
  if receiverGone && !rs.isEmpty then ([], .error (.connection "bus receiver closed"))
  else (rs.map Record.busMessage, .ok ())

end VenueGateway
