import VenueGateway.Coordinator.Basic
import VenueGateway.Order.Instruction

namespace VenueGateway

/-- How far an instruction has come. -/
inductive InstructionPhase (α : Type) where
  | checking (i : Instruction α)
  | limiting (v : VenueRequest α)
  | recording (r : OrderRequest α)
  | attempting (v : VenueRequest α) (call : GuardedCall α)
  | calling (v : VenueRequest α) (call : GuardedCall α)
  | waiting (v : VenueRequest α) (call : GuardedCall α) (millis : Nat)
  | rejecting (r : OrderRequest α) (e : GatewayError)
  | finished (result : Except GatewayError Unit)

namespace OrderRequest

variable {α : Type} [Amount α]

/-- The event that ends an order which could not be sent. -/
def rejection (r : OrderRequest α) (e : GatewayError) (now : Int) : OrderEvent α :=
  { OrderEvent.bare r.venue r.id r.symbol .reject now with
    side := some r.side
    orderQuantity := some r.quantity
    orderPrice := some r.price
    reason := some e.text }

end OrderRequest

namespace Coordinator

variable {α : Type} [Factor α] [JsonAmount α]

/-- What an instruction asks of the venue, or why it is refused here. -/
def check (c : Coordinator α) : Instruction α → Except GatewayError (VenueRequest α)
  | .send r => do
    r.check.mapError OrderError.toGatewayError
    c.checkVenue r.venue
    if c.table.contains r.id then .error (OrderError.duplicate r.id).toGatewayError
    else .ok (.send r)
  | .cancel id => do
    let o ← (c.table.live id).mapError OrderError.toGatewayError
    c.checkVenue o.venue
    .ok (.cancel o)
  | .modify id quantity price => do
    (checkQuantity quantity).mapError OrderError.toGatewayError
    let o ← (c.table.live id).mapError OrderError.toGatewayError
    match price with
    | some p => (checkPrice o.type p).mapError OrderError.toGatewayError
    | none => .ok ()
    c.checkVenue o.venue
    .ok (.modify o quantity price)

def begin (c : Coordinator α) (v : VenueRequest α) : InstructionPhase α :=
  .attempting v (c.registry.begin v.service v.operation (some v.payload))

/-- The call is over: its retries are counted, and an order that was not sent is to be rejected. -/
def conclude (c : Coordinator α) (v : VenueRequest α) (call : GuardedCall α)
    (result : Except GatewayError Unit) :
    InstructionPhase α × Coordinator α × List (Emission α) :=
  let c := { c with table := c.table.addRetries v.id (call.attempts - 1) }
  let asked : Emission α :=
    .observe (.orderRequest v.venue.name v.operation (if result.isOk then "ok" else "error"))
  match v, result with
  | .send r, .error e => (.rejecting r e, c, [asked])
  | _, _ => (.finished result, c, [asked])

def afterAttempt (c : Coordinator α) (v : VenueRequest α)
    (outcome : NextStep Unit × Registry α × GuardedCall α × List Observation) :
    InstructionPhase α × Coordinator α × List (Emission α) :=
  let (next, registry, call, seen) := outcome
  let c := { c with registry }
  let seen := seen.map Emission.observe
  match next with
  | .invoke => (.calling v call, c, seen)
  | .wait millis => (.waiting v call millis, c, seen)
  | .done result =>
    let (phase, c, out) := c.conclude v call result
    (phase, c, seen ++ out)

/-- The next step of an instruction; one that calls, waits or is finished takes none by itself. -/
def step (c : Coordinator α) (clock : Clock) (noise : α) :
    InstructionPhase α → InstructionPhase α × Coordinator α × List (Emission α)
  | .checking i =>
    match c.check i with
    | .ok v => (.limiting v, c, [])
    | .error e => (.finished (.error e), c, [])
  | .limiting v =>
    let (allowed, registry, seen) := c.registry.checkRate v.service clock.elapsed
    let c := { c with registry }
    let phase :=
      match allowed, v with
      | .error e, _ => .finished (.error e)
      | .ok _, .send r => .recording r
      | .ok _, v => c.begin v
    (phase, c, seen.map .observe)
  | .recording r =>
    match c.table.insertNew? (r.toOrder clock.epoch) with
    | none => (.finished (.error (OrderError.duplicate r.id).toGatewayError), c, [])
    | some table =>
      let c := { c with table }
      (c.begin (.send r), c, [c.openGauge r.venue])
  | .attempting v call =>
    c.afterAttempt v (c.registry.startAttempt call clock noise)
  | .rejecting r e =>
    let (_, c, out) := c.receive (r.rejection e clock.epoch) clock.epoch
    (.finished (.error e), c, out)
  | phase => (phase, c, [])

/-- The venue's answer to the call. -/
def answer (c : Coordinator α) (clock : Clock) (noise : α) (outcome : Except GatewayError Unit) :
    InstructionPhase α → InstructionPhase α × Coordinator α × List (Emission α)
  | .calling v call => c.afterAttempt v (c.registry.endAttempt call clock noise outcome)
  | phase => (phase, c, [])

end Coordinator

namespace InstructionPhase

variable {α : Type}

/-- The delay before the next attempt is over. -/
def resume : InstructionPhase α → InstructionPhase α
  | .waiting v call _ => .attempting v call
  | phase => phase

end InstructionPhase

end VenueGateway
