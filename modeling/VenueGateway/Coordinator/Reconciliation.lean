import VenueGateway.Coordinator.Basic
import VenueGateway.Rest.Query

namespace VenueGateway

structure ReconciliationReport where
  venue : Venue
  openOrders : Nat := 0
  positions : Nat := 0
  balances : Nat := 0
  missing : List String := []
  errors : List String := []
deriving DecidableEq, Repr

namespace ReconciliationReport

def mismatches (r : ReconciliationReport) : Nat := r.missing.length

def isSuccess (r : ReconciliationReport) : Bool := r.missing.isEmpty && r.errors.isEmpty

end ReconciliationReport

inductive ReconciliationPhase (α : Type) where
  | attempting (kind : SnapshotKind) (call : GuardedCall α)
  | calling (kind : SnapshotKind) (call : GuardedCall α)
  | waiting (kind : SnapshotKind) (call : GuardedCall α) (millis : Nat)
  | finished

/-- A reconciliation after a gap: the venue's snapshots are fetched one after the other, their
records are taken in like any others, and the orders that the venue does not list are reported. -/
structure Reconciliation (α : Type) where
  report : ReconciliationReport
  /-- The snapshots that come after the one at hand. -/
  rest : List SnapshotKind
  phase : ReconciliationPhase α

/-- The ids of the orders among some records, each of them once. -/
def listedIds {α : Type} (records : List (Record α)) : List String :=
  records.foldl (fun ids r =>
    match r with
    | .order e => if ids.contains e.id then ids else ids ++ [e.id]
    | _ => ids) []

def Record.isOrder {α : Type} : Record α → Bool
  | .order _ => true
  | _ => false

namespace Coordinator

variable {α β : Type} [Factor α]

def beginSnapshot (c : Coordinator α) (venue : Venue) (kind : SnapshotKind) :
    ReconciliationPhase α :=
  .attempting kind (c.registry.begin (venue.name ++ ".rest") kind.name none)

/-- A snapshot that was fetched and read, or why it was not. -/
def takeSnapshot (c : Coordinator α) (kind : SnapshotKind) (now : Int)
    (records : Except GatewayError (List (Record α))) (report : ReconciliationReport) :
    ReconciliationReport × Coordinator α × List (Emission α) :=
  match records with
  | .error e =>
    ({ report with errors := report.errors ++ [kind.name ++ ": " ++ e.text] }, c, [])
  | .ok records =>
    match kind with
    | .openOrders =>
      let ids := listedIds records
      let (c, out) := c.receiveAll now (records.filter Record.isOrder)
      let missing := c.table.unlisted report.venue ids
      ({ report with openOrders := ids.length, missing }, c, out)
    | .positions => ({ report with positions := records.length }, c, records.flatMap passOn)
    | .balances => ({ report with balances := records.length }, c, records.flatMap passOn)

/-- Goes on to the next snapshot, or counts what was found. -/
def nextSnapshot (c : Coordinator α) (report : ReconciliationReport) :
    List SnapshotKind → Reconciliation α × List (Emission α)
  | kind :: rest => (⟨report, rest, c.beginSnapshot report.venue kind⟩, [])
  | [] =>
    (⟨report, [], .finished⟩,
      [.observe (.reconciliation report.venue.name report.mismatches)])

def reconcile (c : Coordinator α) (venue : Venue) : Except GatewayError (Reconciliation α) := do
  c.checkVenue venue
  .ok (c.nextSnapshot { venue } SnapshotKind.all).1

def afterFetch (c : Coordinator α) (clock : Clock)
    (read : SnapshotKind → β → Except GatewayError (List (Record α))) (r : Reconciliation α)
    (kind : SnapshotKind) (outcome : NextStep β × Registry α × GuardedCall α × List Observation) :
    Reconciliation α × Coordinator α × List (Emission α) :=
  let (next, registry, call, seen) := outcome
  let c := { c with registry }
  let seen := seen.map Emission.observe
  match next with
  | .invoke => ({ r with phase := .calling kind call }, c, seen)
  | .wait millis => ({ r with phase := .waiting kind call millis }, c, seen)
  | .done body =>
    let (report, c, out) := c.takeSnapshot kind clock.epoch (body.bind (read kind)) r.report
    let (r, more) := c.nextSnapshot report r.rest
    (r, c, seen ++ out ++ more)

/-- The start of an attempt to fetch; in any other phase nothing happens. -/
def startFetch (c : Coordinator α) (clock : Clock) (noise : α)
    (read : SnapshotKind → β → Except GatewayError (List (Record α))) (r : Reconciliation α) :
    Reconciliation α × Coordinator α × List (Emission α) :=
  match r.phase with
  | .attempting kind call =>
    c.afterFetch clock read r kind (c.registry.startAttempt call clock noise)
  | _ => (r, c, [])

/-- The venue's answer to a call. -/
def endFetch (c : Coordinator α) (clock : Clock) (noise : α)
    (read : SnapshotKind → β → Except GatewayError (List (Record α)))
    (outcome : Except GatewayError β) (r : Reconciliation α) :
    Reconciliation α × Coordinator α × List (Emission α) :=
  match r.phase with
  | .calling kind call =>
    c.afterFetch clock read r kind (c.registry.endAttempt call clock noise outcome)
  | _ => (r, c, [])

end Coordinator

namespace Reconciliation

variable {α : Type}

/-- The delay before the next attempt is over. -/
def resume (r : Reconciliation α) : Reconciliation α :=
  match r.phase with
  | .waiting kind call _ => { r with phase := .attempting kind call }
  | _ => r

end Reconciliation

end VenueGateway
