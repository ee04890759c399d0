import VenueGateway.Simulation.Connection

namespace VenueGateway.Simulation

/-- Puts a text into the queue of the session's connection; a full queue is sent off first. -/
def enqueue (text : String) : Nat → Sim (Except GatewayError Unit)
  | 0 => pure (.error SessionError.notConnected.toGatewayError)
  | rounds + 1 => do
    let w ← get
    match w.session with
    | none => pure (.error SessionError.notConnected.toGatewayError)
    | some run =>
      match (run.session.openQueue?).map fun connection => run.session.enqueue connection text with
      | some (.queued session) =>
        updateRun fun run => { run with session }
        drain
        pure (.ok ())
      | some .full =>
        drain
        enqueue text rounds
      | _ => pure (.error SessionError.notConnected.toGatewayError)

def sendText (text : String) : Sim (Except GatewayError Unit) := enqueue text 2

def updateLink (link : Link) : Sim Unit :=
  modify fun w =>
    { w with links := w.links.map fun l => if l.venue = link.venue then link else l }

/-- The answer to the next call of a path; a path without any answers with an empty object. -/
def takeAnswer (path : String) :
    List (String × List (Except GatewayError Json)) →
      Except GatewayError Json × List (String × List (Except GatewayError Json))
  | [] => (.ok (.object []), [])
  | (p, answers) :: rest =>
    if p = path then
      match answers with
      | [] => (.ok (.object []), (p, answers) :: rest)
      | [last] => (last, (p, answers) :: rest)
      | first :: others => (first, (p, others) :: rest)
    else
      let (answer, rest) := takeAnswer path rest
      (answer, (p, answers) :: rest)

def fetch (link : Link) (q : RestQuery) : Sim (Except GatewayError Json) := do
  record (.rest q)
  let (answer, answers) := takeAnswer q.path link.answers
  updateLink { link with answers }
  pure answer

/-- What goes out for a request; over a session it takes the session's next number. -/
def prepare (link : Link) (overSession byCalls : Bool) (pending : PendingOrders) (number : Nat)
    (v : VenueRequest Float) : Sim (Link × Except GatewayError OutboundRequest) := do
  let w ← get
  match w.session.filter fun _ => overSession with
  | some run =>
    let (number, session) := run.session.takeNumber
    match session.dialect.outbound session.pending number v with
    | .ok (out, pending) =>
      updateSession fun _ => { session with pending }
      pure (link, .ok out)
    | .error e =>
      updateSession fun _ => session
      pure (link, .error e)
  | none =>
    let (pending, out) :=
      match link.dialect.outbound pending number v with
      | .ok (out, pending) => (pending, .ok out)
      | .error e => (pending, .error e)
    let link := { link with entrance := .spoken overSession byCalls pending (number + 1) }
    updateLink link
    pure (link, out)

def scriptedCall : VenueRequest Float → VenueCall
  | .send r => .send r
  | .cancel o => .cancel o.id
  | .modify o quantity price => .modify o.id quantity price

def callLink (link : Link) (v : VenueRequest Float) : Sim (Except GatewayError Unit) := do
  match link.entrance with
  | .scripted script =>
    record (scriptedCall v)
    let (outcome, script) := takeOutcome script
    updateLink { link with entrance := .scripted script }
    pure outcome
  | .spoken overSession byCalls pending number =>
    let (link, prepared) ← prepare link overSession byCalls pending number v
    let w ← get
    let hasSession := overSession && w.session.isSome
    match prepared with
    | .error e => pure (.error e)
    | .ok out =>
      match link.dialect.checkRoute hasSession byCalls out, out with
      | .error e, _ => pure (.error e)
      | .ok _, .frame text => sendText text
      | .ok _, .call q => do
        let answer ← fetch link q
        pure (answer.map fun _ => ())

def callVenue (v : VenueRequest Float) : Sim (Except GatewayError Unit) := do
  let w ← get
  match w.links.find? (·.venue == v.venue) with
  | some link => callLink link v
  | none => pure (.ok ())

/-- Goes on with an instruction until it waits or is finished. -/
def driveInstruction : Nat → InstructionPhase Float → Sim (InstructionPhase Float)
  | 0, phase => pure phase
  | rounds + 1, phase => do
    match phase with
    | .waiting .. | .finished _ => pure phase
    | .calling v _ =>
      let outcome ← callVenue v
      let clock ← readClock
      let w ← get
      let (phase, c, out) := w.coordinator.answer clock 0 outcome phase
      setCoordinator c
      emit out
      driveInstruction rounds phase
    | phase =>
      let clock ← readClock
      let w ← get
      let (phase, c, out) := w.coordinator.step clock 0 phase
      setCoordinator c
      emit out
      driveInstruction rounds phase

/-- An instruction waits or is finished after at most this many steps. -/
def instructionSteps : Nat := 8

def readSnapshot (link : Link) (now : Int) (kind : SnapshotKind) (body : Json) :
    Except GatewayError (List (Record Float)) :=
  (link.dialect.snapshot now kind body).mapError FeedError.toGatewayError

/-- Goes on with a reconciliation until it waits or is finished. -/
def driveReconciliation (venue : Venue) : Nat → Reconciliation Float → Sim (Reconciliation Float)
  | 0, r => pure r
  | rounds + 1, r => do
    let w ← get
    match w.links.find? (·.venue == venue) with
    | none => pure r
    | some link =>
      match r.phase with
      | .waiting .. | .finished => pure r
      | .attempting .. =>
        let clock ← readClock
        let (r, c, out) :=
          w.coordinator.startFetch clock 0 (readSnapshot link clock.epoch) r
        setCoordinator c
        emit out
        driveReconciliation venue rounds r
      | .calling kind _ =>
        let answer ← fetch link (link.dialect.snapshotQuery kind)
        let clock ← readClock
        let w ← get
        let (r, c, out) :=
          w.coordinator.endFetch clock 0 (readSnapshot link clock.epoch) answer r
        setCoordinator c
        emit out
        driveReconciliation venue rounds r

/-- A reconciliation waits or is finished after at most this many steps. -/
def reconciliationSteps : Nat := 8

def stepResync (job : Nat) (r : Reconciliation Float) : Sim Unit := do
  let r ← driveReconciliation r.report.venue reconciliationSteps r
  match r.phase with
  | .waiting _ _ millis =>
    setJob job (.resync r)
    setTimer millis (.job job)
  | _ => endJob job

/-- Reconciles beside the caller; a venue without a link is left alone. -/
def startResync (venue : Venue) : Sim Unit := do
  let w ← get
  match w.coordinator.reconcile venue with
  | .error _ => pure ()
  | .ok r =>
    let job ← addJob (.resync r)
    stepResync job r

/-- What the coordinator makes of a session's event. -/
def handleSessionEvent (e : SessionEvent) : Sim Unit := do
  match e.notice with
  | .record r =>
    let clock ← readClock
    let w ← get
    let (c, out) := w.coordinator.receiveRecord r clock.epoch
    setCoordinator c
    emit out
  | .reconnected _ => startResync e.venue
  | _ => pure ()

/-- Hands an event to the coordinator's loop; false when the loop has ended. -/
def pumpEvent (e : SessionEvent) : Sim Bool := do
  let w ← get
  if w.pump = .running then
    handleSessionEvent e
    pure true
  else pure false

end VenueGateway.Simulation
