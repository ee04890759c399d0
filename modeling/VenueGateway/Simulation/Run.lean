import VenueGateway.Simulation.Venues

namespace VenueGateway.Simulation

def wakeJob (id : Nat) : Sim Unit := do
  let w ← get
  match w.jobs.find? (·.1 = id) with
  | some (_, .refresh call) => stepRefresh id call
  | some (_, .resync r) => stepResync id r.resume
  | none => pure ()

/-- Time passes only while the caller waits; then timers go off one by one, and each wakes what it
was set for. -/
def fire : Alarm → Sim Unit
  | .caller => modify fun w => { w with isCallerAwake := true }
  | .job id => wakeJob id
  | .worker stamp => wakeWorker stamp
  | .heartbeat stamp => checkHeartbeat stamp
  | .refresh stamp => refreshDue stamp

/-- Lets timers go off until the caller may go on; `rounds` bounds their number. -/
def runUntil (ready : World → Bool) : Nat → Sim Unit
  | 0 => pure ()
  | rounds + 1 => do
    let w ← get
    if ready w then pure ()
    else
      match firstTimer? w.timers with
      | none => pure ()
      | some (t, timers) =>
        set { w with now := max w.now t.due, timers }
        fire t.alarm
        runUntil ready rounds

/-- More timers than go off in so many milliseconds. -/
def timerBound (millis : Nat) : Nat := (millis + 1) * 4096

def sleep (millis : Nat) : Sim Unit :=
  if millis = 0 then pure ()
  else do
    modify fun w => { w with isCallerAwake := false }
    setTimer millis .caller
    runUntil (·.isCallerAwake) (timerBound millis)

def finishInstruction : Nat → InstructionPhase Float → Sim (Except GatewayError Unit)
  | 0, _ => pure (.ok ())
  | rounds + 1, phase => do
    match ← driveInstruction instructionSteps phase with
    | .finished result => pure result
    | .waiting v call millis =>
      sleep millis
      finishInstruction rounds (InstructionPhase.waiting v call millis).resume
    | _ => pure (.ok ())

/-- Gives an instruction to the coordinator and waits for its result. -/
def instruct (i : Instruction Float) : Sim (Except GatewayError Unit) := do
  let w ← get
  finishInstruction (w.coordinator.registry.defaults.retry.maxRetries + 1) (.checking i)

def finishReconciliation : Nat → Reconciliation Float → Sim ReconciliationReport
  | 0, r => pure r.report
  | rounds + 1, r => do
    let r ← driveReconciliation r.report.venue reconciliationSteps r
    match r.phase with
    | .waiting _ _ millis =>
      sleep millis
      finishReconciliation rounds r.resume
    | _ => pure r.report

/-- Reconciles with a venue and waits for the report. -/
def reconcile (venue : Venue) : Sim (Except GatewayError ReconciliationReport) := do
  let w ← get
  match w.coordinator.reconcile venue with
  | .error e => pure (.error e)
  | .ok r =>
    let rounds := SnapshotKind.all.length * (w.coordinator.registry.defaults.retry.maxRetries + 1)
    let report ← finishReconciliation (rounds + 1) r
    pure (.ok report)

def receive (e : OrderEvent Float) : Sim (OrderUpdate Float) := do
  let clock ← readClock
  let w ← get
  let (u, c, out) := w.coordinator.receive e clock.epoch
  setCoordinator c
  emit out
  pure u

def receiveRecord (r : Record Float) : Sim Unit := do
  let clock ← readClock
  let w ← get
  let (c, out) := w.coordinator.receiveRecord r clock.epoch
  setCoordinator c
  emit out

def enterState (state : ConnectionState) : Sim Unit := do
  let w ← get
  match w.session with
  | none => pure ()
  | some run =>
    let (session, out) := run.session.enter state
    updateRun fun run => { run with session }
    discard (perform out)

def isAnswered (w : World) : Bool :=
  match w.session with
  | some run => run.answer.isSome
  | none => true

/-- Connects and waits until the first attempt has come to an end. -/
def connect (url : String) : Sim (Except GatewayError Unit) := do
  let w ← get
  match w.session with
  | none => pure (.ok ())
  | some run =>
    match run.session.checkCredentials, Endpoint.read url with
    | .error e, _ => pure (.error e)
    | .ok _, .error e => pure (.error e.toGatewayError)
    | .ok _, .ok endpoint =>
      if run.session.state.isActive then pure (.ok ())
      else
        stopWorker
        enterState .connecting
        updateRun fun run =>
          { run with endpoint, worker := .ofConfig run.session.config, answer := none }
        attempt
        runUntil isAnswered (timerBound run.session.config.connectTimeout.ticks)
        let w ← get
        pure ((w.session.bind (·.answer)).getD (.ok ()))

def disconnect : Sim Unit := do
  let w ← get
  match w.session with
  | none => pure ()
  | some run =>
    if run.session.state != .disconnected then enterState .disconnecting
    stopWorker
    enterState .disconnected

def sendAll : List String → Sim Unit
  | [] => pure ()
  | text :: texts => do
    discard (sendText text)
    sendAll texts

/-- Adds or removes a subscription; one that is lost on the way is made up for by a replay. -/
def changeSubscription (name : String) (action : SubscriptionAction) :
    Sim (Except GatewayError Unit) := do
  let name := Text.trim name
  if name.isEmpty then
    pure (.error ⟨.validation, "subscription channel must not be empty", []⟩)
  else
    let w ← get
    match w.session with
    | none => pure (.ok ())
    | some run =>
      let (changed, session) := run.session.changeSet name action
      updateRun fun run => { run with session }
      if changed && session.isConnected then
        let (texts, session) := session.changeTexts name action
        updateRun fun run => { run with session }
        sendAll texts
      pure (.ok ())

def takeNumber : Sim (Option Nat) := do
  let w ← get
  match w.session with
  | none => pure none
  | some run =>
    let (number, session) := run.session.takeNumber
    updateRun fun run => { run with session }
    pure (some number)

/-- Bytes from the newest peer: whether they can be written, none if there is no peer. -/
def peerWrite (bytes : Bytes) : Sim (Option Bool) := do
  let w ← get
  match w.transport.newest? with
  | none => pure none
  | some peer =>
    if peer.isOpen then
      deliver peer.id bytes false
    pure (some peer.isOpen)

/-- A frame from the newest peer, which can be written if that peer has taken part in an upgrade. -/
def peerWriteFrame (f : Frame) : Sim (Option Bool) := do
  let w ← get
  match w.transport.newest? with
  | some peer => if peer.sendsFrames then peerWrite (f.encode none) else pure (some false)
  | none => pure none

/-- The newest peer goes away; false if there is none. -/
def peerDrop : Sim Bool := do
  let w ← get
  match w.transport.newest? with
  | none => pure false
  | some peer =>
    set { w with transport := w.transport.dropNewest }
    if peer.isOpen then deliver peer.id [] true
    pure true

/-- What has happened since the last look. -/
structure Sight where
  events : List SessionEvent
  /-- Each frame with its peer's place among the peers. -/
  frames : List (Nat × Frame)
  upgrades : List UpgradeLog
  calls : List VenueCall
  published : List (Record Float)
  announced : List (Record Float)

def takeEvents : Sim (List SessionEvent) := do
  let w ← get
  updateRun fun run => { run with events := [] }
  pure ((w.session.map (·.events)).getD [])

def pumpAll : List SessionEvent → Sim Unit
  | [] => pure ()
  | e :: es => do
    discard (pumpEvent e)
    pumpAll es

/-- The frames that a peer has read. -/
def framesOf (frames : List (Nat × Frame)) (place : Nat) (peer : Peer) : List (Nat × Frame) :=
  (frames.filter (·.1 = peer.id)).map fun (_, f) => (place, f)

/-- Lets everything run for a moment, once more if the coordinator is handed events, and looks. -/
def look : Sim Sight := do
  sleep 1
  let events ← takeEvents
  let w ← get
  if w.pump ≠ .absent && !events.isEmpty then
    pumpAll events
    sleep 1
  let w ← get
  let frames := (w.session.map (·.frames)).getD []
  let places := w.transport.peers.zipIdx.flatMap fun (peer, i) => framesOf frames i peer
  updateRun fun run => { run with frames := [] }
  modify fun w =>
    { w with
      calls := [], published := [], announced := []
      transport := { w.transport with upgrades := [] } }
  pure ⟨events, places, w.transport.upgrades, w.calls, w.published, w.announced⟩

end VenueGateway.Simulation
