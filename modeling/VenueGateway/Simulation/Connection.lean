import VenueGateway.Simulation.World

namespace VenueGateway.Simulation

def brokenPipe : String := "io error: broken pipe"

/-- Writes a frame to the peer; false when the peer is gone. -/
def write (f : Frame) : Sim Bool := do
  let w ← get
  match w.session with
  | none => pure false
  | some run =>
    match run.phase with
    | .serving peer _ _ =>
      if w.transport.isThere peer then
        if w.transport.readsFrames peer then
          set { w with session := some { run with frames := run.frames ++ [(peer, f)] } }
        observe [run.session.sent f]
        pure true
      else pure false
    | _ => pure false

/-- Does what a session puts out; false when a write failed. A close may fail to be written. -/
def perform : List SessionOutput → Sim Bool
  | [] => pure true
  | .notify n :: rest => do
    updateRun fun run => { run with events := run.events ++ [run.session.event n] }
    perform rest
  | .observe o :: rest => do
    observe [o]
    perform rest
  | .send f :: rest => do
    let written ← write f
    if written || f.opcode == .close then perform rest else pure false

def writeAll : List Frame → Sim Bool
  | [] => pure true
  | f :: fs => do
    if ← write f then writeAll fs else pure false

/-- The worker goes on to another phase; the timers of the last one are no longer wanted. -/
def enterPhase (phase : WorkerPhase) : Sim Unit :=
  updateRun fun run => { run with phase, stamp := run.stamp + 1 }

def currentStamp : Sim Nat := do
  let w ← get
  pure ((w.session.map (·.stamp)).getD 0)

def hangUp : Sim Unit := do
  let w ← get
  match w.phase with
  | .upgrading peer _ | .serving peer _ _ =>
    set { w with transport := w.transport.hangUp peer }
  | _ => pure ()

def proceed (next : WorkerNext) : Sim Unit := do
  match next with
  | .finish => enterPhase .idle
  | .wait millis =>
    enterPhase .resting
    setTimer millis (.worker (← currentStamp))

/-- The connection is over. -/
def endConnection (reason : String) : Sim Unit := do
  hangUp
  let w ← get
  match w.session with
  | none => pure ()
  | some run =>
    let (next, session, worker, out) := run.session.faulted run.worker 0 reason
    updateRun fun run => { run with session, worker }
    discard (perform out)
    proceed next

/-- The attempt to connect is over. -/
def endAttempt (e : SessionError) : Sim Unit := do
  hangUp
  let w ← get
  match w.session with
  | none => pure ()
  | some run =>
    let error := run.session.connectError e
    let (next, session, worker, out) := run.session.attemptFailed run.worker 0 error
    updateRun fun run =>
      { run with session, worker, answer := run.answer.or (some (.error error)) }
    discard (perform out)
    proceed next

/-- Sends all texts that wait in the queue; there are no more rounds than texts. -/
def drainQueue : Nat → Sim Unit
  | 0 => pure ()
  | rounds + 1 => do
    let w ← get
    match w.session with
    | none => pure ()
    | some run =>
      match run.session.dequeue? with
      | none => pure ()
      | some (text, session) =>
        updateRun fun run => { run with session }
        if ← write (.text text) then drainQueue rounds
        else endConnection ("write failed: " ++ brokenPipe)

def drain : Sim Unit := do
  let w ← get
  drainQueue ((w.session.bind (·.session.queue)).elim 0 List.length)

/-- Bytes from the peer, and perhaps the end of its stream, on a connection that is up. -/
def serve (bytes : Bytes) (ended : Bool) : Sim Unit := do
  let clock ← readClock
  let w ← get
  match w.session with
  | none => pure ()
  | some run =>
    match run.phase with
    | .serving peer inbox monitor =>
      let (r, inbox) := run.session.receive inbox clock.epoch bytes
      updateRun fun run => { run with session := r.session, phase := .serving peer inbox monitor }
      if !(← perform r.outputs) then endConnection ("write failed: " ++ brokenPipe)
      else
        match r.fault with
        | some reason => endConnection reason
        | none => if ended then endConnection (Session.endOfStream inbox)
    | _ => pure ()

/-- The frames that open a connection; false when one could not be written. -/
def openConnection (s : Session) : Sim Bool := do
  let (login, s) := s.openQueue.login
  updateSession fun _ => s
  if !(← writeAll (login.toList.map Frame.text)) then pure false
  else
    let (texts, s) := s.replay
    updateSession fun _ => s
    writeAll (texts.map Frame.text)

/-- The worker stops without a word: the session still counts as connected, but can send nothing. -/
def collapse : Sim Unit := do
  hangUp
  updateSession Session.closeQueue
  enterPhase .idle

/-- The keepalive begins, and so do the renewals of the login, which need a period. -/
def startTimers (config : SessionConfig Float) (monitor : HeartbeatMonitor) : Sim Unit := do
  let stamp ← currentStamp
  match config.refreshInterval with
  | some period =>
    if period.ticks = 0 then collapse
    else
      setTimer period.ticks (.refresh stamp)
      setTimer monitor.period (.heartbeat stamp)
  | none => setTimer monitor.period (.heartbeat stamp)

/-- The upgrade is done: the session is connected and the keepalive begins. -/
def establish (peer : Nat) : Sim Unit := do
  let w ← get
  match w.session with
  | none => pure ()
  | some run =>
    let (session, worker, out) := run.session.established run.worker
    let config := session.config
    let monitor := HeartbeatMonitor.startingAt config.pingInterval config.pongTimeout w.now
    updateRun fun run => { run with session, worker, answer := run.answer.or (some (.ok ())) }
    enterPhase (.serving peer { assembler := { maxSize := config.maxFrame } } monitor)
    discard (perform out)
    if !(← openConnection session) then
      endConnection ("post-connect send failed: " ++ brokenPipe)
    else
      updateSession fun s => { s with heartbeat := {} }
      startTimers config monitor

/-- Bytes from a peer, and perhaps the end of its stream. -/
def deliver (peer : Nat) (bytes : Bytes) (ended : Bool) : Sim Unit := do
  let w ← get
  match w.phase with
  | .serving current _ _ => if current = peer then serve bytes ended
  | .upgrading current reader =>
    if current = peer then
      match reader.feed bytes with
      | .more reader =>
        if ended then endAttempt Handshake.HeadError.closed.toSessionError
        else updateRun fun run => { run with phase := .upgrading peer reader }
      | .done (.error e) _ => endAttempt e.toSessionError
      | .done (.ok head) rest =>
        match Handshake.checkResponse head w.key with
        | .error e => endAttempt e
        | .ok _ =>
          establish peer
          serve rest ended
  | _ => pure ()

/-- Hands the upgrade request to the peer: its answer, and whether it stays. -/
def requestUpgrade (peer : Nat) (isOpen : Bool) (request : String) : Sim (Bytes × Bool) := do
  let w ← get
  let a := w.transport.accept peer isOpen request
  set { w with transport := a.transport }
  updateRun fun run => { run with frames := run.frames ++ a.frames.map fun f => (peer, f) }
  pure (a.answer, a.stays)

/-- Waits for the peer's answer to the upgrade request, for a time; the peer reads it even if that
time is none. -/
def awaitUpgrade (peer : Nat) (limit : Duration) (request : String) : Sim Unit := do
  enterPhase (.upgrading peer {})
  if limit.ticks = 0 then
    endAttempt (.timeout "connect" limit)
    discard (requestUpgrade peer false request)
  else
    setTimer limit.ticks (.worker (← currentStamp))
    let (answer, stays) ← requestUpgrade peer true request
    deliver peer answer (!stays)

def attempt : Sim Unit := do
  let w ← get
  match w.session with
  | none => pure ()
  | some run =>
    let (session, out) := run.session.beginAttempt
    let (result, transport) := w.transport.connect run.endpoint.text
    set { w with session := some { run with session }, transport }
    discard (perform out)
    match result with
    | .error e => endAttempt e
    | .ok peer =>
      let headers := session.dialect.handshakeHeaders session.credentials session.channel
      awaitUpgrade peer session.config.connectTimeout
        (Handshake.request run.endpoint w.key headers)

/-- The timer of the worker: an upgrade took too long, or the delay before an attempt is over. -/
def wakeWorker (stamp : Nat) : Sim Unit := do
  let w ← get
  match w.session with
  | none => pure ()
  | some run =>
    if run.stamp = stamp then
      match run.phase with
      | .upgrading .. => endAttempt (.timeout "connect" run.session.config.connectTimeout)
      | .resting => attempt
      | _ => pure ()

def sendPing (elapsed : Nat) : Sim Unit := do
  let w ← get
  match w.session with
  | none => pure ()
  | some run =>
    let (f, session) := run.session.ping elapsed
    updateRun fun run => { run with session }
    if !(← write f) then endConnection ("write failed: " ++ brokenPipe)

def checkHeartbeat (stamp : Nat) : Sim Unit := do
  let clock ← readClock
  let w ← get
  match w.session with
  | none => pure ()
  | some run =>
    match run.phase with
    | .serving peer inbox monitor =>
      if run.stamp = stamp then
        let (signal, monitor) := monitor.check run.session.heartbeat w.now clock.elapsed
        updateRun fun run => { run with phase := .serving peer inbox monitor }
        setTimer monitor.period (.heartbeat stamp)
        match signal with
        | some .timeout => endConnection "keepalive timeout"
        | some .ping => sendPing clock.elapsed
        | none => pure ()
    | _ => pure ()

/-- The next outcome of a script. -/
def takeOutcome : Script → Except GatewayError Unit × Script
  | [] => (.ok (), [])
  | outcome :: script => (outcome, script)

def endRefresh (job : Nat) (result : Except GatewayError Unit) : Sim Unit := do
  endJob job
  let w ← get
  match w.session with
  | none => pure ()
  | some run =>
    observe [.refresh run.session.venue.name result.isOk]
    updateRun fun run => { run with refreshJob := none }

/-- Keeps what a step of a renewal has come to. -/
def keepRefresh (job : Nat) (registry : Registry Float) (call : GuardedCall Float)
    (seen : List Observation) : Sim Unit := do
  setRegistry registry
  observe seen
  setJob job (.refresh call)

def settleRefresh (job : Nat) : NextStep Unit → Sim Unit
  | .wait millis => setTimer millis (.job job)
  | .done result => endRefresh job result
  | .invoke => pure ()

def stepRefresh (job : Nat) (call : GuardedCall Float) : Sim Unit := do
  let clock ← readClock
  let w ← get
  let (next, registry, call, seen) := w.coordinator.registry.startAttempt call clock 0
  keepRefresh job registry call seen
  match next with
  | .invoke =>
    let (outcome, script) := takeOutcome ((w.session.bind (·.refresher)).getD [])
    updateRun fun run => { run with refresher := some script }
    record .refresh
    let (next, registry, call, seen) := registry.endAttempt call clock 0 outcome
    keepRefresh job registry call seen
    settleRefresh job next
  | next => settleRefresh job next

/-- Renews what the session runs on, unless a renewal is under way. -/
def startRefresh : Sim Unit := do
  let w ← get
  match w.session with
  | none => pure ()
  | some run =>
    if run.refresher.isSome && run.refreshJob.isNone then
      let service := run.session.venue.name ++ ".session"
      let call := w.coordinator.registry.begin service "session_refresh" none
      let job ← addJob (.refresh call)
      updateRun fun run => { run with refreshJob := some job }
      stepRefresh job call

def refreshDue (stamp : Nat) : Sim Unit := do
  let w ← get
  match w.session with
  | none => pure ()
  | some run =>
    if run.stamp = stamp then
      let (f, session) := run.session.refresh
      updateRun fun run => { run with session }
      if !(← writeAll f.toList) then endConnection ("write failed: " ++ brokenPipe)
      else
        startRefresh
        match session.config.refreshInterval with
        | some period => setTimer period.ticks (.refresh stamp)
        | none => pure ()

/-- Stops the worker, with a farewell if it is connected, and any renewal with it. -/
def stopWorker : Sim Unit := do
  let w ← get
  match w.session with
  | none => pure ()
  | some run =>
    match run.phase with
    | .serving .. => discard (write Session.farewell)
    | _ => pure ()
    hangUp
    match run.refreshJob with
    | some job => endJob job
    | none => pure ()
    updateRun fun run => { run with session := run.session.closeQueue, refreshJob := none }
    enterPhase .idle

end VenueGateway.Simulation
