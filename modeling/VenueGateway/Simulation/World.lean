import VenueGateway.Coordinator.Instruction
import VenueGateway.Coordinator.Reconciliation
import VenueGateway.Session.Inbound
import VenueGateway.Session.Worker
import VenueGateway.Simulation.Transport

namespace VenueGateway.Simulation

/-- What a timer wakes. The stamp of a worker's timer tells whether it is still wanted. -/
inductive Alarm where
  | caller
  | job (id : Nat)
  | worker (stamp : Nat)
  | heartbeat (stamp : Nat)
  | refresh (stamp : Nat)
deriving DecidableEq, Repr

structure Timer where
  due : Nat
  /-- Timers are numbered as they are set. -/
  number : Nat
  alarm : Alarm
deriving DecidableEq, Repr

/-- At the same time the caller comes first, and the others in the order in which they were set. -/
def Timer.precedes (a b : Timer) : Bool :=
  a.due < b.due || (a.due = b.due && (a.alarm = .caller || (b.alarm ≠ .caller && a.number < b.number)))

/-- What happened at a venue. -/
inductive VenueCall where
  | send (r : OrderRequest Float)
  | cancel (id : String)
  | modify (id : String) (quantity : Float) (price : Option Float)
  | rest (q : RestQuery)
  | refresh

/-- A script: outcomes in order, and success after the last. -/
abbrev Script := List (Except GatewayError Unit)

/-- How orders get to a venue: as a script says, or as the venue's dialect says. -/
inductive OrderEntrance where
  | scripted (script : Script)
  | spoken (overSession byCalls : Bool) (pending : PendingOrders) (nextNumber : Nat)

structure Link where
  venue : Venue
  dialect : Dialect
  entrance : OrderEntrance
  /-- The answers to calls by their paths; the last one of a path is given again and again. -/
  answers : List (String × List (Except GatewayError Json))

inductive WorkerPhase where
  | idle
  | upgrading (peer : Nat) (reader : Handshake.HeadReader)
  | serving (peer : Nat) (inbox : Inbox) (monitor : HeartbeatMonitor)
  | resting

structure SessionRun where
  session : Session
  worker : Worker
  endpoint : Endpoint := ⟨false, "", 0, ""⟩
  phase : WorkerPhase := .idle
  stamp : Nat := 0
  /-- What the caller who asked to connect is told. -/
  answer : Option (Except GatewayError Unit) := none
  refresher : Option Script := none
  refreshJob : Option Nat := none
  events : List SessionEvent := []
  frames : List (Nat × Frame) := []

/-- What runs beside the caller. -/
inductive Job where
  | resync (r : Reconciliation Float)
  | refresh (call : GuardedCall Float)

/-- The loop that hands session events to the coordinator. -/
inductive PumpState where
  | absent
  | stopped
  | running
deriving DecidableEq, Repr

/-- A gateway in a world of its own: venues that follow a script, connections in memory, and a clock
that jumps from one timer to the next. -/
structure World where
  /-- Milliseconds since the beginning. -/
  now : Nat := 0
  /-- How often the clock has been read; it never shows the same time twice. -/
  readings : Nat := 0
  epoch : Int
  key : String
  timers : List Timer := []
  nextTimer : Nat := 0
  isCallerAwake : Bool := true
  coordinator : Coordinator Float
  links : List Link := []
  session : Option SessionRun := none
  transport : Transport := {}
  pump : PumpState := .absent
  jobs : List (Nat × Job) := []
  nextJob : Nat := 0
  calls : List VenueCall := []
  published : List (Record Float) := []
  announced : List (Record Float) := []
  /-- The last one first. -/
  observations : List Observation := []

def World.phase (w : World) : WorkerPhase :=
  match w.session with
  | some run => run.phase
  | none => .idle

abbrev Sim := StateM World

def readClock : Sim Clock := do
  modify fun w => { w with readings := w.readings + 1 }
  let w ← get
  pure ⟨w.readings, w.epoch + w.readings⟩

def setTimer (delay : Nat) (alarm : Alarm) : Sim Unit :=
  modify fun w =>
    { w with
      timers := ⟨w.now + delay, w.nextTimer, alarm⟩ :: w.timers
      nextTimer := w.nextTimer + 1 }

/-- The timer that is due first, and the others. -/
def firstTimer? : List Timer → Option (Timer × List Timer)
  | [] => none
  | t :: ts =>
    match firstTimer? ts with
    | none => some (t, [])
    | some (first, rest) => if t.precedes first then some (t, ts) else some (first, t :: rest)

def observe (os : List Observation) : Sim Unit :=
  modify fun w => { w with observations := os.reverse ++ w.observations }

def record (call : VenueCall) : Sim Unit := modify fun w => { w with calls := w.calls ++ [call] }

def emit (es : List (Emission Float)) : Sim Unit := do
  modify fun w =>
    { w with
      published := w.published ++ es.filterMap Emission.published?
      announced := w.announced ++ es.filterMap Emission.announced? }
  observe (es.filterMap Emission.observed?)

def setCoordinator (c : Coordinator Float) : Sim Unit := modify fun w => { w with coordinator := c }

def setRegistry (r : Registry Float) : Sim Unit :=
  modify fun w => { w with coordinator := { w.coordinator with registry := r } }

def updateRun (f : SessionRun → SessionRun) : Sim Unit :=
  modify fun w => { w with session := w.session.map f }

def updateSession (f : Session → Session) : Sim Unit :=
  updateRun fun run => { run with session := f run.session }

def setJob (id : Nat) (job : Job) : Sim Unit :=
  modify fun w => { w with jobs := w.jobs.map fun (i, j) => if i = id then (i, job) else (i, j) }

def endJob (id : Nat) : Sim Unit :=
  modify fun w => { w with jobs := w.jobs.filter (·.1 ≠ id) }

def addJob (job : Job) : Sim Nat := do
  let w ← get
  set { w with jobs := w.jobs ++ [(w.nextJob, job)], nextJob := w.nextJob + 1 }
  pure w.nextJob

end VenueGateway.Simulation
