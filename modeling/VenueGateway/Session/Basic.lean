import VenueGateway.Dialect.Inbound
import VenueGateway.Dialect.Login
import VenueGateway.Metrics
import VenueGateway.Session.Config
import VenueGateway.Session.Heartbeat
import VenueGateway.Session.State
import VenueGateway.WebSocket.Error
import VenueGateway.WebSocket.Message

namespace VenueGateway

/-- What the callers and the worker of a session share. Each function that changes a session is one
atomic step, so that callers and worker may take their steps in any order. -/
structure Session where
  dialect : Dialect
  channel : Channel
  config : SessionConfig Float
  credentials : Credentials := .none
  state : ConnectionState := .disconnected
  /-- The channels that are subscribed to, in ascending order. -/
  subscriptions : List String := []
  /-- The texts that wait to be sent on the current connection. -/
  queue : Option (List String) := none
  /-- How many connections there have been; it tells their queues apart. -/
  connections : Nat := 0
  nextNumber : Nat := 1
  pending : PendingOrders := {}
  heartbeat : Heartbeat := {}

/-- What a session puts out. -/
inductive SessionOutput where
  | send (f : Frame)
  | notify (n : SessionNotice)
  | observe (o : Observation)
deriving Repr

namespace Session

def venue (s : Session) : Venue := s.dialect.venue

def isConnected (s : Session) : Bool := s.state == .connected

def event (s : Session) (n : SessionNotice) : SessionEvent := ⟨s.venue, s.channel, n⟩

/-- Every entry into a state is counted, into the same one too. -/
def enter (s : Session) (state : ConnectionState) : Session × List SessionOutput :=
  ({ s with state },
    [.observe (.sessionState s.venue.name s.channel.name state.code)])

/-- Numbers count requests from one on; none is given out twice. -/
def takeNumber (s : Session) : Nat × Session :=
  (s.nextNumber, { s with nextNumber := s.nextNumber + 1 })

/-- A private session needs something to sign in with. -/
def checkCredentials (s : Session) : Except GatewayError Unit :=
  if s.channel.needsLogin && !s.credentials.isComplete then
    .error ((SessionError.missingCredentials s.venue).toGatewayError.withContext "venue"
      s.venue.name)
  else .ok ()

def openQueue (s : Session) : Session :=
  { s with queue := some [], connections := s.connections + 1 }

def closeQueue (s : Session) : Session := { s with queue := none }

/-- The queue that is open now, by the number of its connection. -/
def openQueue? (s : Session) : Option Nat := s.queue.map fun _ => s.connections

inductive Enqueued where
  | queued (s : Session)
  /-- The caller waits until there is room. -/
  | full
  | gone

/-- Puts a text into the queue of a connection; that of an earlier one is gone. -/
def enqueue (s : Session) (connection : Nat) (text : String) : Enqueued :=
  match s.queue with
  | some texts =>
    if s.connections ≠ connection then .gone
    else if max 1 s.config.queueCapacity ≤ texts.length then .full
    else .queued { s with queue := some (texts ++ [text]) }
  | none => .gone

/-- Takes the text that is to be sent next. -/
def dequeue? (s : Session) : Option (String × Session) :=
  match s.queue with
  | some (text :: texts) => some (text, { s with queue := some texts })
  | _ => none

def insertSorted (name : String) : List String → List String
  | [] => [name]
  | n :: rest =>
    if name < n then name :: n :: rest
    else if name = n then n :: rest
    else n :: insertSorted name rest

/-- The set of channels after a change, and whether it is another one. -/
def changeSet (s : Session) (name : String) (action : SubscriptionAction) : Bool × Session :=
  let present := s.subscriptions.contains name
  match action with
  | .subscribe => (!present, { s with subscriptions := insertSorted name s.subscriptions })
  | .unsubscribe =>
    (present, { s with subscriptions := s.subscriptions.filter (· != name) })

/-- The texts that change a subscription on the current connection. -/
def changeTexts (s : Session) (name : String) (action : SubscriptionAction) :
    List String × Session :=
  let (number, s) := s.takeNumber
  (s.dialect.subscriptionFrames [name] action number, s)

/-- The login of a new connection; it takes a number even where there is none. -/
def login (s : Session) : Option String × Session :=
  let (number, s) := s.takeNumber
  (s.dialect.loginFrame? s.credentials s.channel number, s)

/-- Subscribes to all channels again. -/
def replay (s : Session) : List String × Session :=
  if s.subscriptions.isEmpty then ([], s)
  else
    let (number, s) := s.takeNumber
    (s.dialect.subscriptionFrames s.subscriptions .subscribe number, s)

def ping (s : Session) (elapsed : Nat) : Frame × Session :=
  let s := { s with heartbeat := s.heartbeat.ping elapsed }
  let (number, s) := s.takeNumber
  (((s.dialect.heartbeat? number).map Frame.text).getD (.ping []), s)

/-- The frame that renews the login, where the venue has one; it takes a number anyway. -/
def refresh (s : Session) : Option Frame × Session :=
  let (number, s) := s.takeNumber
  ((s.dialect.authFrame? s.credentials number).map Frame.text, s)

def farewell : Frame := .close (some 1000) "client disconnect"

def sent (s : Session) (f : Frame) : Observation :=
  .frame s.venue.name s.channel.name .out f.payload.length

end Session

end VenueGateway
