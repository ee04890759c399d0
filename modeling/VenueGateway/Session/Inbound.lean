import VenueGateway.Session.Basic

namespace VenueGateway

/-- What has arrived and is not complete yet. -/
structure Inbox where
  buffer : Bytes := []
  assembler : Assembler
deriving Repr

/-- What something inbound leads to; with a fault the connection is over. -/
structure Reaction where
  session : Session
  outputs : List SessionOutput := []
  fault : Option String := none

namespace Session

/-- A heartbeat that asks for an answer gets one; any other text is read as records. -/
def receiveText (s : Session) (now : Int) (text : String) : Reaction :=
  match s.dialect.heartbeatReply? text with
  | some reply => { session := s, outputs := [.send (.text reply)] }
  | none =>
    let (records, pending) := s.dialect.decode now s.pending text
    let outcome :=
      match records with
      | some rs => rs.map fun r => .notify (.record r)
      | none => [.observe (.malformed s.venue.name)]
    { session := { s with pending }, outputs := .observe (.decoded s.venue.name) :: outcome }

/-- The status of a close frame that names none. -/
def noStatus : UInt16 := 1005

/-- The frame that answers a close, with the same status; none is answered as a normal close. -/
def closeEcho (code : UInt16) : Frame := .close (some (if code = noStatus then 1000 else code)) ""

def closeReason (code : UInt16) (reason : String) : String :=
  "closed by venue: " ++ Text.ofNat code.toNat ++ " " ++ reason

def receiveMessage (s : Session) (now : Int) : Message → Reaction
  | .text text => s.receiveText now text
  | .binary payload =>
    match Text.decodeUtf8 payload with
    | some text => s.receiveText now text
    | none => { session := s }
  | .ping payload => { session := s, outputs := [.send (.pong payload)] }
  | .pong _ => { session := s }
  | .close details =>
    let (code, reason) := details.getD (noStatus, "")
    { session := s, outputs := [.send (closeEcho code)], fault := some (closeReason code reason) }

def receiveFrame (s : Session) (a : Assembler) (now : Int) (f : Frame) : Reaction × Assembler :=
  let s := { s with heartbeat := s.heartbeat.inbound }
  let seen : SessionOutput :=
    .observe (.frame s.venue.name s.channel.name .in f.payload.length)
  match a.push f with
  | (.ok none, a) => ({ session := s, outputs := [seen] }, a)
  | (.ok (some m), a) =>
    let r := s.receiveMessage now m
    ({ r with outputs := seen :: r.outputs }, a)
  | (.error e, a) =>
    ({ session := s, outputs := [seen], fault := some ("protocol error: " ++ e.message) }, a)

/-- The first fault ends the connection, and nothing behind it has any effect. -/
def receiveFrames (s : Session) (a : Assembler) (now : Int) : List Frame → Reaction × Assembler
  | [] => ({ session := s }, a)
  | f :: fs =>
    let (r, a) := s.receiveFrame a now f
    if r.fault.isSome then (r, a)
    else
      let (r', a) := r.session.receiveFrames a now fs
      ({ r' with outputs := r.outputs ++ r'.outputs }, a)

/-- Bytes that have arrived: all frames that they complete, then what is wrong behind those. -/
def receive (s : Session) (inbox : Inbox) (now : Int) (bytes : Bytes) : Reaction × Inbox :=
  let run := Frame.decodeAll s.config.maxFrame (inbox.buffer ++ bytes)
  let (r, assembler) := s.receiveFrames inbox.assembler now run.frames
  let fault := r.fault.or (run.fault.map fun e => "read failed: " ++ e.message)
  ({ r with fault }, ⟨run.rest, assembler⟩)

/-- The end of the stream, which may cut a frame short. -/
def endOfStream (inbox : Inbox) : String :=
  if inbox.buffer.isEmpty then "connection closed by peer"
  else "read failed: io error: bytes remaining on stream"

end Session

end VenueGateway
