import VenueGateway.WebSocket.Codec
import VenueGateway.WebSocket.Handshake

namespace VenueGateway.Simulation

/-- How a peer treats the upgrade request. An own response may hold the accept key. -/
inductive AcceptMode where
  | upgrade
  | drop
  | silent
  | respond (response : String → Bytes) (close : Bool)

structure Peer where
  id : Nat
  /-- Whether it writes frames, and not just bytes. -/
  sendsFrames : Bool
  /-- Whether it reads frames. -/
  readsFrames : Bool
  /-- Whether the near end is still there. -/
  isOpen : Bool := true
deriving DecidableEq, Repr

/-- An upgrade request, as a peer has read it. -/
inductive UpgradeLog where
  | upgraded (r : Handshake.UpgradeRequest)
  | read (head : String)
deriving Repr

/-- Connections in memory. The far end of each one is a peer, which treats the upgrade as it is
told. -/
structure Transport where
  mode : AcceptMode := .upgrade
  refuses : Bool := false
  /-- How many of the next attempts fail. -/
  failures : Nat := 0
  attempts : Nat := 0
  /-- The peers that are there, the newest one last. -/
  peers : List Peer := []
  nextPeer : Nat := 0
  upgrades : List UpgradeLog := []

namespace Transport

def connect (t : Transport) (url : String) : Except SessionError Nat × Transport :=
  let t := { t with attempts := t.attempts + 1 }
  if t.refuses then (.error (.io ("refused: " ++ url)), t)
  else if t.failures > 0 then
    (.error (.io ("scripted failure: " ++ url)), { t with failures := t.failures - 1 })
  else (.ok t.nextPeer, { t with nextPeer := t.nextPeer + 1 })

/-- What an upgrade request comes to at the far end. -/
structure Acceptance where
  answer : Bytes := []
  /-- Whether the peer stays. -/
  stays : Bool := false
  /-- What the peer reads as frames behind the head of the request. -/
  frames : List Frame := []
  transport : Transport

/-- A peer that stays reads frames, unless what stands behind the head is none or not a whole one. -/
def Acceptance.staying (t : Transport) (peer : Nat) (isOpen : Bool) (answer behind : Bytes) :
    Acceptance :=
  let run := Frame.decodeAll defaultMaxFrame behind
  let readsFrames := run.fault.isNone && run.rest.isEmpty
  { answer, stays := true, frames := run.frames
    transport := { t with peers := t.peers ++ [⟨peer, true, readsFrames, isOpen⟩] } }

/--
The peer's answer to the upgrade request. Where the near end is gone by then, the peer that means to
upgrade goes too.
-/
def accept (t : Transport) (peer : Nat) (isOpen : Bool) (request : String) : Acceptance :=
  let stream := Text.utf8 request
  let (served, behind) := Handshake.serve stream
  match t.mode with
  | .drop => { transport := t }
  | .silent =>
    { stays := true, transport := { t with peers := t.peers ++ [⟨peer, false, false, isOpen⟩] } }
  | .upgrade =>
    match served with
    | .ok (r, answer) =>
      if isOpen then
        .staying { t with upgrades := t.upgrades ++ [.upgraded r] } peer true (Text.utf8 answer)
          behind
      else { transport := t }
    | .error _ => { transport := t }
  | .respond response close =>
    let key :=
      match served with
      | .ok (r, _) => (r.header? "sec-websocket-key").getD ""
      | .error _ => ""
    let head := ((Handshake.readHead stream).1.toOption).getD request
    let t := { t with upgrades := t.upgrades ++ [.read head] }
    let answer := response (Handshake.acceptKey key)
    if close then { answer, transport := t } else .staying t peer isOpen answer behind

def newest? (t : Transport) : Option Peer := t.peers.getLast?

def isThere (t : Transport) (peer : Nat) : Bool := t.peers.any (·.id == peer)

def readsFrames (t : Transport) (peer : Nat) : Bool :=
  t.peers.any fun p => p.id == peer && p.readsFrames

def dropNewest (t : Transport) : Transport := { t with peers := t.peers.dropLast }

/-- The near end of a connection goes away. -/
def hangUp (t : Transport) (peer : Nat) : Transport :=
  { t with peers := t.peers.map fun p => if p.id = peer then { p with isOpen := false } else p }

end Transport

end VenueGateway.Simulation
