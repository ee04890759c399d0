namespace VenueGateway

inductive OrderState where
  | pending
  | acknowledged
  | partiallyFilled
  | filled
  | cancelled
  | rejected
  | expired
deriving DecidableEq, Repr

namespace OrderState

def all : List OrderState :=
  [.pending, .acknowledged, .partiallyFilled, .filled, .cancelled, .rejected, .expired]

def name : OrderState → String
  | .pending => "PENDING"
  | .acknowledged => "ACKNOWLEDGED"
  | .partiallyFilled => "PARTIALLY_FILLED"
  | .filled => "FILLED"
  | .cancelled => "CANCELLED"
  | .rejected => "REJECTED"
  | .expired => "EXPIRED"

def ofName? (s : String) : Option OrderState := all.find? (·.name == s)

def isTerminal : OrderState → Bool
  | .pending | .acknowledged | .partiallyFilled => false
  | .filled | .cancelled | .rejected | .expired => true

def isOpen (s : OrderState) : Bool := !s.isTerminal

/-- The steps of the lifecycle: up the ladder one rung at a time, or off it from any open rung. -/
def canBecome : OrderState → OrderState → Bool
  | .pending, .acknowledged => true
  | .acknowledged, .partiallyFilled => true
  | .partiallyFilled, .filled => true
  | .pending, .cancelled | .pending, .rejected | .pending, .expired => true
  | .acknowledged, .cancelled | .acknowledged, .rejected | .acknowledged, .expired => true
  | .partiallyFilled, .cancelled | .partiallyFilled, .rejected | .partiallyFilled, .expired => true
  | _, _ => false

end OrderState

inductive EventKind where
  | ack
  | fill
  | cancel
  | reject
deriving DecidableEq, Repr

namespace EventKind

def all : List EventKind := [.ack, .fill, .cancel, .reject]

def name : EventKind → String
  | .ack => "ACK"
  | .fill => "FILL"
  | .cancel => "CANCEL"
  | .reject => "REJECT"

def ofName? (s : String) : Option EventKind := all.find? (·.name == s)

end EventKind

/-- What an event did to a state. -/
inductive Transition where
  | applied (source target : OrderState)
  | ignored (state : OrderState) (kind : EventKind)
deriving DecidableEq, Repr

namespace Transition

def state : Transition → OrderState
  | .applied _ target => target
  | .ignored state _ => state

def isApplied : Transition → Bool
  | .applied .. => true
  | .ignored .. => false

end Transition

namespace OrderState

/-- The state after an event; a pending order is not cancelled before the venue has it. -/
def next : OrderState → EventKind → OrderState
  | .pending, .ack => .acknowledged
  | .acknowledged, .fill => .partiallyFilled
  | .partiallyFilled, .fill => .filled
  | .pending, .reject | .acknowledged, .reject | .partiallyFilled, .reject => .rejected
  | .acknowledged, .cancel | .partiallyFilled, .cancel => .cancelled
  | s, _ => s

def receive (s : OrderState) (kind : EventKind) : Transition :=
  if s.canBecome (s.next kind) then .applied s (s.next kind) else .ignored s kind

end OrderState

end VenueGateway
