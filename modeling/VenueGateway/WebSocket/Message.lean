import VenueGateway.WebSocket.Frame

namespace VenueGateway

inductive Message where
  | text (s : String)
  | binary (payload : Bytes)
  | ping (payload : Bytes)
  | pong (payload : Bytes)
  | close (details : Option (UInt16 × String))
deriving DecidableEq, Repr

/-- The fragments so far of a message that is not complete, with the opcode of the first. -/
structure Assembler where
  maxSize : Nat
  pending : Option (Opcode × Bytes) := none
deriving DecidableEq, Repr

namespace Assembler

def finish (opcode : Opcode) (payload : Bytes) : Except FrameError Message :=
  if opcode = .text then
    match Text.decodeUtf8 payload with
    | some s => .ok (.text s)
    | none => .error .invalidUtf8
  else .ok (.binary payload)

/-- One frame: a message, nothing yet, or a fault; a continuation at fault drops what it continues. -/
def push (a : Assembler) (f : Frame) : Except FrameError (Option Message) × Assembler :=
  match f.opcode with
  | .ping => (.ok (some (.ping f.payload)), a)
  | .pong => (.ok (some (.pong f.payload)), a)
  | .close => (.ok (some (.close f.closeDetails)), a)
  | .text | .binary =>
    if a.pending.isSome then (.error .unexpectedContinuation, a)
    else if f.fin then ((finish f.opcode f.payload).map some, a)
    else (.ok none, { a with pending := some (f.opcode, f.payload) })
  | .continuation =>
    match a.pending with
    | none => (.error .unexpectedContinuation, a)
    | some (opcode, buffer) =>
      let a := { a with pending := none }
      let size := buffer.length + f.payload.length
      if a.maxSize < size then (.error (.tooLarge size a.maxSize), a)
      else if f.fin then ((finish opcode (buffer ++ f.payload)).map some, a)
      else (.ok none, { a with pending := some (opcode, buffer ++ f.payload) })

def reset (a : Assembler) : Assembler := { a with pending := none }

end Assembler

end VenueGateway
