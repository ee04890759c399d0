import VenueGateway.Text.Utf8
import VenueGateway.Text.Hex

namespace VenueGateway

abbrev Bytes := List UInt8

inductive Opcode where
  | continuation
  | text
  | binary
  | close
  | ping
  | pong
deriving DecidableEq, Repr

namespace Opcode

def all : List Opcode := [.continuation, .text, .binary, .close, .ping, .pong]

def code : Opcode → UInt8
  | .continuation => 0x0
  | .text => 0x1
  | .binary => 0x2
  | .close => 0x8
  | .ping => 0x9
  | .pong => 0xA

def ofCode? (n : UInt8) : Option Opcode := all.find? (·.code == n)

def isControl : Opcode → Bool
  | .close | .ping | .pong => true
  | .continuation | .text | .binary => false

def name : Opcode → String
  | .continuation => "continuation"
  | .text => "text"
  | .binary => "binary"
  | .close => "close"
  | .ping => "ping"
  | .pong => "pong"

def ofName? (s : String) : Option Opcode := all.find? (·.name == s)

end Opcode

/-- The largest payload of a control frame. -/
def maxControlPayload : Nat := 125

structure Frame where
  fin : Bool
  opcode : Opcode
  payload : Bytes
deriving DecidableEq, Repr

inductive FrameError where
  | reservedBits
  | unknownOpcode (code : UInt8)
  | fragmentedControl
  | controlTooLong (size : Nat)
  | tooLarge (size max : Nat)
  | unexpectedContinuation
  | invalidUtf8
deriving DecidableEq, Repr

namespace FrameError

def message : FrameError → String
  | reservedBits => "reserved bits set"
  | unknownOpcode code => "unknown opcode 0x" ++ String.singleton (Text.hexDigit code.toNat)
  | fragmentedControl => "fragmented control frame"
  | controlTooLong size => "control frame payload of " ++ Text.ofNat size ++ " bytes"
  | tooLarge size max =>
    "frame of " ++ Text.ofNat size ++ " bytes exceeds maximum of " ++ Text.ofNat max
  | unexpectedContinuation => "unexpected continuation state"
  | invalidUtf8 => "invalid utf-8 in text message"

end FrameError

namespace Frame

def text (s : String) : Frame := ⟨true, .text, Text.utf8 s⟩

def ping (payload : Bytes) : Frame := ⟨true, .ping, payload⟩

def pong (payload : Bytes) : Frame := ⟨true, .pong, payload⟩

/-- The longest part of a text, cut between characters, that fits into a number of bytes. -/
def fitting (room : Nat) : List Char → Bytes
  | [] => []
  | c :: cs =>
    let bs := Text.encodeChar c
    if bs.length ≤ room then bs ++ fitting (room - bs.length) cs else []

/-- A close frame; without a code there is no room for a reason either. -/
def close (code : Option UInt16) (reason : String) : Frame :=
  match code with
  | none => ⟨true, .close, []⟩
  | some n =>
    ⟨true, .close,
      (n >>> 8).toUInt8 :: n.toUInt8 :: fitting (maxControlPayload - 2) reason.toList⟩

/-- Code and reason of a close frame that has a code. -/
def closeDetails (f : Frame) : Option (UInt16 × String) :=
  match f.opcode, f.payload with
  | .close, a :: b :: rest => some ((a.toUInt16 <<< 8) ||| b.toUInt16, Text.decodeUtf8Lossy rest)
  | _, _ => none

end Frame

end VenueGateway
