import VenueGateway.WebSocket.Frame

namespace VenueGateway

namespace Frame

/-- Each byte with the key's byte at its place; the same again takes it off. -/
def mask (key : Bytes) (payload : Bytes) : Bytes :=
  payload.zipIdx.map fun (b, i) => b ^^^ key.getD (i % 4) 0

def bigEndian : Bytes → Nat := List.foldl (fun n b => 256 * n + b.toNat) 0

def bytesOfNat (width n : Nat) : Bytes :=
  (List.range width).map fun i => (n / Nat.pow 256 (width - 1 - i)).toUInt8

/-- The second byte's length bits and the bytes of a longer length. -/
def lengthBytes (n : Nat) : UInt8 × Bytes :=
  if n < 126 then (n.toUInt8, [])
  else if n < 65536 then (126, bytesOfNat 2 n)
  else (127, bytesOfNat 8 n)

def encode (f : Frame) (key : Option (UInt8 × UInt8 × UInt8 × UInt8)) : Bytes :=
  let (short, long) := lengthBytes f.payload.length
  let first := (if f.fin then 0x80 else 0) ||| f.opcode.code
  match key with
  | none => first :: short :: (long ++ f.payload)
  | some (a, b, c, d) =>
    first :: (0x80 ||| short) :: (long ++ [a, b, c, d] ++ mask [a, b, c, d] f.payload)

end Frame

/-- What the front of the bytes holds. -/
inductive Decoded where
  | more
  | frame (f : Frame) (rest : Bytes)
  | fault (e : FrameError)
deriving DecidableEq, Repr

namespace Decoded

/-- The length a header announces and the bytes after it; none while they are missing. -/
def readLength (bits : UInt8) (rest : Bytes) : Option (Nat × Bytes) :=
  if bits = 126 then
    if rest.length < 2 then none else some (Frame.bigEndian (rest.take 2), rest.drop 2)
  else if bits = 127 then
    if rest.length < 8 then none else some (Frame.bigEndian (rest.take 8), rest.drop 8)
  else some (bits.toNat, rest)

/-- What is wrong with a header, if anything. -/
def headerFault (max : Nat) (fin : Bool) (opcode : Opcode) (size : Nat) : Option FrameError :=
  if opcode.isControl && !fin then some .fragmentedControl
  else if opcode.isControl && decide (maxControlPayload < size) then some (.controlTooLong size)
  else if max < size then some (.tooLarge size max)
  else none

/-- The payload, once the key, if there is one, and all of it have arrived. -/
def readPayload (fin : Bool) (opcode : Opcode) (masked : Bool) (size : Nat) (rest : Bytes) :
    Decoded :=
  if masked then
    if rest.length < 4 + size then .more
    else .frame ⟨fin, opcode, Frame.mask (rest.take 4) ((rest.drop 4).take size)⟩
      ((rest.drop 4).drop size)
  else if rest.length < size then .more
  else .frame ⟨fin, opcode, rest.take size⟩ (rest.drop size)

end Decoded

/-- One frame off the front, its payload at most `max` bytes. Too few bytes leave everything as it is,
and a fault shows as soon as the bytes that hold it are there. -/
def Frame.decode (max : Nat) (bytes : Bytes) : Decoded :=
  match bytes with
  | b0 :: b1 :: rest =>
    if b0 &&& 0x70 ≠ 0 then .fault .reservedBits
    else
      match Opcode.ofCode? (b0 &&& 0x0F) with
      | none => .fault (.unknownOpcode (b0 &&& 0x0F))
      | some opcode =>
        match Decoded.readLength (b1 &&& 0x7F) rest with
        | none => .more
        | some (size, rest) =>
          let fin := b0 &&& 0x80 != 0
          match Decoded.headerFault max fin opcode size with
          | some e => .fault e
          | none => Decoded.readPayload fin opcode (b1 &&& 0x80 != 0) size rest
  | _ => .more

/-- All frames that the bytes hold, the fault that ends them, and the bytes left. -/
structure DecodedRun where
  frames : List Frame
  fault : Option FrameError
  rest : Bytes
deriving DecidableEq, Repr

/-- A frame takes at least two bytes, which bounds their number. -/
def Frame.decodeUpTo (max : Nat) : Nat → Bytes → DecodedRun
  | 0, bytes => ⟨[], none, bytes⟩
  | n + 1, bytes =>
    match Frame.decode max bytes with
    | .more => ⟨[], none, bytes⟩
    | .fault e => ⟨[], some e, bytes⟩
    | .frame f rest =>
      let run := decodeUpTo max n rest
      { run with frames := f :: run.frames }

def Frame.decodeAll (max : Nat) (bytes : Bytes) : DecodedRun :=
  Frame.decodeUpTo max bytes.length bytes

/-- The largest frame that a session accepts unless it is told otherwise. -/
def defaultMaxFrame : Nat := 16 * 1024 * 1024

end VenueGateway
