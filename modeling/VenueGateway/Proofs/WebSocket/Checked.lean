import Mathlib.Data.List.Induction
import VenueGateway.Proofs.WebSocket.Wire
import VenueGateway.WebSocket.Message

namespace VenueGateway

namespace Checked

/-- A number that 64 bits hold. -/
def word? (n : Nat) : Option Nat := if n < 2 ^ 64 then some n else none

def add? (a b : Nat) : Option Nat := word? (a + b)

def sub? (a b : Nat) : Option Nat := if b ≤ a then some (a - b) else none

/-- The bytes from one place up to another one. -/
def slice? (bytes : Bytes) (start stop : Nat) : Option Bytes :=
  if start ≤ stop ∧ stop ≤ bytes.length then some ((bytes.drop start).take (stop - start)) else none

theorem word?_of_lt {n : Nat} (h : n < 2 ^ 64) : word? n = some n := if_pos h

theorem add?_of_lt {a b : Nat} (h : a + b < 2 ^ 64) : add? a b = some (a + b) := if_pos h

theorem sub?_of_le {a b : Nat} (h : b ≤ a) : sub? a b = some (a - b) := if_pos h

theorem slice?_of_le {bytes : Bytes} {start stop : Nat} (h : start ≤ stop)
    (h' : stop ≤ bytes.length) :
    slice? bytes start stop = some ((bytes.drop start).take (stop - start)) := if_pos ⟨h, h'⟩

end Checked

open Checked

namespace Decoded

theorem longSize_le (bits : UInt8) : longSize bits ≤ 8 := by
  unfold longSize
  split_ifs <;> decide

theorem size_le_of_headerFault {max : Nat} {fin : Bool} {opcode : Opcode} {size : Nat}
    (h : headerFault max fin opcode size = none) : size ≤ max := by
  by_contra hnot
  have hmax : max < size := Nat.lt_of_not_le hnot
  unfold headerFault at h
  split_ifs at h

end Decoded

namespace Frame

/-- A length that takes some bytes of its own, and the end of the header behind them. -/
def readLongChecked (width : Nat) (bytes : Bytes) : Option (Option (Nat × Nat)) :=
  if bytes.length < 2 + width then some none
  else do
    let long ← slice? bytes 2 (2 + width)
    let size ← word? (bigEndian long)
    some (some (size, 2 + width))

def readLengthChecked (bits : UInt8) (bytes : Bytes) : Option (Option (Nat × Nat)) :=
  if bits = 126 then readLongChecked 2 bytes
  else if bits = 127 then readLongChecked 8 bytes
  else some (some (bits.toNat, 2))

/-- The payload behind a header; while it is not complete, room for the rest of it is made. -/
def takePayloadChecked (frame : Bytes → Frame) (head size : Nat) (bytes : Bytes) :
    Option Decoded := do
  let total ← add? head size
  if bytes.length < total then
    let _room ← sub? total bytes.length
    some .more
  else
    let body ← slice? bytes head bytes.length
    let payload ← slice? body 0 size
    let rest ← slice? body size body.length
    some (.frame (frame payload) rest)

def readPayloadChecked (fin : Bool) (opcode : Opcode) (masked : Bool) (head size : Nat)
    (bytes : Bytes) : Option Decoded :=
  if masked then do
    let keyed ← add? head 4
    if bytes.length < keyed then some .more
    else
      let key ← slice? bytes head keyed
      takePayloadChecked (fun payload => ⟨fin, opcode, mask key payload⟩) keyed size bytes
  else takePayloadChecked (fun payload => ⟨fin, opcode, payload⟩) head size bytes

def decodeChecked (max : Nat) (bytes : Bytes) : Option Decoded :=
  if bytes.length < 2 then some .more
  else do
    let b0 ← bytes[0]?
    let b1 ← bytes[1]?
    if b0 &&& 0x70 ≠ 0 then some (.fault .reservedBits)
    else
      match Opcode.ofCode? (b0 &&& 0x0F) with
      | none => some (.fault (.unknownOpcode (b0 &&& 0x0F)))
      | some opcode =>
        match ← readLengthChecked (b1 &&& 0x7F) bytes with
        | none => some .more
        | some (size, head) =>
          match Decoded.headerFault max (b0 &&& 0x80 != 0) opcode size with
          | some e => some (.fault e)
          | none => readPayloadChecked (b0 &&& 0x80 != 0) opcode (b1 &&& 0x80 != 0) head size bytes

theorem bigEndian_lt (bytes : Bytes) : bigEndian bytes < 256 ^ bytes.length := by
  induction bytes using List.reverseRecOn with
  | nil => decide
  | append_singleton bytes b ih =>
    have hb := b.toNat_lt
    rw [bigEndian_concat, List.length_append, List.length_singleton, Nat.pow_succ]
    omega

theorem readLongChecked_eq (b0 b1 : UInt8) (rest : Bytes) {width : Nat} (hw : width ≤ 8) :
    readLongChecked width (b0 :: b1 :: rest) =
      some (if rest.length < width then none
        else some (bigEndian (rest.take width), 2 + width)) := by
  have hlength : (b0 :: b1 :: rest).length = 2 + rest.length := Nat.add_comm rest.length 2
  unfold readLongChecked
  by_cases hlen : rest.length < width
  · rw [if_pos (by omega), if_pos hlen]
  · have hslice : slice? (b0 :: b1 :: rest) 2 (2 + width) = some (rest.take width) := by
      rw [slice?_of_le (Nat.le_add_right 2 width) (by omega), Nat.add_sub_cancel_left]
      rfl
    have hlt := bigEndian_lt (rest.take width)
    rw [List.length_take_of_le (Nat.le_of_not_lt hlen)] at hlt
    have hword := word?_of_lt (Nat.lt_of_lt_of_le hlt (Nat.pow_le_pow_right (by decide) hw))
    rw [if_neg (by omega), if_neg hlen, hslice, Option.bind_eq_bind, Option.bind_some, hword]
    rfl

theorem readLengthChecked_eq (bits b0 b1 : UInt8) (rest : Bytes) :
    readLengthChecked bits (b0 :: b1 :: rest) =
      some (if rest.length < Decoded.longSize bits then none
        else some (Decoded.announced bits (rest.take (Decoded.longSize bits)),
          2 + Decoded.longSize bits)) := by
  unfold readLengthChecked Decoded.announced Decoded.longSize
  by_cases h126 : bits = 126
  · simp [h126, readLongChecked_eq]
  · by_cases h127 : bits = 127
    · simp [h127, readLongChecked_eq]
    · simp [h126, h127]

theorem takePayloadChecked_eq (frame : Bytes → Frame) {head size : Nat} {bytes : Bytes}
    (hhead : head ≤ bytes.length) (hword : head + size < 2 ^ 64) :
    takePayloadChecked frame head size bytes =
      some (if (bytes.drop head).length < size then .more
        else .frame (frame ((bytes.drop head).take size)) ((bytes.drop head).drop size)) := by
  unfold takePayloadChecked
  rw [add?_of_lt hword, Option.bind_eq_bind, Option.bind_some]
  -- The checked additions and slices fail only out of range, which the test of the length has
  -- excluded behind it.
  by_cases hlen : bytes.length < head + size
  · have hmore : (bytes.drop head).length < size := by
      rw [List.length_drop]
      omega
    rw [if_pos hlen, if_pos hmore, sub?_of_le (Nat.le_of_lt hlen)]
    rfl
  · have hbody : slice? bytes head bytes.length = some (bytes.drop head) := by
      rw [slice?_of_le hhead (Nat.le_refl _), ← List.length_drop, List.take_length]
    have hsize : size ≤ (bytes.drop head).length := by
      rw [List.length_drop]
      omega
    have hpayload : slice? (bytes.drop head) 0 size = some ((bytes.drop head).take size) :=
      slice?_of_le (Nat.zero_le size) hsize
    have hrest : slice? (bytes.drop head) size (bytes.drop head).length =
        some ((bytes.drop head).drop size) := by
      rw [slice?_of_le hsize (Nat.le_refl _), ← List.length_drop, List.take_length]
    rw [if_neg hlen, if_neg (Nat.not_lt.mpr hsize)]
    simp only [hbody, hpayload, hrest, Option.bind_eq_bind, Option.bind_some]

theorem readPayloadChecked_eq (fin : Bool) (opcode : Opcode) (masked : Bool) {head size : Nat}
    {bytes : Bytes} (hhead : head ≤ bytes.length) (hword : head + 4 + size < 2 ^ 64) :
    readPayloadChecked fin opcode masked head size bytes =
      some (Decoded.readPayload fin opcode masked size (bytes.drop head)) := by
  unfold readPayloadChecked Decoded.readPayload
  cases masked with
  | false =>
    rw [if_neg Bool.false_ne_true, if_neg Bool.false_ne_true]
    exact takePayloadChecked_eq _ hhead (by omega)
  | true =>
    rw [if_pos rfl, if_pos rfl, add?_of_lt (by omega), Option.bind_eq_bind, Option.bind_some]
    -- A masked frame has four bytes of key in front, which are tested for before they are cut out.
    by_cases hkey : bytes.length < head + 4
    · rw [if_pos hkey, if_pos (by rw [List.length_drop]; omega)]
    · have hslice : slice? bytes head (head + 4) = some ((bytes.drop head).take 4) := by
        rw [slice?_of_le (Nat.le_add_right head 4) (Nat.le_of_not_lt hkey),
          Nat.add_sub_cancel_left]
      have hsize : (bytes.drop (head + 4)).length < size ↔
          (bytes.drop head).length < 4 + size := by
        simp only [List.length_drop]
        omega
      rw [if_neg hkey, hslice, Option.bind_eq_bind, Option.bind_some,
        takePayloadChecked_eq _ (Nat.le_of_not_lt hkey) hword]
      simp only [List.drop_drop, hsize]

/-- Below a limit that leaves room for the header of a frame, the checks find nothing. -/
theorem decodeChecked_eq {max : Nat} (hmax : max + 14 < 2 ^ 64) (bytes : Bytes) :
    decodeChecked max bytes = some (decode max bytes) := by
  match bytes with
  | [] => rfl
  | [_] => rfl
  | b0 :: b1 :: rest =>
    have hlength : ¬ (b0 :: b1 :: rest).length < 2 := by simp
    have hfirst : (b0 :: b1 :: rest)[0]? = some b0 := rfl
    have hsecond : (b0 :: b1 :: rest)[1]? = some b1 := rfl
    unfold decodeChecked
    simp only [hlength, if_false, hfirst, hsecond, Option.bind_eq_bind, Option.bind_some]
    by_cases hr : b0 &&& 0x70 = 0
    · cases ho : Opcode.ofCode? (b0 &&& 0x0F) with
      | none => simp [decode, hr, ho]
      | some opcode =>
        rw [decode_of_opcode hr ho, readLengthChecked_eq, Decoded.readLength_eq]
        simp only [hr, ne_eq, not_true_eq_false, if_false]
        by_cases hlen : rest.length < Decoded.longSize (b1 &&& 0x7F)
        · simp only [hlen, if_true, Option.bind_some]
        · simp only [hlen, if_false, Option.bind_some, decodeBody]
          generalize Decoded.announced (b1 &&& 0x7F) _ = size
          cases hf : Decoded.headerFault max (b0 &&& 0x80 != 0) opcode size with
          | some e => rfl
          | none =>
            -- The length is compared with the limit before it is added to anything.
            have hsize := Decoded.size_le_of_headerFault hf
            have hlong := Decoded.longSize_le (b1 &&& 0x7F)
            have hhead : 2 + Decoded.longSize (b1 &&& 0x7F) ≤ (b0 :: b1 :: rest).length := by
              simp only [List.length_cons]
              omega
            rw [readPayloadChecked_eq _ _ _ hhead (by omega), Nat.add_comm 2]
            rfl
    · simp [decode, hr]

/-- Without a limit, the greatest length that a header can announce does not add up. -/
example : decodeChecked (2 ^ 64) (0x82 :: 0x7F :: List.replicate 8 0xFF) = none := by
  decide +kernel

end Frame

namespace Assembler

/-- A fragment is added to what is pending once the sum of the two lengths is known to fit. -/
def pushChecked (a : Assembler) (f : Frame) :
    Option (Except FrameError (Option Message) × Assembler) :=
  match f.opcode, a.pending with
  | .continuation, some (_, buffer) => do
    let _size ← add? buffer.length f.payload.length
    some (a.push f)
  | _, _ => some (a.push f)

theorem pushChecked_eq {a : Assembler} {f : Frame}
    (h : ∀ opcode buffer, a.pending = some (opcode, buffer) →
      buffer.length + f.payload.length < 2 ^ 64) :
    a.pushChecked f = some (a.push f) := by
  unfold pushChecked
  split
  · next opcode buffer _ hp =>
    rw [add?_of_lt (h opcode buffer hp)]
    rfl
  · rfl

end Assembler

end VenueGateway
