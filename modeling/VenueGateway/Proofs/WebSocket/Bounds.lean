import VenueGateway.Proofs.Text.Utf8
import VenueGateway.Proofs.WebSocket.Assembly
import VenueGateway.Proofs.WebSocket.Checked

namespace VenueGateway

namespace Decoded

/-- A frame keeps the limit and is taken off the front, the rest being left as it was; bytes that
wait for the rest of their frame are fewer than the longest frame takes. -/
def Bounded (max : Nat) (bytes : Bytes) : Decoded → Prop
  | .more => bytes.length < max + 14
  | .frame f rest =>
    f.Allowed max ∧ ∃ head, bytes = head ++ rest ∧ f.payload.length + 2 ≤ head.length
  | .fault _ => True

theorem allowed_of_headerFault {max size : Nat} {fin : Bool} {opcode : Opcode} {payload : Bytes}
    (h : headerFault max fin opcode size = none) (hsize : payload.length = size) :
    Frame.Allowed max ⟨fin, opcode, payload⟩ := by
  subst hsize
  refine ⟨size_le_of_headerFault h, fun hc => ?_⟩
  unfold headerFault at h
  cases fin with
  | false => simp [hc] at h
  | true =>
    refine ⟨rfl, Nat.le_of_not_lt fun hlong => ?_⟩
    simp [hc, hlong] at h

theorem readPayload_bounded {max : Nat} {fin : Bool} {opcode : Opcode} {size : Nat}
    (h : headerFault max fin opcode size = none) {head : Bytes} (hl : 2 ≤ head.length)
    (hh : head.length ≤ 10) (masked : Bool) (rest : Bytes) :
    (readPayload fin opcode masked size rest).Bounded max (head ++ rest) := by
  have hsize := size_le_of_headerFault h
  have hkey : keySize masked ≤ 4 := by cases masked <;> decide
  rw [readPayload_eq]
  -- Without the whole key and payload the buffer stays below the length of the largest frame with
  -- its longest head.
  by_cases hlen : rest.length < keySize masked + size
  · rw [if_pos hlen]
    show (head ++ rest).length < max + 14
    rw [List.length_append]
    omega
  · rw [if_neg hlen]
    generalize hkeyed : rest.drop (keySize masked) = keyed
    have hrest : rest = rest.take (keySize masked) ++ keyed := by
      rw [← hkeyed, List.take_append_drop]
    have hkeyedLength : keyed.length = rest.length - keySize masked := by
      rw [← hkeyed, List.length_drop]
    have hpayload :
        (unmask masked (rest.take (keySize masked)) (keyed.take size)).length = size := by
      rw [length_unmask, List.length_take]
      omega
    refine ⟨allowed_of_headerFault h hpayload,
      head ++ (rest.take (keySize masked) ++ keyed.take size), ?_, ?_⟩
    · rw [List.append_assoc, List.append_assoc, List.take_append_drop, ← hrest]
    · simp only [List.length_append, hpayload, List.length_take]
      omega

end Decoded

namespace Frame

theorem decode_bounded (max : Nat) (bytes : Bytes) : (decode max bytes).Bounded max bytes := by
  match bytes with
  | [] => exact Nat.succ_pos _
  | [_] =>
    show 1 < max + 14
    omega
  | b0 :: b1 :: bytes =>
    by_cases hr : b0 &&& 0x70 = 0
    · cases ho : Opcode.ofCode? (b0 &&& 0x0F) with
      | none =>
        have hfault : decode max (b0 :: b1 :: bytes) = .fault (.unknownOpcode (b0 &&& 0x0F)) := by
          simp [decode, hr, ho]
        rw [hfault]
        trivial
      | some opcode =>
        -- Of the fourteen bytes, two are these, eight a longer length, and four the key.
        have hlong := Decoded.longSize_le (b1 &&& 0x7F)
        rw [decode_of_opcode hr ho, Decoded.readLength_eq]
        generalize Decoded.longSize (b1 &&& 0x7F) = width at hlong
        by_cases hlen : bytes.length < width
        · rw [if_pos hlen]
          show (b0 :: b1 :: bytes).length < max + 14
          simp only [List.length_cons]
          omega
        · rw [if_neg hlen]
          generalize Decoded.announced (b1 &&& 0x7F) _ = size
          show (decodeBody max b0 b1 opcode size (bytes.drop width)).Bounded max _
          unfold decodeBody
          cases hf : Decoded.headerFault max (b0 &&& 0x80 != 0) opcode size with
          | some e => trivial
          | none =>
            have hhead : (b0 :: b1 :: bytes.take width).length = width + 2 := by
              simp only [List.length_cons, List.length_take]
              omega
            have hsplit : b0 :: b1 :: bytes =
                (b0 :: b1 :: bytes.take width) ++ bytes.drop width := by
              rw [List.cons_append, List.cons_append, List.take_append_drop]
            rw [hsplit]
            exact Decoded.readPayload_bounded hf (by omega) (by omega) _ _
    · have hfault : decode max (b0 :: b1 :: bytes) = .fault .reservedBits := by simp [decode, hr]
      rw [hfault]
      trivial

theorem decodeAll_allowed (max : Nat) (bytes : Bytes) :
    ∀ f ∈ (decodeAll max bytes).frames, f.Allowed max := by
  induction h : bytes.length using Nat.strongRecOn generalizing bytes with
  | _ n ih =>
    have hd := decode_bounded max bytes
    cases hdecode : decode max bytes with
    | more =>
      rw [decodeAll_of_more hdecode]
      simp
    | fault e =>
      rw [decodeAll_of_fault hdecode]
      simp
    | frame f rest =>
      have hlt := decode_rest_lt hdecode
      rw [hdecode] at hd
      rw [decodeAll_of_frame hdecode]
      exact List.forall_mem_cons.mpr ⟨hd.1, ih rest.length (h ▸ hlt) rest rfl⟩

theorem decodeAll_rest_lt {max : Nat} {bytes : Bytes} (h : (decodeAll max bytes).fault = none) :
    (decodeAll max bytes).rest.length < max + 14 := by
  have hmore := decode_decodeAll_rest max bytes
  have hd := decode_bounded max (decodeAll max bytes).rest
  rw [h] at hmore
  rw [hmore] at hd
  exact hd

end Frame

/-- The bytes of what a message carries, apart from the reason of a close. -/
def Message.size : Message → Nat
  | .text s => Text.byteLength s
  | .binary payload | .ping payload | .pong payload => payload.length
  | .close _ => 0

namespace Assembler

/-- An assembler with this limit, and what is pending keeps it. -/
structure Within (max : Nat) (a : Assembler) : Prop where
  maxSize_eq : a.maxSize = max
  pending_le : ∀ opcode buffer, a.pending = some (opcode, buffer) → buffer.length ≤ max

/-- A frame leaves such an assembler behind, and no message beyond the limit. -/
structure Kept (max : Nat) (outcome : Answer × Assembler) : Prop where
  within : outcome.2.Within max
  size_le : ∀ m, outcome.1 = .ok (some m) → m.size ≤ max

variable {max : Nat} {a : Assembler} {f : Frame} {opcode : Opcode} {payload : Bytes}

theorem within_none (max : Nat) : Within max ⟨max, none⟩ :=
  ⟨rfl, fun _ _ h => by cases h⟩

theorem within_some (h : payload.length ≤ max) : Within max ⟨max, some (opcode, payload)⟩ :=
  ⟨rfl, fun _ _ hp => by cases hp; exact h⟩

theorem size_finish {m : Message} (h : finish opcode payload = .ok m) :
    m.size = payload.length := by
  unfold finish at h
  split_ifs at h
  · cases hs : Text.decodeUtf8 payload with
    | none =>
      rw [hs] at h
      cases h
    | some s =>
      rw [hs] at h
      cases h
      exact congrArg List.length (Text.utf8_of_decodeUtf8 hs)
  · cases h
    rfl

theorem Within.kept_nothing (h : a.Within max) : Kept max (.ok none, a) :=
  ⟨h, fun m hm => by cases hm⟩

theorem Within.kept_error (h : a.Within max) (e : FrameError) : Kept max (.error e, a) :=
  ⟨h, fun m hm => by cases hm⟩

theorem Within.kept_message (h : a.Within max) {m : Message} (hm : m.size ≤ max) :
    Kept max (.ok (some m), a) :=
  ⟨h, fun m' hm' => by cases hm'; exact hm⟩

theorem Within.kept_finish (h : a.Within max) (hsize : payload.length ≤ max) :
    Kept max ((finish opcode payload).map some, a) := by
  cases hf : finish opcode payload with
  | error e => exact h.kept_error e
  | ok m => exact h.kept_message ((size_finish hf).trans_le hsize)

theorem Within.push (h : a.Within max) (hf : f.payload.length ≤ max) : Kept max (a.push f) := by
  obtain ⟨maxSize, pending⟩ := a
  obtain rfl : maxSize = max := h.maxSize_eq
  unfold Assembler.push
  cases ho : f.opcode with
  | ping => exact h.kept_message hf
  | pong => exact h.kept_message hf
  | close => exact h.kept_message (Nat.zero_le _)
  | text | binary =>
    dsimp only
    -- The first fragment is not compared with the limit: that it keeps it is the codec's doing.
    split_ifs
    · exact h.kept_error _
    · exact h.kept_finish hf
    · exact (within_some hf).kept_nothing
  | continuation =>
    cases pending with
    | none => exact h.kept_error _
    | some p =>
      obtain ⟨opcode, buffer⟩ := p
      dsimp only
      -- Only here two payloads come together, and their sum is compared with the limit.
      split_ifs with hlong hfin
      · exact (within_none maxSize).kept_error _
      · exact (within_none maxSize).kept_finish (by rw [List.length_append]; omega)
      · have hsize : (buffer ++ f.payload).length ≤ maxSize := by
          rw [List.length_append]
          omega
        exact (within_some hsize).kept_nothing

end Assembler

open Assembler (Answer)

/-- What a reader has made of a stream so far: the bytes that it has not read yet, what is pending,
all frames and messages, and the fault that ends it. -/
structure FrameReader where
  max : Nat
  assembler : Assembler := { maxSize := max }
  buffer : Bytes := []
  frames : List Frame := []
  messages : List Message := []
  fault : Option FrameError := none

inductive ReaderStep where
  | arrive (bytes : Bytes)
  /-- One frame is taken off the buffer, if there is one, and put to the assembler. -/
  | take

/-- All bytes that arrive. -/
def ReaderStep.stream (steps : List ReaderStep) : Bytes :=
  steps.flatMap fun
    | .arrive bytes => bytes
    | .take => []

namespace FrameReader

def put (r : FrameReader) (f : Frame) (rest : Bytes) (outcome : Answer × Assembler) :
    FrameReader :=
  let r := { r with assembler := outcome.2, buffer := rest, frames := r.frames ++ [f] }
  match outcome.1 with
  | .ok none => r
  | .ok (some m) => { r with messages := r.messages ++ [m] }
  | .error e => { r with fault := some e }

def act (r : FrameReader) : ReaderStep → FrameReader
  | .arrive bytes => { r with buffer := r.buffer ++ bytes }
  | .take =>
    if r.fault.isSome then r
    else
      match Frame.decode r.max r.buffer with
      | .more => r
      | .fault e => { r with fault := some e }
      | .frame f rest => r.put f rest (r.assembler.push f)

def run (r : FrameReader) (steps : List ReaderStep) : FrameReader := steps.foldl act r

/-- The same with all sums, differences and slices checked. -/
def actChecked (r : FrameReader) : ReaderStep → Option FrameReader
  | .arrive bytes => some { r with buffer := r.buffer ++ bytes }
  | .take =>
    if r.fault.isSome then some r
    else do
      match ← Frame.decodeChecked r.max r.buffer with
      | .more => some r
      | .fault e => some { r with fault := some e }
      | .frame f rest =>
        let outcome ← r.assembler.pushChecked f
        some (r.put f rest outcome)

def runChecked (r : FrameReader) (steps : List ReaderStep) : Option FrameReader :=
  steps.foldlM actChecked r

/-- A reader within its limit, of a stream of which it has used up the front. -/
structure Within (max : Nat) (stream : Bytes) (r : FrameReader) : Prop where
  max_eq : r.max = max
  assembler : r.assembler.Within max
  frames : ∀ f ∈ r.frames, f.Allowed max
  messages : ∀ m ∈ r.messages, m.size ≤ max
  used : ∃ used, stream = used ++ r.buffer ∧ (r.frames.map (·.payload.length)).sum ≤ used.length

variable {max : Nat} {stream : Bytes} {r : FrameReader}

theorem within_opened (max : Nat) : Within max [] { max := max } where
  max_eq := rfl
  assembler := Assembler.within_none max
  frames := by simp
  messages := by simp
  used := ⟨[], rfl, Nat.le_refl _⟩

theorem Within.put (h : r.Within max stream) {f : Frame} {rest head : Bytes} (hf : f.Allowed max)
    (hbuffer : r.buffer = head ++ rest) (hlong : f.payload.length ≤ head.length)
    {outcome : Answer × Assembler} (ho : Assembler.Kept max outcome) :
    (r.put f rest outcome).Within max stream := by
  obtain ⟨answer, a⟩ := outcome
  obtain ⟨used, hused, hsum⟩ := h.used
  have hframes : ∀ g ∈ r.frames ++ [f], g.Allowed max :=
    List.forall_mem_append.mpr ⟨h.frames, by simpa using hf⟩
  -- The bytes taken for a frame are at least as many as its payload has, so what was used covers
  -- the payloads of all frames.
  have hfront : ∃ used, stream = used ++ rest ∧
      ((r.frames ++ [f]).map (·.payload.length)).sum ≤ used.length := by
    refine ⟨used ++ head, by rw [hused, hbuffer, List.append_assoc], ?_⟩
    simp only [List.map_append, List.map_cons, List.map_nil, List.sum_append, List.sum_singleton,
      List.length_append]
    omega
  match answer with
  | .ok none => exact ⟨h.max_eq, ho.within, hframes, h.messages, hfront⟩
  | .error e => exact ⟨h.max_eq, ho.within, hframes, h.messages, hfront⟩
  | .ok (some m) =>
    have hmessages : ∀ m' ∈ r.messages ++ [m], m'.size ≤ max :=
      List.forall_mem_append.mpr ⟨h.messages, by simpa using ho.size_le m rfl⟩
    exact ⟨h.max_eq, ho.within, hframes, hmessages, hfront⟩

/-- One step stays within the limit. -/
theorem Within.act (h : r.Within max stream) (step : ReaderStep) :
    (r.act step).Within max (stream ++ ReaderStep.stream [step]) := by
  -- What arrives goes behind the buffer; a decoded frame leaves its front.
  cases step with
  | arrive bytes =>
    obtain ⟨used, hused, hsum⟩ := h.used
    have hstream : ReaderStep.stream [.arrive bytes] = bytes := List.append_nil bytes
    refine ⟨h.max_eq, h.assembler, h.frames, h.messages, used, ?_, hsum⟩
    rw [hstream, hused]
    exact List.append_assoc used r.buffer bytes
  | take =>
    have hstream : stream ++ ReaderStep.stream [.take] = stream := List.append_nil stream
    rw [hstream, FrameReader.act]
    split_ifs
    · exact h
    · have hd := Frame.decode_bounded r.max r.buffer
      cases hdecode : Frame.decode r.max r.buffer with
      | more => exact h
      | fault e => exact ⟨h.max_eq, h.assembler, h.frames, h.messages, h.used⟩
      | frame f rest =>
        rw [hdecode, h.max_eq] at hd
        obtain ⟨hf, head, hbuffer, hlong⟩ := hd
        exact h.put hf hbuffer (by omega) (h.assembler.push hf.size_le)

/-- Within the limit no check fails: two lengths that are added both keep it. -/
theorem Within.actChecked_eq (h : r.Within max stream) (hmax : max ≤ 2 ^ 32) (step : ReaderStep) :
    r.actChecked step = some (r.act step) := by
  -- Every sum is of lengths that the invariant bounds by the limit, and the limit is far below the
  -- size of a word.
  cases step with
  | arrive bytes => rfl
  | take =>
    have hlimit : r.max + 14 < 2 ^ 64 := by
      rw [h.max_eq]
      omega
    rw [actChecked, FrameReader.act, Frame.decodeChecked_eq hlimit]
    split_ifs
    · rfl
    · have hd := Frame.decode_bounded r.max r.buffer
      cases hdecode : Frame.decode r.max r.buffer with
      | more | fault => rfl
      | frame f rest =>
        rw [hdecode, h.max_eq] at hd
        have hpush : r.assembler.pushChecked f = some (r.assembler.push f) := by
          apply Assembler.pushChecked_eq
          intro opcode buffer hp
          have hpending := h.assembler.pending_le opcode buffer hp
          have hpayload := hd.1.size_le
          omega
        simp only [Option.bind_eq_bind, Option.bind_some, hpush]

theorem run_concat (r : FrameReader) (steps : List ReaderStep) (step : ReaderStep) :
    r.run (steps ++ [step]) = (r.run steps).act step := by
  simp [run]

theorem within_run (max : Nat) (steps : List ReaderStep) :
    (run { max := max } steps).Within max (ReaderStep.stream steps) := by
  induction steps using List.reverseRecOn with
  | nil => exact within_opened max
  | append_singleton steps step ih =>
    have hstream : ReaderStep.stream (steps ++ [step]) =
        ReaderStep.stream steps ++ ReaderStep.stream [step] := List.flatMap_append
    rw [hstream, run_concat]
    exact ih.act step

theorem runChecked_eq (max : Nat) (hmax : max ≤ 2 ^ 32) (steps : List ReaderStep) :
    runChecked { max := max } steps = some (run { max := max } steps) := by
  induction steps using List.reverseRecOn with
  | nil => rfl
  | append_singleton steps step ih =>
    have hstep := (within_run max steps).actChecked_eq hmax step
    rw [runChecked] at ih
    rw [runChecked, List.foldlM_append, ih, run_concat, Option.bind_eq_bind, Option.bind_some,
      List.foldlM_cons, hstep]
    rfl

/-- Whatever a peer sends, in whatever chunks, a reader stays within its limit up to the first
fault: no frame and no message goes beyond it, nor what is pending of a message; every control frame
is whole and short; what is taken off is the front of what has arrived, and what waits for the rest
of its frame is less than the longest frame. No sum that is computed from a length on the way takes
more than 64 bits, no difference is negative, and nothing is read beyond the bytes that are
there. -/
theorem hostile_stream_bounded {max : Nat} (hmax : max ≤ 2 ^ 32) (steps : List ReaderStep) :
    let r := run { max := max } steps
    (∀ f ∈ r.frames, f.payload.length ≤ max ∧
      (f.opcode.isControl = true → f.fin = true ∧ f.payload.length ≤ 125)) ∧
    (∀ opcode buffer, r.assembler.pending = some (opcode, buffer) → buffer.length ≤ max) ∧
    (∀ s, .text s ∈ r.messages → Text.byteLength s ≤ max) ∧
    (∀ payload, .binary payload ∈ r.messages → payload.length ≤ max) ∧
    (∃ used, ReaderStep.stream steps = used ++ r.buffer ∧
      (r.frames.map (·.payload.length)).sum ≤ used.length) ∧
    (∀ f rest, Frame.decode max r.buffer = .frame f rest → ∃ head, r.buffer = head ++ rest) ∧
    (Frame.decode max r.buffer = .more → r.buffer.length < max + 14) ∧
    runChecked { max := max } steps = some r := by
  intro r
  have h := within_run max steps
  have hd := Frame.decode_bounded max r.buffer
  refine ⟨fun f hf => ⟨(h.frames f hf).size_le, (h.frames f hf).control⟩, h.assembler.pending_le,
    fun s hs => h.messages _ hs, fun payload hp => h.messages _ hp, h.used, ?_, ?_,
    runChecked_eq max hmax steps⟩
  · intro f rest hdecode
    rw [hdecode] at hd
    obtain ⟨-, head, hbuffer, -⟩ := hd
    exact ⟨head, hbuffer⟩
  · intro hdecode
    rw [hdecode] at hd
    exact hd

/-- A text in two fragments of eight bytes together, with the second one cut short at first, and
the greatest length that a header can announce. -/
def hostileSteps : List ReaderStep :=
  [.arrive [0x01, 5, 0x61, 0x62, 0x63, 0x64, 0x65, 0x80], .take, .take,
    .arrive [3, 0x66, 0x67, 0x68, 0x82, 0x7F], .take, .take, .arrive (List.replicate 8 0xFF), .take]

theorem hostile_stream_bounded_length :
    let r := run { max := 8 } hostileSteps
    8 ≤ 2 ^ 32 ∧ r.messages = [.text "abcdefgh"] ∧ Text.byteLength "abcdefgh" ≤ 8 ∧
      r.fault = some (.tooLarge (2 ^ 64 - 1) 8) ∧ r.buffer.length = 10 ∧
      (∃ used, ReaderStep.stream hostileSteps = used ++ r.buffer) ∧
      runChecked { max := 8 } hostileSteps = some r := by
  intro r
  have hmax : 8 ≤ 2 ^ 32 := by decide
  have hmessages : r.messages = [.text "abcdefgh"] := by decide +kernel
  obtain ⟨-, -, htext, -, ⟨used, hused, -⟩, -, -, hchecked⟩ :=
    hostile_stream_bounded hmax hostileSteps
  have hmem : .text "abcdefgh" ∈ r.messages := by
    rw [hmessages]
    exact List.mem_singleton_self _
  exact ⟨hmax, hmessages, htext _ hmem, by decide +kernel, by decide +kernel, ⟨used, hused⟩,
    hchecked⟩

end FrameReader

end VenueGateway
