import VenueGateway.WebSocket.Codec

namespace VenueGateway

namespace Decoded

/-- The same outcome with further bytes behind those that it was read from. -/
def append (bytes : Bytes) : Decoded → Decoded
  | .more => .more
  | .frame f rest => .frame f (rest ++ bytes)
  | .fault e => .fault e

/-- How many bytes a longer length takes. -/
def longSize (bits : UInt8) : Nat := if bits = 126 then 2 else if bits = 127 then 8 else 0

/-- The length that a header announces, given the bytes of a longer one. -/
def announced (bits : UInt8) (long : Bytes) : Nat :=
  if longSize bits = 0 then bits.toNat else Frame.bigEndian long

theorem readLength_eq (bits : UInt8) (bytes : Bytes) :
    readLength bits bytes =
      if bytes.length < longSize bits then none
      else some (announced bits (bytes.take (longSize bits)), bytes.drop (longSize bits)) := by
  unfold readLength announced longSize
  by_cases h126 : bits = 126
  · simp [h126]
  · by_cases h127 : bits = 127
    · simp [h127]
    · simp [h126, h127]

def keySize (masked : Bool) : Nat := if masked then 4 else 0

def unmask (masked : Bool) (key payload : Bytes) : Bytes :=
  if masked then Frame.mask key payload else payload

theorem readPayload_eq (fin : Bool) (opcode : Opcode) (masked : Bool) (size : Nat) (bytes : Bytes) :
    readPayload fin opcode masked size bytes =
      if bytes.length < keySize masked + size then .more
      else .frame ⟨fin, opcode, unmask masked (bytes.take (keySize masked))
        ((bytes.drop (keySize masked)).take size)⟩ ((bytes.drop (keySize masked)).drop size) := by
  cases masked <;> simp [readPayload, keySize, unmask]

theorem readLength_append {bits : UInt8} {bytes rest : Bytes} {size : Nat}
    (h : readLength bits bytes = some (size, rest)) (more : Bytes) :
    readLength bits (bytes ++ more) = some (size, rest ++ more) := by
  rw [readLength_eq] at h ⊢
  by_cases hlen : bytes.length < longSize bits
  · rw [if_pos hlen] at h
    cases h
  · rw [if_neg hlen] at h
    cases h
    have hle : longSize bits ≤ bytes.length := Nat.le_of_not_lt hlen
    have hlen' : ¬ (bytes ++ more).length < longSize bits := by
      rw [List.length_append]
      omega
    rw [if_neg hlen', List.take_append_of_le_length hle, List.drop_append_of_le_length hle]

theorem readPayload_append {fin : Bool} {opcode : Opcode} {masked : Bool} {size : Nat}
    {bytes : Bytes} (h : readPayload fin opcode masked size bytes ≠ .more) (more : Bytes) :
    readPayload fin opcode masked size (bytes ++ more) =
      (readPayload fin opcode masked size bytes).append more := by
  rw [readPayload_eq] at h ⊢
  rw [readPayload_eq]
  -- A frame that is whole lies in front of what comes behind, so every cut is made in the same
  -- place.
  by_cases hlen : bytes.length < keySize masked + size
  · exact absurd (if_pos hlen) h
  · have hkey : keySize masked ≤ bytes.length := by omega
    have hsize : size ≤ (bytes.drop (keySize masked)).length := by
      rw [List.length_drop]
      omega
    have hlen' : ¬ (bytes ++ more).length < keySize masked + size := by
      rw [List.length_append]
      omega
    rw [if_neg hlen, if_neg hlen', List.take_append_of_le_length hkey,
      List.drop_append_of_le_length hkey, List.take_append_of_le_length hsize,
      List.drop_append_of_le_length hsize]
    rfl

end Decoded

namespace Frame

variable {max : Nat} {bytes rest : Bytes} {f : Frame}

/-- What a header leads to once its length is there. -/
def decodeBody (max : Nat) (b0 b1 : UInt8) (opcode : Opcode) (size : Nat) (rest : Bytes) :
    Decoded :=
  match Decoded.headerFault max (b0 &&& 0x80 != 0) opcode size with
  | some e => .fault e
  | none => Decoded.readPayload (b0 &&& 0x80 != 0) opcode (b1 &&& 0x80 != 0) size rest

theorem decode_of_opcode {b0 b1 : UInt8} {opcode : Opcode} (hr : b0 &&& 0x70 = 0)
    (ho : Opcode.ofCode? (b0 &&& 0x0F) = some opcode) (rest : Bytes) :
    decode max (b0 :: b1 :: rest) =
      match Decoded.readLength (b1 &&& 0x7F) rest with
      | none => .more
      | some (size, rest) => decodeBody max b0 b1 opcode size rest := by
  simp only [decode, hr, ho, ne_eq, not_true_eq_false, if_false]
  rfl

theorem decodeBody_append {b0 b1 : UInt8} {opcode : Opcode} {size : Nat}
    (h : decodeBody max b0 b1 opcode size rest ≠ .more) (more : Bytes) :
    decodeBody max b0 b1 opcode size (rest ++ more) =
      (decodeBody max b0 b1 opcode size rest).append more := by
  unfold decodeBody at h ⊢
  cases hf : Decoded.headerFault max (b0 &&& 0x80 != 0) opcode size with
  | some e => rfl
  | none =>
    rw [hf] at h
    exact Decoded.readPayload_append h more

/-- Bytes that come behind a frame or a fault do not change it. -/
theorem decode_append (h : decode max bytes ≠ .more) (more : Bytes) :
    decode max (bytes ++ more) = (decode max bytes).append more := by
  match bytes with
  | [] => exact absurd rfl h
  | [_] => exact absurd rfl h
  | b0 :: b1 :: rest =>
    rw [List.cons_append, List.cons_append]
    -- The checks come one after the other, and each of them reads bytes that are there already.
    by_cases hr : b0 &&& 0x70 = 0
    · cases ho : Opcode.ofCode? (b0 &&& 0x0F) with
      | none => simp [decode, hr, ho, Decoded.append]
      | some opcode =>
        rw [decode_of_opcode hr ho] at h ⊢
        rw [decode_of_opcode hr ho]
        cases hl : Decoded.readLength (b1 &&& 0x7F) rest with
        | none =>
          rw [hl] at h
          exact absurd rfl h
        | some p =>
          obtain ⟨size, rest'⟩ := p
          rw [hl] at h
          rw [Decoded.readLength_append hl]
          exact decodeBody_append h more
    · simp [decode, hr, Decoded.append]

theorem decode_append_of_frame (h : decode max bytes = .frame f rest) (more : Bytes) :
    decode max (bytes ++ more) = .frame f (rest ++ more) := by
  have hne : decode max bytes ≠ .more := by simp [h]
  rw [decode_append hne, h]
  rfl

theorem decode_append_of_fault {e : FrameError} (h : decode max bytes = .fault e) (more : Bytes) :
    decode max (bytes ++ more) = .fault e := by
  have hne : decode max bytes ≠ .more := by simp [h]
  rw [decode_append hne, h]
  rfl

theorem decodeBody_rest_le {b0 b1 : UInt8} {opcode : Opcode} {size : Nat} {rest' : Bytes}
    (h : decodeBody max b0 b1 opcode size rest = .frame f rest') :
    rest'.length ≤ rest.length := by
  unfold decodeBody at h
  cases hf : Decoded.headerFault max (b0 &&& 0x80 != 0) opcode size with
  | some e =>
    rw [hf] at h
    cases h
  | none =>
    simp only [hf, Decoded.readPayload_eq] at h
    split at h
    · cases h
    · cases h
      simp only [List.length_drop]
      omega

/-- A frame takes at least the two bytes of its header. -/
theorem decode_rest_lt (h : decode max bytes = .frame f rest) : rest.length < bytes.length := by
  match bytes with
  | [] => cases h
  | [_] => cases h
  | b0 :: b1 :: bytes =>
    by_cases hr : b0 &&& 0x70 = 0
    · cases ho : Opcode.ofCode? (b0 &&& 0x0F) with
      | none => simp [decode, hr, ho] at h
      | some opcode =>
        rw [decode_of_opcode hr ho, Decoded.readLength_eq] at h
        by_cases hlen : bytes.length < Decoded.longSize (b1 &&& 0x7F)
        · rw [if_pos hlen] at h
          cases h
        · rw [if_neg hlen] at h
          have hle := decodeBody_rest_le h
          rw [List.length_drop] at hle
          simp only [List.length_cons]
          omega
    · simp [decode, hr] at h

theorem decodeUpTo_of_more (h : decode max bytes = .more) (n : Nat) :
    decodeUpTo max n bytes = ⟨[], none, bytes⟩ := by
  cases n with
  | zero => rfl
  | succ n => simp only [decodeUpTo, h]

/-- Once there are as many rounds as bytes, more rounds make no difference. -/
theorem decodeUpTo_eq (n m : Nat) (hn : bytes.length ≤ n) (hm : bytes.length ≤ m) :
    decodeUpTo max n bytes = decodeUpTo max m bytes := by
  -- A frame uses at least two bytes, so as many rounds as bytes are never too few.
  induction n generalizing m bytes with
  | zero =>
    have hnil : bytes = [] := List.eq_nil_of_length_eq_zero (Nat.le_zero.mp hn)
    subst hnil
    rw [decodeUpTo_of_more rfl, decodeUpTo_of_more rfl]
  | succ n ih =>
    cases hd : decode max bytes with
    | more => rw [decodeUpTo_of_more hd, decodeUpTo_of_more hd]
    | fault e =>
      cases m with
      | zero =>
        rw [List.eq_nil_of_length_eq_zero (Nat.le_zero.mp hm)] at hd
        cases hd
      | succ m => simp only [decodeUpTo, hd]
    | frame f rest =>
      have hlt := decode_rest_lt hd
      cases m with
      | zero => omega
      | succ m =>
        have hrest : decodeUpTo max n rest = decodeUpTo max m rest := ih m (by omega) (by omega)
        simp only [decodeUpTo, hd, hrest]

theorem decodeAll_of_more (h : decode max bytes = .more) :
    decodeAll max bytes = ⟨[], none, bytes⟩ := decodeUpTo_of_more h _

theorem decodeAll_succ (max : Nat) (bytes : Bytes) :
    decodeAll max bytes = decodeUpTo max (bytes.length + 1) bytes :=
  decodeUpTo_eq _ _ (Nat.le_refl _) (Nat.le_succ _)

theorem decodeAll_of_fault {e : FrameError} (h : decode max bytes = .fault e) :
    decodeAll max bytes = ⟨[], some e, bytes⟩ := by
  rw [decodeAll_succ]
  simp only [decodeUpTo, h]

theorem decodeAll_of_frame (h : decode max bytes = .frame f rest) :
    decodeAll max bytes =
      { decodeAll max rest with frames := f :: (decodeAll max rest).frames } := by
  have hlt := decode_rest_lt h
  have hrest : decodeUpTo max bytes.length rest = decodeAll max rest :=
    decodeUpTo_eq _ _ (Nat.le_of_lt hlt) (Nat.le_refl _)
  rw [decodeAll_succ]
  simp only [decodeUpTo, h, hrest]

/-- The reading ends where there is no whole frame, or at a fault. -/
theorem decode_decodeAll_rest (max : Nat) (bytes : Bytes) :
    decode max (decodeAll max bytes).rest =
      match (decodeAll max bytes).fault with
      | none => .more
      | some e => .fault e := by
  -- Induction on the length of the buffer, which every frame makes shorter.
  induction h : bytes.length using Nat.strongRecOn generalizing bytes with
  | _ n ih =>
    cases hd : decode max bytes with
    | more =>
      rw [decodeAll_of_more hd]
      exact hd
    | fault e =>
      rw [decodeAll_of_fault hd]
      exact hd
    | frame f rest =>
      have hlt := decode_rest_lt hd
      rw [decodeAll_of_frame hd]
      exact ih rest.length (h ▸ hlt) rest rfl

end Frame

namespace DecodedRun

/-- Takes in one chunk more. Its bytes go behind those that were left; after a fault, nothing is
read any more. -/
def feed (max : Nat) (run : DecodedRun) (chunk : Bytes) : DecodedRun :=
  let buffer := run.rest ++ chunk
  if run.fault.isSome then { run with rest := buffer }
  else
    { Frame.decodeAll max buffer with
      frames := run.frames ++ (Frame.decodeAll max buffer).frames }

def feedAll (max : Nat) (chunks : List Bytes) : DecodedRun :=
  chunks.foldl (feed max) ⟨[], none, []⟩

theorem feed_cons (max : Nat) (f : Frame) (run : DecodedRun) (chunk : Bytes) :
    feed max { run with frames := f :: run.frames } chunk =
      { feed max run chunk with frames := f :: (feed max run chunk).frames } := by
  unfold feed
  cases run.fault <;> rfl

theorem decodeAll_append (max : Nat) (bytes chunk : Bytes) :
    Frame.decodeAll max (bytes ++ chunk) = feed max (Frame.decodeAll max bytes) chunk := by
  induction h : bytes.length using Nat.strongRecOn generalizing bytes with
  | _ n ih =>
    cases hd : Frame.decode max bytes with
    | more =>
      rw [Frame.decodeAll_of_more hd]
      rfl
    | fault e =>
      rw [Frame.decodeAll_of_fault hd,
        Frame.decodeAll_of_fault (Frame.decode_append_of_fault hd chunk)]
      rfl
    | frame f rest =>
      have hlt := Frame.decode_rest_lt hd
      rw [Frame.decodeAll_of_frame hd,
        Frame.decodeAll_of_frame (Frame.decode_append_of_frame hd chunk), feed_cons,
        ih rest.length (h ▸ hlt) rest rfl]

/-- More bytes bring more frames behind those that there were. -/
theorem exists_new_frames (max : Nat) (bytes chunk : Bytes) :
    ∃ new, (Frame.decodeAll max (bytes ++ chunk)).frames =
        (Frame.decodeAll max bytes).frames ++ new ∧
      ((Frame.decodeAll max bytes).fault = none →
        Frame.decodeAll max ((Frame.decodeAll max bytes).rest ++ chunk) =
          { Frame.decodeAll max (bytes ++ chunk) with frames := new }) := by
  rw [decodeAll_append, feed]
  cases hfault : (Frame.decodeAll max bytes).fault with
  | none => exact ⟨_, rfl, fun _ => rfl⟩
  | some e => exact ⟨[], (List.append_nil _).symm, fun h => by cases h⟩

theorem foldl_feed (max : Nat) (bytes : Bytes) (chunks : List Bytes) :
    chunks.foldl (feed max) (Frame.decodeAll max bytes) =
      Frame.decodeAll max (bytes ++ chunks.flatten) := by
  induction chunks generalizing bytes with
  | nil => rw [List.flatten_nil, List.append_nil, List.foldl_nil]
  | cons chunk chunks ih =>
    rw [List.foldl_cons, List.flatten_cons, ← decodeAll_append, ih, List.append_assoc]

/-- A stream gives the same frames, the same fault and the same bytes left over, however it is cut
into chunks. Bytes that hold no whole frame stay as they are; and nothing that comes behind a frame
or a fault changes it. -/
theorem chunking_immaterial (max : Nat) (chunks : List Bytes) :
    feedAll max chunks = Frame.decodeAll max chunks.flatten ∧
    (Frame.decode max (feedAll max chunks).rest =
      match (feedAll max chunks).fault with
      | none => .more
      | some e => .fault e) ∧
    (∀ (run : DecodedRun) (chunk : Bytes), run.fault = none →
      Frame.decode max (run.rest ++ chunk) = .more →
      feed max run chunk = { run with rest := run.rest ++ chunk }) ∧
    ∀ bytes more : Bytes, Frame.decode max bytes ≠ .more →
      Frame.decode max (bytes ++ more) = (Frame.decode max bytes).append more := by
  have hall : feedAll max chunks = Frame.decodeAll max chunks.flatten :=
    foldl_feed max [] chunks
  refine ⟨hall, ?_, ?_, fun bytes more h => Frame.decode_append h more⟩
  · rw [hall]
    exact Frame.decode_decodeAll_rest max chunks.flatten
  · intro run chunk hfault hmore
    simp [feed, hfault, Frame.decodeAll_of_more hmore]

/-- A ping and the beginning of a text of more than 125 bytes, cut within both headers; and bits
that are reserved. -/
theorem chunking_immaterial_header :
    feedAll 1024 [[0x89], [0x01, 0x61, 0x81], [0xFE, 0x00]] =
        ⟨[.ping [0x61]], none, [0x81, 0xFE, 0x00]⟩ ∧
      Frame.decode 1024 ([0x81] ++ [0xFE, 0x00]) = .more ∧
      feed 1024 ⟨[.ping [0x61]], none, [0x81]⟩ [0xFE, 0x00] =
        ⟨[.ping [0x61]], none, [0x81, 0xFE, 0x00]⟩ ∧
      Frame.decode 1024 [0xF1, 0x00] ≠ .more ∧
      Frame.decode 1024 ([0xF1, 0x00] ++ [0x05]) = .fault .reservedBits := by
  obtain ⟨hall, -, hkeep, hstable⟩ :=
    chunking_immaterial 1024 [[0x89], [0x01, 0x61, 0x81], [0xFE, 0x00]]
  have hmore : Frame.decode 1024 ([0x81] ++ [0xFE, 0x00]) = .more := by decide
  have hfault : Frame.decode 1024 [0xF1, 0x00] ≠ .more := by decide
  refine ⟨hall.trans (by decide), hmore, hkeep _ _ rfl hmore, hfault, ?_⟩
  rw [hstable _ _ hfault]
  decide

end DecodedRun

end VenueGateway
