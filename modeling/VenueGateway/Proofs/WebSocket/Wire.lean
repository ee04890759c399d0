import Mathlib.Algebra.Group.Nat.Defs
import VenueGateway.Proofs.WebSocket.Decoding

namespace VenueGateway

namespace Frame

theorem length_bytesOfNat (width n : Nat) : (bytesOfNat width n).length = width := by
  simp [bytesOfNat]

theorem bytesOfNat_succ (width n : Nat) :
    bytesOfNat (width + 1) n = bytesOfNat width (n / 256) ++ [n.toUInt8] := by
  unfold bytesOfNat
  rw [List.range_succ, List.map_append]
  congr 1
  · apply List.map_congr_left
    intro i hi
    have hlt : i < width := List.mem_range.mp hi
    have hpow : width + 1 - 1 - i = width - 1 - i + 1 := by omega
    show (n / 256 ^ (width + 1 - 1 - i)).toUInt8 = (n / 256 / 256 ^ (width - 1 - i)).toUInt8
    rw [hpow, Nat.div_div_eq_div_mul, Nat.pow_succ, Nat.mul_comm]
  · simp

theorem bigEndian_concat (bytes : Bytes) (b : UInt8) :
    bigEndian (bytes ++ [b]) = 256 * bigEndian bytes + b.toNat := by
  simp [bigEndian, List.foldl_append]

theorem bigEndian_bytesOfNat (width n : Nat) (h : n < 256 ^ width) :
    bigEndian (bytesOfNat width n) = n := by
  induction width generalizing n with
  | zero =>
    have hn : n = 0 := by omega
    rw [hn]
    rfl
  | succ width ih =>
    have hdiv : n / 256 < 256 ^ width := by
      rw [Nat.pow_succ] at h
      omega
    have hlow : n.toUInt8.toNat = n % 256 := by simp
    rw [bytesOfNat_succ, bigEndian_concat, ih (n / 256) hdiv, hlow]
    omega

theorem length_mask (key payload : Bytes) : (mask key payload).length = payload.length := by
  simp [mask]

/-- The same key takes itself off again. -/
theorem mask_mask (key payload : Bytes) : mask key (mask key payload) = payload := by
  apply List.ext_getElem
  · rw [length_mask, length_mask]
  · intro i hi hi'
    simp only [mask, List.getElem_map, List.getElem_zipIdx, Nat.zero_add]
    rw [UInt8.xor_assoc, UInt8.xor_self, UInt8.xor_zero]

/-- The first byte tells the opcode and whether the frame is the last of its message. -/
theorem firstByte_bits (fin : Bool) (opcode : Opcode) :
    let b : UInt8 := (if fin then 0x80 else 0) ||| opcode.code
    b &&& 0x70 = 0 ∧ Opcode.ofCode? (b &&& 0x0F) = some opcode ∧ (b &&& 0x80 != 0) = fin := by
  cases fin <;> cases opcode <;> decide

/-- The second byte tells the short length and whether there is a key. -/
theorem secondByte_bits (masked : Bool) (short : UInt8) (h : short < 0x80) :
    let b : UInt8 := (if masked then 0x80 else 0) ||| short
    b &&& 0x7F = short ∧ (b &&& 0x80 != 0) = masked := by
  obtain ⟨v⟩ := short
  revert masked v
  decide +kernel

/-- The three ways to write a length, and that a reader finds the same one. -/
theorem lengthBytes_announced (n : Nat) (h : n < 2 ^ 64) :
    (lengthBytes n).1 < 0x80 ∧
      (lengthBytes n).2.length = Decoded.longSize (lengthBytes n).1 ∧
      Decoded.announced (lengthBytes n).1 (lengthBytes n).2 = n := by
  unfold lengthBytes
  by_cases hshort : n < 126
  · have hn : n.toUInt8.toNat = n := by
      simp
      omega
    -- A short length is none of the two numbers that stand for a longer one.
    have hne : ∀ b : UInt8, b.toNat ≠ n → n.toUInt8 ≠ b := by
      intro b hb he
      exact hb (he ▸ hn)
    have h126 : n.toUInt8 ≠ 126 := hne 126 (by show 126 ≠ n; omega)
    have h127 : n.toUInt8 ≠ 127 := hne 127 (by show 127 ≠ n; omega)
    have hlt : n.toUInt8 < 0x80 := by
      rw [UInt8.lt_iff_toNat_lt, hn]
      show n < 128
      omega
    rw [if_pos hshort]
    simp [Decoded.longSize, Decoded.announced, h126, h127, hn, hlt]
  · rw [if_neg hshort]
    by_cases hmiddle : n < 65536
    · rw [if_pos hmiddle]
      have hlt : (126 : UInt8) < 0x80 := by decide
      exact ⟨hlt, length_bytesOfNat 2 n, bigEndian_bytesOfNat 2 n hmiddle⟩
    · rw [if_neg hmiddle]
      have hlt : (127 : UInt8) < 0x80 := by decide
      exact ⟨hlt, length_bytesOfNat 8 n, bigEndian_bytesOfNat 8 n h⟩

abbrev MaskKey := UInt8 × UInt8 × UInt8 × UInt8

def keyBytes : Option MaskKey → Bytes
  | none => []
  | some (a, b, c, d) => [a, b, c, d]

theorem length_keyBytes (key : Option MaskKey) :
    (keyBytes key).length = Decoded.keySize key.isSome := by
  cases key <;> rfl

theorem encode_eq (f : Frame) (key : Option MaskKey) :
    f.encode key =
      ((if f.fin then 0x80 else 0) ||| f.opcode.code) ::
        ((if key.isSome then 0x80 else 0) ||| (lengthBytes f.payload.length).1) ::
        ((lengthBytes f.payload.length).2 ++ (keyBytes key ++
          Decoded.unmask key.isSome (keyBytes key) f.payload)) := by
  cases key <;> simp [encode, keyBytes, Decoded.unmask]

/-- What may be sent to a reader with this limit. -/
structure Allowed (max : Nat) (f : Frame) : Prop where
  size_le : f.payload.length ≤ max
  control : f.opcode.isControl = true → f.fin = true ∧ f.payload.length ≤ maxControlPayload

theorem Allowed.headerFault_eq_none {max : Nat} {f : Frame} (h : f.Allowed max) :
    Decoded.headerFault max f.fin f.opcode f.payload.length = none := by
  have hmax : ¬ max < f.payload.length := Nat.not_lt.mpr h.size_le
  unfold Decoded.headerFault
  cases hc : f.opcode.isControl with
  | false => simp [hmax]
  | true =>
    obtain ⟨hfin, hsize⟩ := h.control hc
    simp [hfin, hmax, Nat.not_lt.mpr hsize]

end Frame

namespace Decoded

theorem length_unmask (masked : Bool) (key payload : Bytes) :
    (unmask masked key payload).length = payload.length := by
  cases masked
  · rfl
  · exact Frame.length_mask key payload

theorem unmask_unmask (masked : Bool) (key payload : Bytes) :
    unmask masked key (unmask masked key payload) = payload := by
  cases masked
  · rfl
  · exact Frame.mask_mask key payload

theorem readPayload_unmask {masked : Bool} {key : Bytes} (hkey : key.length = keySize masked)
    (fin : Bool) (opcode : Opcode) (payload more : Bytes) :
    readPayload fin opcode masked payload.length (key ++ (unmask masked key payload ++ more)) =
      .frame ⟨fin, opcode, payload⟩ more := by
  have hlen := length_unmask masked key payload
  have henough : ¬ (key ++ (unmask masked key payload ++ more)).length <
      keySize masked + payload.length := by
    simp only [List.length_append]
    omega
  rw [readPayload_eq, if_neg henough, List.take_left' hkey, List.drop_left' hkey,
    List.take_left' hlen, List.drop_left' hlen, unmask_unmask]

end Decoded

namespace Frame

variable {max : Nat} {f : Frame}

/-- A frame that was written is read again, whatever comes behind it. -/
theorem decode_encode_of_lt (hsize : f.payload.length < 2 ^ 64) (h : f.Allowed max)
    (key : Option MaskKey) (more : Bytes) : decode max (f.encode key ++ more) = .frame f more := by
  obtain ⟨hshort, hlong, hannounced⟩ := lengthBytes_announced f.payload.length hsize
  obtain ⟨hreserved, hopcode, hfin⟩ := firstByte_bits f.fin f.opcode
  obtain ⟨hbits, hmasked⟩ := secondByte_bits key.isSome _ hshort
  rw [encode_eq, List.cons_append, List.cons_append, List.append_assoc, List.append_assoc,
    decode_of_opcode hreserved hopcode, hbits, Decoded.readLength_eq, ← hlong]
  have henough : ¬ ((lengthBytes f.payload.length).2 ++ (keyBytes key ++
      (Decoded.unmask key.isSome (keyBytes key) f.payload ++ more))).length <
        (lengthBytes f.payload.length).2.length := by
    rw [List.length_append]
    omega
  rw [if_neg henough, List.take_left, List.drop_left, hannounced]
  show decodeBody max _ _ f.opcode f.payload.length _ = _
  unfold decodeBody
  rw [hfin, hmasked, h.headerFault_eq_none]
  exact Decoded.readPayload_unmask (length_keyBytes key) f.fin f.opcode f.payload more

theorem decode_encode (hmax : max < 2 ^ 64) (h : f.Allowed max) (key : Option MaskKey)
    (more : Bytes) : decode max (f.encode key ++ more) = .frame f more :=
  decode_encode_of_lt (Nat.lt_of_le_of_lt h.size_le hmax) h key more

/-- Frames one behind the other, each with its key if it has one. -/
def encodeAll (fs : List (Frame × Option MaskKey)) : Bytes := fs.flatMap fun x => x.1.encode x.2

theorem decodeUpTo_encodeAll (hmax : max < 2 ^ 64) (fs : List (Frame × Option MaskKey))
    (h : ∀ x ∈ fs, x.1.Allowed max) (more : Bytes) :
    decodeUpTo max fs.length (encodeAll fs ++ more) = ⟨fs.map (·.1), none, more⟩ := by
  induction fs with
  | nil => rfl
  | cons x fs ih =>
    obtain ⟨hx, hfs⟩ := List.forall_mem_cons.mp h
    have hd := decode_encode hmax hx x.2 (encodeAll fs ++ more)
    show decodeUpTo max (fs.length + 1) ((x.1.encode x.2 ++ encodeAll fs) ++ more) = _
    rw [List.append_assoc]
    simp only [decodeUpTo, hd, ih hfs]
    rfl

theorem decodeAll_encodeAll (hmax : max < 2 ^ 64) (fs : List (Frame × Option MaskKey))
    (h : ∀ x ∈ fs, x.1.Allowed max) (more : Bytes) :
    decodeAll max (encodeAll fs ++ more) =
      { decodeAll max more with frames := fs.map (·.1) ++ (decodeAll max more).frames } := by
  induction fs with
  | nil => rfl
  | cons x fs ih =>
    obtain ⟨hx, hfs⟩ := List.forall_mem_cons.mp h
    have hd := decode_encode hmax hx x.2 (encodeAll fs ++ more)
    show decodeAll max ((x.1.encode x.2 ++ encodeAll fs) ++ more) = _
    rw [List.append_assoc, decodeAll_of_frame hd, ih hfs]
    rfl

/-- Frames that were written one behind the other, with or without keys, are read again as they
were, and every byte of them is used up: of further bytes behind them all are left, and a reader
that goes on reads those as if they stood alone. -/
theorem encodeAll_roundtrip (hmax : max < 2 ^ 64) (fs : List (Frame × Option MaskKey))
    (h : ∀ x ∈ fs, x.1.Allowed max) (more : Bytes) :
    decodeAll max (encodeAll fs) = ⟨fs.map (·.1), none, []⟩ ∧
    decodeUpTo max fs.length (encodeAll fs ++ more) = ⟨fs.map (·.1), none, more⟩ ∧
    decodeAll max (encodeAll fs ++ more) =
      { decodeAll max more with frames := fs.map (·.1) ++ (decodeAll max more).frames } := by
  refine ⟨?_, decodeUpTo_encodeAll hmax fs h more, decodeAll_encodeAll hmax fs h more⟩
  have hall := decodeAll_encodeAll hmax fs h []
  rw [List.append_nil] at hall
  rw [hall]
  show DecodedRun.mk (fs.map (·.1) ++ []) none [] = _
  rw [List.append_nil]

/-- A fragment with a key, one byte too long for a short length, a ping without one, and the first
byte of what comes next. -/
theorem encodeAll_roundtrip_fragment :
    let fragment : Frame := ⟨false, .text, List.replicate 126 0x61⟩
    let fs := [(fragment, some (1, 2, 3, 4)), (.ping [7], none)]
    1024 < 2 ^ 64 ∧ (∀ x ∈ fs, x.1.Allowed 1024) ∧
      decodeAll 1024 (encodeAll fs) = ⟨[fragment, .ping [7]], none, []⟩ ∧
      decodeAll 1024 (encodeAll fs ++ [0x81]) = ⟨[fragment, .ping [7]], none, [0x81]⟩ := by
  intro fragment fs
  have hmax : 1024 < 2 ^ 64 := by decide
  have hfragment : fragment.Allowed 1024 :=
    ⟨by simp [fragment], fun hc => absurd hc (by decide)⟩
  have hping : (ping [7]).Allowed 1024 := ⟨by decide, fun _ => ⟨rfl, by decide⟩⟩
  have hallowed : ∀ x ∈ fs, x.1.Allowed 1024 := by
    refine List.forall_mem_cons.mpr ⟨hfragment, ?_⟩
    intro x hx
    rw [List.mem_singleton.mp hx]
    exact hping
  obtain ⟨hall, -, hmore⟩ := encodeAll_roundtrip hmax fs hallowed [0x81]
  exact ⟨hmax, hallowed, hall, hmore⟩

end Frame

end VenueGateway
