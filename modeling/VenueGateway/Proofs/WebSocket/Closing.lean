import VenueGateway.Proofs.Text.Prefix
import VenueGateway.Proofs.WebSocket.Checked

namespace VenueGateway.Frame

theorem fitting_eq (room : Nat) (cs : List Char) :
    fitting room cs = Text.encodeChars (Text.fittingChars room cs) := by
  induction cs generalizing room with
  | nil => rfl
  | cons c cs ih =>
    rw [fitting, Text.fittingChars]
    split_ifs
    · rw [ih, Text.encodeChars_cons]
    · rfl

/-- How many bytes of a reason a close frame has room for. -/
def reasonRoom : Nat := maxControlPayload - 2

/-- The longest front of a reason that a close frame has room for. -/
def shownReason (reason : String) : String :=
  String.ofList (Text.fittingChars reasonRoom reason.toList)

theorem utf8_shownReason (reason : String) :
    Text.utf8 (shownReason reason) = fitting reasonRoom reason.toList := by
  rw [Text.utf8, shownReason, String.toList_ofList, fitting_eq]

theorem byteLength_shownReason_le (reason : String) :
    Text.byteLength (shownReason reason) ≤ reasonRoom := by
  rw [Text.byteLength, utf8_shownReason, fitting_eq]
  exact Text.length_fittingChars_le _ _

theorem shownReason_front (reason : String) :
    (shownReason reason).toList <+: reason.toList := by
  rw [shownReason, String.toList_ofList]
  exact Text.fittingChars_front _ _

theorem front_shownReason {reason p : String} (hp : p.toList <+: reason.toList)
    (hlen : Text.byteLength p ≤ reasonRoom) : p.toList <+: (shownReason reason).toList := by
  rw [shownReason, String.toList_ofList]
  exact Text.front_fittingChars hp hlen

theorem byteLength_shownReason_le_reason (reason : String) :
    Text.byteLength (shownReason reason) ≤ Text.byteLength reason :=
  Text.length_encodeChars_le_of_front (shownReason_front reason)

theorem min_le_byteLength_shownReason (reason : String) :
    min (Text.byteLength reason) reasonRoom ≤ Text.byteLength (shownReason reason) + 3 := by
  rw [Text.byteLength, Text.byteLength, utf8_shownReason, fitting_eq]
  exact Text.min_le_length_fittingChars _ _

/-- The same frame, with the search for a place to cut at and the cut itself checked. -/
def closeChecked (code : Option UInt16) (reason : String) : Option Frame :=
  match code with
  | none => some ⟨true, .close, []⟩
  | some n => do
    let stop ← Text.boundaryBelow? (Text.utf8 reason) (min (Text.byteLength reason) reasonRoom)
    let shown ← Checked.slice? (Text.utf8 reason) 0 stop
    some ⟨true, .close, (n >>> 8).toUInt8 :: n.toUInt8 :: shown⟩

theorem boundaryBelow?_reason (reason : String) :
    Text.boundaryBelow? (Text.utf8 reason) (min (Text.byteLength reason) reasonRoom) =
      some (Text.byteLength (shownReason reason)) := by
  rw [Text.byteLength, Text.byteLength, utf8_shownReason, fitting_eq]
  exact Text.boundaryBelow?_fittingChars reasonRoom reason.toList

/-- Cut where the search ends, a reason is the text that is shown of it. -/
theorem take_utf8_reason (reason : String) :
    (Text.utf8 reason).take (Text.byteLength (shownReason reason)) =
      Text.utf8 (shownReason reason) := by
  obtain ⟨behind, hbehind⟩ := Text.fittingChars_front reasonRoom reason.toList
  have hsplit : Text.utf8 reason = Text.utf8 (shownReason reason) ++ Text.encodeChars behind := by
    rw [Text.utf8, Text.utf8, shownReason, String.toList_ofList, ← Text.encodeChars_append,
      hbehind]
  rw [hsplit, Text.byteLength, List.take_left]

theorem closeChecked_eq (code : Option UInt16) (reason : String) :
    closeChecked code reason = some (close code reason) := by
  cases code with
  | none => rfl
  | some n =>
    have hstop := byteLength_shownReason_le_reason reason
    have hslice : Checked.slice? (Text.utf8 reason) 0 (Text.byteLength (shownReason reason)) =
        some (fitting reasonRoom reason.toList) := by
      rw [Checked.slice?_of_le (Nat.zero_le _) hstop, List.drop_zero, Nat.sub_zero,
        take_utf8_reason, utf8_shownReason]
    unfold closeChecked
    simp only [boundaryBelow?_reason, hslice, Option.bind_eq_bind, Option.bind_some]
    rfl

/-- The high byte and the low byte of a code make up the code. -/
theorem word_of_bytes (n : UInt16) :
    ((n >>> 8).toUInt8.toUInt16 <<< 8) ||| n.toUInt8.toUInt16 = n := by
  have hn := n.toNat_lt
  have hhigh : (n >>> 8).toUInt8.toUInt16.toNat = n.toNat / 256 := by
    have hshift : (n >>> 8).toNat = n.toNat >>> 8 := by simp
    rw [UInt8.toNat_toUInt16, UInt16.toNat_toUInt8, hshift, Nat.shiftRight_eq_div_pow]
    omega
  have hshifted : ((n >>> 8).toUInt8.toUInt16 <<< 8).toNat = (n.toNat / 256) <<< 8 := by
    have hshift : ((n >>> 8).toUInt8.toUInt16 <<< 8).toNat =
        (n >>> 8).toUInt8.toUInt16.toNat <<< 8 % 2 ^ 16 := by simp
    rw [hshift, hhigh, Nat.shiftLeft_eq]
    omega
  have hlow : n.toUInt8.toUInt16.toNat = n.toNat % 256 := by simp
  have hbyte : n.toNat % 256 < 2 ^ 8 := Nat.mod_lt _ (by decide)
  apply UInt16.toNat_inj.mp
  rw [UInt16.toNat_or, hshifted, hlow, ← Nat.shiftLeft_add_eq_or_of_lt hbyte, Nat.shiftLeft_eq]
  omega

theorem closeDetails_close (code : Option UInt16) (reason : String) :
    (close code reason).closeDetails = code.map fun n => (n, shownReason reason) := by
  cases code with
  | none => rfl
  | some n =>
    show some (((n >>> 8).toUInt8.toUInt16 <<< 8) ||| n.toUInt8.toUInt16,
      Text.decodeUtf8Lossy (fitting reasonRoom reason.toList)) = some (n, shownReason reason)
    rw [word_of_bytes, ← utf8_shownReason, Text.decodeUtf8Lossy_utf8]

theorem length_close_payload_le (code : Option UInt16) (reason : String) :
    (close code reason).payload.length ≤ maxControlPayload := by
  cases code with
  | none => exact Nat.zero_le _
  | some n =>
    have hroom := byteLength_shownReason_le reason
    rw [Text.byteLength, utf8_shownReason] at hroom
    exact Nat.add_le_add_right hroom 2

theorem close_allowed {max : Nat} (hmax : maxControlPayload ≤ max) (code : Option UInt16)
    (reason : String) : (close code reason).Allowed max := by
  have hsize := length_close_payload_le code reason
  have hfin : (close code reason).fin = true := by cases code <;> rfl
  exact ⟨hsize.trans hmax, fun _ => ⟨hfin, hsize⟩⟩

/-- A close frame is a control frame of legal size that is read again whatever its key and whatever
comes behind it, and it tells its code and the longest front of its reason that ends with a
character and takes at most 123 bytes. The search for the end of that front neither fails nor takes
more than three steps. Without a code there is no payload and nothing is told. -/
theorem close_readable (code : Option UInt16) (reason : String) :
    let f := close code reason
    let limit := min (Text.byteLength reason) 123
    ∃ stop shown,
      Text.boundaryBelow? (Text.utf8 reason) limit = some stop ∧ stop ≤ limit ∧
      limit ≤ stop + 3 ∧ (Text.utf8 reason).take stop = Text.utf8 shown ∧
      closeChecked code reason = some f ∧
      shown.toList <+: reason.toList ∧ Text.byteLength shown ≤ 123 ∧
      (∀ p : String, p.toList <+: reason.toList → Text.byteLength p ≤ 123 →
        p.toList <+: shown.toList) ∧
      f.payload.length ≤ 125 ∧ (code = none → f.payload = []) ∧
      (∀ max, 125 ≤ max → ∀ key more, decode max (f.encode key ++ more) = .frame f more) ∧
      f.closeDetails = code.map fun n => (n, shown) := by
  intro f limit
  have hroom := byteLength_shownReason_le reason
  have hreason := byteLength_shownReason_le_reason reason
  have hempty : code = none → f.payload = [] := by
    rintro rfl
    rfl
  refine ⟨Text.byteLength (shownReason reason), shownReason reason, boundaryBelow?_reason reason,
    Nat.le_min.mpr ⟨hreason, hroom⟩, min_le_byteLength_shownReason reason,
    take_utf8_reason reason, closeChecked_eq code reason, shownReason_front reason, hroom,
    fun p => front_shownReason, length_close_payload_le code reason, hempty, ?_,
    closeDetails_close code reason⟩
  intro max hmax key more
  have hsize : f.payload.length < 2 ^ 64 :=
    Nat.lt_of_le_of_lt (length_close_payload_le code reason) (by decide)
  exact decode_encode_of_lt hsize (close_allowed hmax code reason) key more

end VenueGateway.Frame
