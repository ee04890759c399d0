import VenueGateway.WebSocket.Message

namespace VenueGateway

namespace Frame

/-- What a control frame says; it does so on its own, whatever it comes between. -/
def controlMessage? (f : Frame) : Option Message :=
  match f.opcode with
  | .ping => some (.ping f.payload)
  | .pong => some (.pong f.payload)
  | .close => some (.close f.closeDetails)
  | .continuation | .text | .binary => none

end Frame

namespace Assembler

abbrev Answer := Except FrameError (Option Message)

/-- Frames one after the other, each with its answer; a fault does not keep the next one out. -/
def pushAll (a : Assembler) : List Frame → List Answer × Assembler
  | [] => ([], a)
  | f :: fs =>
    let rest := (a.push f).2.pushAll fs
    ((a.push f).1 :: rest.1, rest.2)

/-- Whether a message of text or bytes ends here, or fails. -/
def isData : Answer → Bool
  | .error _ | .ok (some (.text _)) | .ok (some (.binary _)) => true
  | .ok none | .ok (some (.ping _)) | .ok (some (.pong _)) | .ok (some (.close _)) => false

end Assembler

open Assembler (Answer)

/-- A message in fragments, the later ones each with the control frames that come in before it. -/
structure Fragmentation where
  opcode : Opcode
  first : Bytes
  later : List (List Frame × Bytes)
  carriesData : opcode = .text ∨ opcode = .binary
  areControls : ∀ x ∈ later, ∀ f ∈ x.1, f.opcode.isControl = true

namespace Fragmentation

def payload (m : Fragmentation) : Bytes := m.first ++ (m.later.map (·.2)).flatten

/-- The message in one frame. -/
def whole (m : Fragmentation) : Frame := ⟨true, m.opcode, m.payload⟩

/-- The frames after the first, each with the answer that is due to it; the last one gets the answer
to the whole message. -/
def laterExchange (answer : Answer) : List (List Frame × Bytes) → List (Frame × Answer)
  | [] => []
  | (controls, piece) :: later =>
    controls.map (fun f => (f, .ok f.controlMessage?)) ++
      (⟨later.isEmpty, .continuation, piece⟩, if later.isEmpty then answer else .ok none) ::
        laterExchange answer later

def exchange (a : Assembler) (m : Fragmentation) : List (Frame × Answer) :=
  (⟨m.later.isEmpty, m.opcode, m.first⟩,
    if m.later.isEmpty then (a.push m.whole).1 else .ok none) ::
      laterExchange (a.push m.whole).1 m.later

end Fragmentation

/-- What a peer sends: a control frame, or a message in fragments. -/
inductive Transmission where
  | control (f : Frame) (h : f.opcode.isControl = true)
  | message (m : Fragmentation)

namespace Transmission

def exchange (a : Assembler) : Transmission → List (Frame × Answer)
  | .control f _ => [(f, .ok f.controlMessage?)]
  | .message m => m.exchange a

def message? : Transmission → Option Fragmentation
  | .control .. => none
  | .message m => some m

end Transmission

namespace Assembler

variable {a : Assembler}

theorem pushAll_append (a : Assembler) (fs gs : List Frame) :
    a.pushAll (fs ++ gs) =
      ((a.pushAll fs).1 ++ ((a.pushAll fs).2.pushAll gs).1, ((a.pushAll fs).2.pushAll gs).2) := by
  induction fs generalizing a with
  | nil => rfl
  | cons f fs ih =>
    simp only [List.cons_append, pushAll, ih]

theorem length_pushAll (a : Assembler) (fs : List Frame) :
    (a.pushAll fs).1.length = fs.length := by
  induction fs generalizing a with
  | nil => rfl
  | cons f fs ih => simp only [pushAll, List.length_cons, ih]

theorem push_control (a : Assembler) {f : Frame} (h : f.opcode.isControl = true) :
    a.push f = (.ok f.controlMessage?, a) := by
  unfold push Frame.controlMessage?
  cases hf : f.opcode with
  | close | ping | pong => rfl
  | continuation | text | binary =>
    rw [hf] at h
    cases h

theorem pushAll_controls (a : Assembler) {fs : List Frame}
    (h : ∀ f ∈ fs, f.opcode.isControl = true) :
    a.pushAll fs = (fs.map fun f => .ok f.controlMessage?, a) := by
  induction fs with
  | nil => rfl
  | cons f fs ih =>
    obtain ⟨hf, hfs⟩ := List.forall_mem_cons.mp h
    simp only [pushAll, push_control a hf, ih hfs, List.map_cons]

theorem push_first {opcode : Opcode} (ha : a.pending = none)
    (ho : opcode = .text ∨ opcode = .binary) (fin : Bool) (payload : Bytes) :
    a.push ⟨fin, opcode, payload⟩ =
      if fin then ((finish opcode payload).map some, a)
      else (.ok none, { a with pending := some (opcode, payload) }) := by
  rcases ho with rfl | rfl <;> simp [push, ha]

theorem push_continuation (opcode : Opcode) {maxSize : Nat} {buffer piece : Bytes}
    (h : (buffer ++ piece).length ≤ maxSize) (fin : Bool) :
    push ⟨maxSize, some (opcode, buffer)⟩ ⟨fin, .continuation, piece⟩ =
      if fin then ((finish opcode (buffer ++ piece)).map some, ⟨maxSize, none⟩)
      else (.ok none, ⟨maxSize, some (opcode, buffer ++ piece)⟩) := by
  rw [List.length_append] at h
  simp [push, Nat.not_lt.mpr h]

end Assembler

namespace Fragmentation

open Assembler

/-- The fragments that are still to come complete what is there of the message. -/
theorem pushAll_later {maxSize : Nat} {opcode : Opcode} {buffer : Bytes}
    {later : List (List Frame × Bytes)} (hne : later ≠ [])
    (hc : ∀ x ∈ later, ∀ f ∈ x.1, f.opcode.isControl = true)
    (hsize : (buffer ++ (later.map (·.2)).flatten).length ≤ maxSize) {answer : Answer}
    (ha : answer = (finish opcode (buffer ++ (later.map (·.2)).flatten)).map some) :
    pushAll ⟨maxSize, some (opcode, buffer)⟩ ((laterExchange answer later).map (·.1)) =
      ((laterExchange answer later).map (·.2), ⟨maxSize, none⟩) := by
  induction later generalizing buffer with
  | nil => exact absurd rfl hne
  | cons x later ih =>
    obtain ⟨controls, piece⟩ := x
    obtain ⟨hx, hlater⟩ := List.forall_mem_cons.mp hc
    simp only [List.map_cons, List.flatten_cons, ← List.append_assoc] at hsize ha
    have hpiece : (buffer ++ piece).length ≤ maxSize := by
      rw [List.length_append] at hsize
      omega
    have hpush := push_continuation opcode hpiece later.isEmpty
    have hcontrols := pushAll_controls ⟨maxSize, some (opcode, buffer)⟩ hx
    simp only [laterExchange, List.map_append, List.map_map, List.map_cons, Function.comp_def,
      List.map_id', pushAll_append, hcontrols, pushAll, hpush]
    -- Only the last piece is final; until then every frame is taken in without an answer.
    cases later with
    | nil =>
      have hlast : answer = (finish opcode (buffer ++ piece)).map some := by simpa using ha
      simp [laterExchange, pushAll, hlast]
    | cons y later =>
      have hrest := ih (by simp) hlater hsize ha
      simp [hrest]

theorem push_whole {a : Assembler} (ha : a.pending = none) (m : Fragmentation) :
    a.push m.whole = ((finish m.opcode m.payload).map some, a) :=
  push_first ha m.carriesData true m.payload

theorem pushAll_exchange {a : Assembler} (ha : a.pending = none) (m : Fragmentation)
    (hsize : m.payload.length ≤ a.maxSize) :
    a.pushAll ((m.exchange a).map (·.1)) = ((m.exchange a).map (·.2), a) := by
  have hwhole : (a.push m.whole).1 = (finish m.opcode m.payload).map some :=
    congrArg (·.1) (push_whole ha m)
  have hfirst := push_first ha m.carriesData m.later.isEmpty m.first
  unfold exchange
  generalize (a.push m.whole).1 = answer at hwhole ⊢
  simp only [List.map_cons, pushAll, hfirst]
  by_cases hne : m.later = []
  · simp [hne, laterExchange, pushAll, hwhole, payload]
  · have hempty : m.later.isEmpty = false := by simpa using hne
    have hlater := pushAll_later hne m.areControls hsize hwhole
    simp only [hempty, Bool.false_eq_true, if_false, hlater, ← ha]

theorem isData_push_whole {a : Assembler} (ha : a.pending = none) (m : Fragmentation) :
    isData (a.push m.whole).1 = true := by
  rw [push_whole ha m]
  unfold finish
  rcases m.carriesData with ho | ho
  · rw [ho]
    cases Text.decodeUtf8 m.payload <;> rfl
  · rw [ho]
    rfl

theorem isData_controlMessage? (f : Frame) : isData (.ok f.controlMessage?) = false := by
  unfold Frame.controlMessage?
  cases f.opcode <;> rfl

/-- Of what is answered to the later fragments, only the last is the message. -/
theorem filter_laterExchange {answer : Answer} (h : isData answer = true)
    {later : List (List Frame × Bytes)} (hne : later ≠ []) :
    ((laterExchange answer later).map (·.2)).filter isData = [answer] := by
  induction later with
  | nil => exact absurd rfl hne
  | cons x later ih =>
    have hcontrols : ((x.1.map fun f => (f, (.ok f.controlMessage? : Answer))).map
        (·.2)).filter isData = [] := by
      simp [List.filter_eq_nil_iff, isData_controlMessage?]
    rw [laterExchange, List.map_append, List.filter_append, hcontrols]
    cases later with
    | nil => simp [laterExchange, h]
    | cons y later =>
      have hnone : isData (.ok none) = false := rfl
      simpa [hnone] using ih (by simp)

theorem filter_exchange {a : Assembler} (ha : a.pending = none) (m : Fragmentation) :
    ((m.exchange a).map (·.2)).filter isData = [(a.push m.whole).1] := by
  have h := isData_push_whole ha m
  unfold exchange
  by_cases hne : m.later = []
  · simp [hne, laterExchange, h]
  · have hempty : m.later.isEmpty = false := by simpa using hne
    have hnone : isData (.ok none) = false := rfl
    simpa [hempty, hnone] using filter_laterExchange h hne

end Fragmentation

namespace Transmission

open Assembler

variable {a : Assembler}

theorem pushAll_exchange (ha : a.pending = none) (t : Transmission)
    (hsize : ∀ m, t.message? = some m → m.payload.length ≤ a.maxSize) :
    a.pushAll ((t.exchange a).map (·.1)) = ((t.exchange a).map (·.2), a) := by
  cases t with
  | control f h => simp [exchange, pushAll, push_control a h]
  | message m => exact m.pushAll_exchange ha (hsize m rfl)

theorem filter_exchange (ha : a.pending = none) (t : Transmission) :
    ((t.exchange a).map (·.2)).filter isData =
      (t.message?.map fun m => (a.push m.whole).1).toList := by
  cases t with
  | control f h => simp [exchange, message?, Fragmentation.isData_controlMessage?]
  | message m => exact m.filter_exchange ha

theorem filter_flatMap_exchange (ha : a.pending = none) (ts : List Transmission) :
    ((ts.flatMap (·.exchange a)).map (·.2)).filter isData =
      (ts.filterMap message?).map (fun m => (a.push m.whole).1) := by
  induction ts with
  | nil => rfl
  | cons t ts ih =>
    rw [List.flatMap_cons, List.map_append, List.filter_append, filter_exchange ha t, ih]
    cases t <;> rfl

/-- To an assembler with nothing pending, messages in fragments, with control frames anywhere
between, come to what they come to in one frame each: every control frame is answered in its place,
a fragment with nothing until the last, and that one with the message, or with its fault. Nothing
stays pending, so the messages come out in order and each of them once. -/
theorem fragmentation_transparent (ha : a.pending = none) (ts : List Transmission)
    (hsize : ∀ t ∈ ts, ∀ m, t.message? = some m → m.payload.length ≤ a.maxSize) :
    a.pushAll ((ts.flatMap (·.exchange a)).map (·.1)) =
      ((ts.flatMap (·.exchange a)).map (·.2), a) ∧
    (a.pushAll ((ts.flatMap (·.exchange a)).map (·.1))).1.filter isData =
      (ts.filterMap message?).map (fun m => (a.push m.whole).1) ∧
    ∀ m : Fragmentation, a.push m.whole = ((finish m.opcode m.payload).map some, a) := by
  -- Induction along the transmissions: each leaves the assembler as it found it.
  have hall : a.pushAll ((ts.flatMap (·.exchange a)).map (·.1)) =
      ((ts.flatMap (·.exchange a)).map (·.2), a) := by
    induction ts with
    | nil => rfl
    | cons t ts ih =>
      obtain ⟨ht, hts⟩ := List.forall_mem_cons.mp hsize
      simp only [List.flatMap_cons, List.map_append, pushAll_append, pushAll_exchange ha t ht,
        ih hts]
  refine ⟨hall, ?_, fun m => m.push_whole ha⟩
  rw [hall]
  exact filter_flatMap_exchange ha ts

/-- A letter of two bytes, cut between them, with a ping and an empty fragment in between. -/
def cutLetter : Fragmentation where
  opcode := .text
  first := [0xC3]
  later := [([.ping [7]], []), ([], [0xA9])]
  carriesData := Or.inl rfl
  areControls := by decide

theorem fragmentation_transparent_letter :
    let a : Assembler := { maxSize := 2 }
    let ts : List Transmission := [.message cutLetter, .control (.pong []) rfl]
    a.pending = none ∧
      (∀ t ∈ ts, ∀ m, t.message? = some m → m.payload.length ≤ a.maxSize) ∧
      a.pushAll [⟨false, .text, [0xC3]⟩, .ping [7], ⟨false, .continuation, []⟩,
          ⟨true, .continuation, [0xA9]⟩, .pong []] =
        ([.ok none, .ok (some (.ping [7])), .ok none, .ok (some (.text "é")),
          .ok (some (.pong []))], a) := by
  intro a ts
  have hsize : ∀ t ∈ ts, ∀ m, t.message? = some m → m.payload.length ≤ a.maxSize := by
    refine List.forall_mem_cons.mpr ⟨?_, ?_⟩
    · intro m hm
      cases hm
      decide
    · intro t ht m hm
      rw [List.mem_singleton.mp ht] at hm
      cases hm
  obtain ⟨hall, -, -⟩ := fragmentation_transparent (a := a) rfl ts hsize
  exact ⟨rfl, hsize, hall⟩

end Transmission

end VenueGateway
