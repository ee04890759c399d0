import VenueGateway.Proofs.Session.Line
import VenueGateway.Proofs.WebSocket.Assembly
import VenueGateway.Proofs.WebSocket.Decoding

namespace VenueGateway

open Assembler (Answer)

/-- What happens to a connection as far as it bears on what is read from it. -/
inductive Inflow where
  | chunk (now : Int) (bytes : Bytes)
  | ended
  /-- An order is prepared, and what comes in may be about it. -/
  | order (number : Nat) (v : VenueRequest Float)

def Inflow.bytes : Inflow → Bytes
  | .chunk _ bytes => bytes
  | .ended | .order .. => []

def stream (es : List Inflow) : Bytes := es.flatMap Inflow.bytes

/-- What the assembler makes of a frame, with the time at which the frame is complete; or the end of
the frames; or an order between them. -/
inductive Arrival where
  | answer (now : Int) (a : Answer)
  | broken (reason : String)
  | order (number : Nat) (v : VenueRequest Float)

namespace Arrival

def answer? : Arrival → Option Answer
  | .answer _ a => some a
  | .broken _ | .order .. => none

def isOrder : Arrival → Bool
  | .order .. => true
  | .answer .. | .broken _ => false

/-- Why the connection ends here. -/
def reason? : Arrival → Option String
  | .answer _ (.ok (some (.close details))) =>
    let (code, reason) := details.getD (Session.noStatus, "")
    some (Session.closeReason code reason)
  | .answer _ (.error e) => some ("protocol error: " ++ e.message)
  | .broken reason => some reason
  | .answer _ (.ok _) | .order .. => none

def isLast (x : Arrival) : Bool := x.reason?.isSome

/-- A close is answered with its own status, and one without a status, or with the one that stands
for none, as a normal close. -/
def echo? : Arrival → Option Frame
  | .answer _ (.ok (some (.close none))) => some (.close (some 1000) "")
  | .answer _ (.ok (some (.close (some (code, _))))) =>
    some (.close (some (if code = 1005 then 1000 else code)) "")
  | .answer .. | .broken _ | .order .. => none

end Arrival

/-- What is wrong behind the frames that some bytes hold. -/
def readFault (max : Nat) (bytes : Bytes) : Option String :=
  (Frame.decodeAll max bytes).fault.map fun e => "read failed: " ++ e.message

/-- How the end of the stream is told, which may cut a frame short. -/
def streamEnd (max : Nat) (bytes : Bytes) : String :=
  Session.endOfStream ⟨(Frame.decodeAll max bytes).rest, ⟨max, none⟩⟩

/-- The answers to the frames of a stream, each at the chunk that completes its frame, with the end
of the frames and the orders in their places. -/
def arrivals (max : Nat) (before : Bytes) : List Answer → List Inflow → List Arrival
  | _, [] => []
  | answers, .chunk now bytes :: es =>
    let n := (Frame.decodeAll max (before ++ bytes)).frames.length -
      (Frame.decodeAll max before).frames.length
    (answers.take n).map (.answer now) ++
      ((readFault max (before ++ bytes)).map .broken).toList ++
        arrivals max (before ++ bytes) (answers.drop n) es
  | answers, .ended :: es =>
    .broken (streamEnd max before) :: arrivals max before answers es
  | answers, .order number v :: es => .order number v :: arrivals max before answers es

/-- The text of a message of text, or of bytes that are text. -/
def Message.text? : Message → Option String
  | .text s => some s
  | .binary payload => Text.decodeUtf8 payload
  | .ping _ | .pong _ | .close _ => none

def Arrival.text? : Arrival → Option (Int × String)
  | .answer now (.ok (some m)) => m.text?.map (now, ·)
  | .answer .. | .broken _ | .order .. => none

namespace Dialect

/-- What the peer is sent for a message: the same bytes for a ping, an answer for a heartbeat. -/
def reply? (d : Dialect) : Arrival → Option Frame
  | .answer _ (.ok (some (.ping payload))) => some (.pong payload)
  | x => (x.text?.bind fun (_, text) => d.heartbeatReply? text).map .text

/-- The text to be decoded, with its time; a heartbeat that is answered is none. -/
def toDecode? (d : Dialect) (x : Arrival) : Option (Int × String) :=
  x.text?.filter fun (_, text) => (d.heartbeatReply? text).isNone

/-- The records of one arrival, and what is pending after it. -/
def decodeOne (d : Dialect) (pending : PendingOrders) :
    Arrival → List (Record Float) × PendingOrders
  | .order number v => ([], d.noted pending number v)
  | x =>
    match d.toDecode? x with
    | none => ([], pending)
    | some (now, text) =>
      let (records, pending) := d.decode now pending text
      (records.getD [], pending)

/-- The records of all, each decoded with what is pending by then. -/
def decodeAll (d : Dialect) (pending : PendingOrders) :
    List Arrival → List (Record Float) × PendingOrders
  | [] => ([], pending)
  | x :: xs =>
    let (records, pending) := d.decodeOne pending x
    let (more, pending) := d.decodeAll pending xs
    (records ++ more, pending)

end Dialect

/-- What counts of all that arrives: what comes before the first end, and the orders behind it. -/
def counted (xs : List Arrival) : List Arrival :=
  xs.takeWhile (!·.isLast) ++ (xs.dropWhile (!·.isLast)).filter Arrival.isOrder

theorem filterMap_answer? (now : Int) (answers : List Answer) :
    (answers.map (Arrival.answer now)).filterMap Arrival.answer? = answers := by
  rw [List.filterMap_map]
  exact List.filterMap_some

/-- A chunk brings the answers to the frames that it completes. -/
theorem arrivals_chunk {max : Nat} {before bytes : Bytes} {new : List Frame}
    (hnew : (Frame.decodeAll max (before ++ bytes)).frames =
      (Frame.decodeAll max before).frames ++ new)
    {first : List Answer} (hfirst : first.length = new.length) (rest : List Answer) (now : Int)
    (es : List Inflow) :
    arrivals max before (first ++ rest) (.chunk now bytes :: es) =
      first.map (.answer now) ++ ((readFault max (before ++ bytes)).map .broken).toList ++
        arrivals max (before ++ bytes) rest es := by
  have hn : (Frame.decodeAll max (before ++ bytes)).frames.length -
      (Frame.decodeAll max before).frames.length = first.length := by
    rw [hnew, List.length_append]
    omega
  rw [arrivals, hn, List.take_left, List.drop_left]

/-- Every answer to the frames of a stream arrives once, in the order of the frames. -/
theorem arrivals_answers (max : Nat) (before : Bytes) {answers : List Answer} {es : List Inflow}
    (h : (Frame.decodeAll max (before ++ stream es)).frames.length =
      (Frame.decodeAll max before).frames.length + answers.length) :
    (arrivals max before answers es).filterMap Arrival.answer? = answers := by
  induction es generalizing before answers with
  | nil =>
    have hnil : answers = [] := by
      rw [stream, List.flatMap_nil, List.append_nil] at h
      exact List.eq_nil_of_length_eq_zero (by omega)
    rw [hnil]
    rfl
  | cons e es ih =>
    cases e with
    | ended => exact ih before h
    | order number v => exact ih before h
    | chunk now bytes =>
      obtain ⟨new, hnew, -⟩ := DecodedRun.exists_new_frames max before bytes
      obtain ⟨later, hlater, -⟩ := DecodedRun.exists_new_frames max (before ++ bytes) (stream es)
      have hall : stream (.chunk now bytes :: es) = bytes ++ stream es := rfl
      rw [hall, ← List.append_assoc, hlater, hnew] at h
      simp only [List.length_append] at h
      -- The answers part where the frames do: those to the new ones first, then the later ones.
      have hfirst : (answers.take new.length).length = new.length := by
        rw [List.length_take]
        omega
      have hlength : (Frame.decodeAll max (before ++ bytes ++ stream es)).frames.length =
          (Frame.decodeAll max (before ++ bytes)).frames.length +
            (answers.drop new.length).length := by
        rw [hlater, hnew, List.length_drop]
        simp only [List.length_append]
        omega
      have hbroken : ((readFault max (before ++ bytes)).map Arrival.broken).toList.filterMap
          Arrival.answer? = [] := by
        cases readFault max (before ++ bytes) <;> rfl
      rw [← List.take_append_drop new.length answers, arrivals_chunk hnew hfirst,
        List.filterMap_append, List.filterMap_append, filterMap_answer?, hbroken,
        ih (before ++ bytes) hlength, List.append_nil]

namespace Arrival

theorem isOrder_of_last {x : Arrival} (h : x.isLast = true) : x.isOrder = false := by
  cases x with
  | order number v => cases h
  | answer | broken => rfl

theorem text?_of_last {x : Arrival} (h : x.isLast = true) : x.text? = none := by
  match x with
  | .order .. | .broken _ | .answer _ (.error _) | .answer _ (.ok none) => rfl
  | .answer _ (.ok (some m)) =>
    cases m with
    | close details => rfl
    | text | binary | ping | pong => cases h

theorem echo?_of_not_last {x : Arrival} (h : x.isLast = false) : x.echo? = none := by
  match x with
  | .order .. | .broken _ | .answer _ (.error _) | .answer _ (.ok none) => rfl
  | .answer _ (.ok (some m)) =>
    cases m with
    | close details => cases h
    | text | binary | ping | pong => rfl

end Arrival

namespace Dialect

variable (d : Dialect)

theorem reply?_of_last {x : Arrival} (h : x.isLast = true) : d.reply? x = none := by
  unfold reply?
  split
  · cases h
  · rw [Arrival.text?_of_last h]
    rfl

theorem decodeOne_of_last {x : Arrival} (h : x.isLast = true) (pending : PendingOrders) :
    d.decodeOne pending x = ([], pending) := by
  have hnone : d.toDecode? x = none := by
    unfold toDecode?
    rw [Arrival.text?_of_last h]
    rfl
  cases x with
  | order => cases h
  | answer | broken => simp only [decodeOne, hnone]

/-- Orders give no records. -/
theorem decodeAll_orders (pending : PendingOrders) (xs : List Arrival) :
    (d.decodeAll pending (xs.filter Arrival.isOrder)).1 = [] := by
  induction xs generalizing pending with
  | nil => rfl
  | cons x xs ih =>
    cases x with
    | order number v => exact ih _
    | answer | broken => exact ih _

end Dialect

end VenueGateway
