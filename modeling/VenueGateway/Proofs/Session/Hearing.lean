import VenueGateway.Proofs.Session.Arrivals

namespace VenueGateway

open Assembler (Answer)

/-- What has come of what arrived so far. -/
structure Hearing where
  pending : PendingOrders
  records : List (Record Float) := []
  replies : List Frame := []
  ending? : Option String := none

namespace Hearing

/-- One arrival more. After the end of the connection, only orders count. -/
def hear (d : Dialect) (h : Hearing) (x : Arrival) : Hearing :=
  if h.ending?.isSome && !x.isOrder then h
  else
    let (records, pending) := d.decodeOne h.pending x
    { pending
      records := h.records ++ records
      replies := h.replies ++ ((d.reply? x).or x.echo?).toList
      ending? := h.ending?.or x.reason? }

def hearAll (d : Dialect) (h : Hearing) (xs : List Arrival) : Hearing := xs.foldl (hear d) h

variable {d : Dialect} {h : Hearing}

theorem hearAll_append (h : Hearing) (xs ys : List Arrival) :
    hearAll d h (xs ++ ys) = hearAll d (hearAll d h xs) ys :=
  List.foldl_append

theorem hear_order (h : Hearing) (number : Nat) (v : VenueRequest Float) :
    hear d h (.order number v) = { h with pending := d.noted h.pending number v } := by
  simp [hear, Arrival.isOrder, Dialect.decodeOne, Dialect.reply?, Arrival.text?, Arrival.echo?,
    Arrival.reason?]

/-- The first end stays the end. -/
theorem hearAll_broken (h : Hearing) (reason : Option String) :
    hearAll d h (reason.map .broken).toList = { h with ending? := h.ending?.or reason } := by
  obtain ⟨pending, records, replies, ending?⟩ := h
  cases reason with
  | none => simp [hearAll]
  | some reason =>
    cases ending? with
    | none => simp [hearAll, hear, Dialect.decodeOne, Dialect.toDecode?, Dialect.reply?,
        Arrival.text?, Arrival.echo?, Arrival.reason?]
    | some r => simp [hearAll, hear, Arrival.isOrder]

theorem hearAll_broken_of_ended (hh : h.ending?.isSome = true) (reason : Option String) :
    hearAll d h (reason.map .broken).toList = h := by
  obtain ⟨last, hlast⟩ := Option.isSome_iff_exists.mp hh
  rw [hearAll_broken, hlast, Option.some_or, ← hlast]

theorem hear_of_going (hh : h.ending? = none) (x : Arrival) :
    hear d h x =
      { pending := (d.decodeOne h.pending x).2
        records := h.records ++ (d.decodeOne h.pending x).1
        replies := h.replies ++ ((d.reply? x).or x.echo?).toList
        ending? := x.reason? } := by
  simp [hear, hh]

/-- Behind the end of the connection, orders are all that counts. -/
theorem hearAll_of_ended (hh : h.ending?.isSome = true) (xs : List Arrival) :
    hearAll d h xs =
      { h with pending := (d.decodeAll h.pending (xs.filter Arrival.isOrder)).2 } := by
  -- Behind the end nothing more is heard, though orders are still placed and tracked.
  induction xs generalizing h with
  | nil => rfl
  | cons x xs ih =>
    rw [hearAll, List.foldl_cons]
    cases hx : x.isOrder with
    | false =>
      have hstep : hear d h x = h := by simp [hear, hh, hx]
      rw [hstep, List.filter_cons_of_neg (by simp [hx])]
      exact ih hh
    | true =>
      obtain ⟨number, v, rfl⟩ : ∃ number v, x = .order number v := by
        cases x with
        | order number v => exact ⟨number, v, rfl⟩
        | answer | broken => cases hx
      rw [hear_order]
      exact ih (h := { h with pending := d.noted h.pending number v }) hh

/-- All that arrives, heard one by one, comes to what counts of it. -/
theorem hearAll_of_going (hh : h.ending? = none) (xs : List Arrival) :
    hearAll d h xs =
      { pending := (d.decodeAll h.pending (counted xs)).2
        records := h.records ++ (d.decodeAll h.pending (counted xs)).1
        replies := h.replies ++ ((xs.takeWhile (!·.isLast)).filterMap d.reply? ++
          ((xs.find? Arrival.isLast).bind Arrival.echo?).toList)
        ending? := xs.findSome? Arrival.reason? } := by
  -- What is pending changes with every arrival, so the induction is for all that was heard before.
  induction xs generalizing h with
  | nil =>
    obtain ⟨pending, records, replies, ending?⟩ := h
    cases hh
    simp [hearAll, counted, Dialect.decodeAll]
  | cons x xs ih =>
    rw [hearAll, List.foldl_cons, hear_of_going hh x]
    cases hreason : x.reason? with
    | none =>
      have hx : x.isLast = false := by simp [Arrival.isLast, hreason]
      have hcounted : counted (x :: xs) = x :: counted xs := by simp [counted, hx]
      have hreplies : ((x :: xs).takeWhile (!·.isLast)).filterMap d.reply? =
          (d.reply? x).toList ++ (xs.takeWhile (!·.isLast)).filterMap d.reply? := by
        rw [List.takeWhile_cons_of_pos (by simp [hx]), List.filterMap_cons]
        cases d.reply? x <;> rfl
      refine (ih rfl).trans ?_
      rw [hcounted, hreplies, List.find?_cons_of_neg (by simp [hx]),
        List.findSome?_cons_of_isNone (by simp [hreason]), Arrival.echo?_of_not_last hx]
      simp [Dialect.decodeAll]
    | some reason =>
      have hx : x.isLast = true := by simp [Arrival.isLast, hreason]
      have hcounted : counted (x :: xs) = xs.filter Arrival.isOrder := by
        simp [counted, hx, Arrival.isOrder_of_last hx]
      refine (hearAll_of_ended rfl xs).trans ?_
      rw [hcounted, List.takeWhile_cons_of_neg (by simp [hx]), List.find?_cons_of_pos hx,
        d.decodeOne_of_last hx, d.reply?_of_last hx, d.decodeAll_orders]
      simp [hreason]

/-- Answers after the end change nothing. -/
theorem hearAll_answers_of_ended (hh : h.ending?.isSome = true)
    (now : Int) (answers : List Answer) : hearAll d h (answers.map (.answer now)) = h := by
  have hnone : (answers.map (Arrival.answer now)).filter Arrival.isOrder = [] := by
    rw [List.filter_eq_nil_iff]
    intro x hx
    obtain ⟨a, _, rfl⟩ := List.mem_map.mp hx
    simp [Arrival.isOrder]
  rw [hearAll_of_ended hh, hnone]
  rfl

/-- What is heard later comes behind what has been heard. -/
theorem hearAll_eq_append (hh : h.ending? = none) (xs : List Arrival) :
    hearAll d h xs =
      { hearAll d { pending := h.pending } xs with
        records := h.records ++ (hearAll d { pending := h.pending } xs).records
        replies := h.replies ++ (hearAll d { pending := h.pending } xs).replies } := by
  rw [hearAll_of_going hh, hearAll_of_going rfl]
  simp

end Hearing

/-- A reaction is what is heard. -/
structure Reaction.Heard (r : Reaction) (h : Hearing) : Prop where
  pending : r.session.pending = h.pending
  notices : r.outputs.filterMap SessionOutput.notice? = h.records.map .record
  replies : r.outputs.filterMap SessionOutput.reply? = h.replies.map .reply
  fault : r.fault = h.ending?

namespace Session

/-- What a session has heard of one answer of the assembler. -/
def heard (s : Session) (now : Int) (a : Answer) : Hearing :=
  Hearing.hear s.dialect { pending := s.pending } (.answer now a)

theorem heard_of_text (s : Session) (now : Int) {m : Message} {text : String}
    (hm : m.text? = some text) :
    s.heard now (.ok (some m)) =
      match s.dialect.heartbeatReply? text with
      | some reply => { pending := s.pending, replies := [.text reply] }
      | none =>
        { pending := (s.dialect.decode now s.pending text).2
          records := (s.dialect.decode now s.pending text).1.getD [] } := by
  have htext : (Arrival.answer now (.ok (some m))).text? = some (now, text) := by
    simp [Arrival.text?, hm]
  have hquiet : (Arrival.answer now (.ok (some m))).reason? = none ∧
      (Arrival.answer now (.ok (some m))).echo? = none ∧
      s.dialect.reply? (.answer now (.ok (some m))) =
        (s.dialect.heartbeatReply? text).map .text := by
    cases m with
    | text | binary => exact ⟨rfl, rfl, by simp [Dialect.reply?, htext]⟩
    | ping | pong | close => cases hm
  obtain ⟨hreason, hecho, hreply⟩ := hquiet
  rw [heard, Hearing.hear_of_going rfl, hreason, hecho, hreply]
  -- A text that asks for a heartbeat is answered and not decoded; any other one is decoded.
  cases hbeat : s.dialect.heartbeatReply? text with
  | some reply => simp [Dialect.decodeOne, Dialect.toDecode?, htext, Option.filter, hbeat]
  | none => simp [Dialect.decodeOne, Dialect.toDecode?, htext, Option.filter, hbeat]

theorem receiveText_heard (s : Session) (now : Int) {m : Message} {text : String}
    (hm : m.text? = some text) :
    (s.receiveText now text).Heard (s.heard now (.ok (some m))) := by
  rw [heard_of_text s now hm]
  unfold receiveText
  cases s.dialect.heartbeatReply? text with
  | some reply => exact ⟨rfl, rfl, rfl, rfl⟩
  | none =>
    obtain ⟨records, pending⟩ := s.dialect.decode now s.pending text
    cases records with
    | none => exact ⟨rfl, rfl, rfl, rfl⟩
    | some records =>
      have hnotices : (records.map fun r => SessionOutput.notify (.record r)).filterMap
          SessionOutput.notice? = records.map .record := by
        rw [List.filterMap_map, ← List.filterMap_eq_map]
        rfl
      have hreplies : (records.map fun r => SessionOutput.notify (.record r)).filterMap
          SessionOutput.reply? = [] := by
        rw [List.filterMap_eq_nil_iff]
        intro o ho
        obtain ⟨r, _, rfl⟩ := List.mem_map.mp ho
        rfl
      exact ⟨rfl, hnotices, hreplies, rfl⟩

theorem receiveMessage_heard (s : Session) (now : Int) (m : Message) :
    (s.receiveMessage now m).Heard (s.heard now (.ok (some m))) := by
  -- Binary payloads that spell a text are handled as one; the other kinds of message carry nothing
  -- to decode.
  cases m with
  | text text => exact receiveText_heard s now (m := .text text) rfl
  | binary payload =>
    simp only [receiveMessage]
    cases htext : Text.decodeUtf8 payload with
    | some text => exact receiveText_heard s now (m := .binary payload) htext
    | none =>
      have hquiet : s.heard now (.ok (some (.binary payload))) = { pending := s.pending } := by
        simp [heard, Hearing.hear, Dialect.decodeOne, Dialect.toDecode?, Dialect.reply?,
          Arrival.text?, Arrival.reason?, Arrival.echo?, Message.text?, htext]
      rw [hquiet]
      exact ⟨rfl, rfl, rfl, rfl⟩
  | ping payload =>
    constructor <;> rfl
  | pong payload =>
    constructor <;> rfl
  | close details =>
    cases details <;> constructor <;> rfl

theorem receiveFrame_heard (s : Session) (a : Assembler) (now : Int) (f : Frame) :
    (s.receiveFrame a now f).1.Heard (s.heard now (a.push f).1) ∧
      (s.receiveFrame a now f).2 = (a.push f).2 := by
  cases hpush : a.push f with
  | mk answer a' =>
    match answer with
    | .error e =>
      simp only [receiveFrame, hpush]
      exact ⟨⟨rfl, rfl, rfl, rfl⟩, trivial⟩
    | .ok none =>
      simp only [receiveFrame, hpush]
      exact ⟨⟨rfl, rfl, rfl, rfl⟩, trivial⟩
    | .ok (some m) =>
      simp only [receiveFrame, hpush]
      have h := receiveMessage_heard { s with heartbeat := s.heartbeat.inbound } now m
      exact ⟨⟨h.pending, h.notices, h.replies, h.fault⟩, trivial⟩

theorem receiveFrames_heard (s : Session) (a : Assembler) (now : Int) (fs : List Frame) :
    (s.receiveFrames a now fs).1.Heard
        (Hearing.hearAll s.dialect { pending := s.pending } ((a.pushAll fs).1.map (.answer now))) ∧
      ((s.receiveFrames a now fs).1.fault = none →
        (s.receiveFrames a now fs).2 = (a.pushAll fs).2) := by
  induction fs generalizing s a with
  | nil => exact ⟨⟨rfl, rfl, rfl, rfl⟩, fun _ => rfl⟩
  | cons f fs ih =>
    obtain ⟨hheard, hnext⟩ := s.receiveFrame_heard a now f
    obtain ⟨⟨pending, heartbeat, hsession⟩, _⟩ := s.receiveFrame_answered a now f
    have hcons : Hearing.hearAll s.dialect { pending := s.pending }
        (((a.pushAll (f :: fs)).1).map (.answer now)) =
        (s.heard now (a.push f).1).hearAll s.dialect
          (((a.push f).2.pushAll fs).1.map (.answer now)) := rfl
    rw [hcons, receiveFrames]
    cases hfault : (s.receiveFrame a now f).1.fault with
    | some reason =>
      have hended : (s.heard now (a.push f).1).ending?.isSome = true := by
        rw [← hheard.fault, hfault]
        rfl
      rw [Hearing.hearAll_answers_of_ended hended]
      simp only [hfault, Option.isSome_some, if_true]
      exact ⟨hheard, fun h => by cases h⟩
    | none =>
      have hgoing : (s.heard now (a.push f).1).ending? = none := hheard.fault.symm.trans hfault
      obtain ⟨hrest, hlast⟩ := ih (s.receiveFrame a now f).1.session (a.push f).2
      have hdialect : (s.receiveFrame a now f).1.session.dialect = s.dialect := by rw [hsession]
      rw [hheard.pending, hdialect] at hrest
      -- The later frames are heard as if nothing had been, which then stands before them.
      rw [Hearing.hearAll_eq_append hgoing]
      simp only [hfault, Option.isSome_none, Bool.false_eq_true, if_false, hnext]
      refine ⟨⟨hrest.pending, ?_, ?_, hrest.fault⟩, hlast⟩
      · rw [List.filterMap_append, hheard.notices, hrest.notices, List.map_append]
      · rw [List.filterMap_append, hheard.replies, hrest.replies, List.map_append]

/-- A chunk is heard with all that came before it: the frames that it completes, then the fault
behind them. -/
theorem receive_heard (s : Session) {before : Bytes} (a : Assembler) (now : Int) (bytes : Bytes)
    {new : List Frame}
    (hrun : Frame.decodeAll s.config.maxFrame
        ((Frame.decodeAll s.config.maxFrame before).rest ++ bytes) =
      { Frame.decodeAll s.config.maxFrame (before ++ bytes) with frames := new }) :
    let run := Frame.decodeAll s.config.maxFrame (before ++ bytes)
    let received := s.receive ⟨(Frame.decodeAll s.config.maxFrame before).rest, a⟩ now bytes
    received.1.Heard (Hearing.hearAll s.dialect { pending := s.pending }
        ((a.pushAll new).1.map (.answer now) ++
          ((readFault s.config.maxFrame (before ++ bytes)).map .broken).toList)) ∧
      (received.1.fault = none →
        run.fault = none ∧ received.2 = ⟨run.rest, (a.pushAll new).2⟩) := by
  intro run received
  obtain ⟨hheard, hnext⟩ := s.receiveFrames_heard a now new
  have hreceived : received =
      ({ (s.receiveFrames a now new).1 with
          fault := (s.receiveFrames a now new).1.fault.or
            (readFault s.config.maxFrame (before ++ bytes)) },
        ⟨run.rest, (s.receiveFrames a now new).2⟩) := by
    simp only [received, receive, hrun, readFault, run]
  rw [hreceived, Hearing.hearAll_append, Hearing.hearAll_broken]
  refine ⟨⟨hheard.pending, hheard.notices, hheard.replies, ?_⟩, fun hnone => ?_⟩
  · rw [hheard.fault]
  · -- Where neither a frame nor the reading failed, the inbox holds the bytes behind the last whole
    -- frame.
    obtain ⟨hframes, hread⟩ := Option.or_eq_none_iff.mp hnone
    exact ⟨Option.map_eq_none_iff.mp hread, by rw [hnext hframes]⟩

end Session

end VenueGateway
