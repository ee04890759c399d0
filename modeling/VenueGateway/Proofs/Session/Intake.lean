import VenueGateway.Proofs.Session.Hearing

namespace VenueGateway

namespace LineAction

/-- Nobody disconnects, no write fails and the keepalive sees no timeout; what follows the end of
the connection is not asked for either. -/
def isQuiet : LineAction → Bool
  | .connect | .leave | .stop | .left | .timeOut | .fault _ | .wake => false
  | .login failure | .resend failure | .drain failure | .ping _ failure | .refresh failure =>
    failure.isNone
  | .receive _ _ failure => failure.isNone
  | _ => true

def inflow? : LineAction → Option Inflow
  | .receive now bytes _ => some (.chunk now bytes)
  | .finish => some .ended
  | .prepare number v => some (.order number v)
  | _ => none

end LineAction

namespace Line

/-- The frames of some bytes, as the session reads them. -/
def decoded (l : Line) (bytes : Bytes) : DecodedRun :=
  Frame.decodeAll l.session.config.maxFrame bytes

/-- What has been sent in reply to what came in. -/
def replies (l : Line) : List Dispatch := l.sent.filter (·.isReply)

variable {l l' : Line}

theorem replies_put (l : Line) (outputs : List SessionOutput) :
    (l.put outputs).replies = l.replies ++ outputs.filterMap SessionOutput.reply? := by
  have hall : (outputs.filterMap SessionOutput.reply?).filter (·.isReply) =
      outputs.filterMap SessionOutput.reply? := by
    rw [List.filter_eq_self]
    intro x hx
    obtain ⟨f, rfl⟩ := SessionOutput.exists_of_mem_replies hx
    rfl
  rw [replies, put, List.filter_append, hall, ← replies]

/-- A step that what comes in has no part in. -/
structure Aside (l l' : Line) : Prop where
  stage : l'.stage = l.stage
  worker : l'.worker = l.worker
  notices : l'.notices = l.notices
  replies : l'.replies = l.replies
  dialect : l'.session.dialect = l.session.dialect
  config : l'.session.config = l.session.config
  pending : l'.session.pending = l.session.pending

theorem Aside.refl (l : Line) : Aside l l := ⟨rfl, rfl, rfl, rfl, rfl, rfl, rfl⟩

theorem write_aside {d : Dispatch} (hd : d.isReply = false) (context : String)
    (h : Aside l l') : Aside l (l'.write d none context l'.stage) := by
  refine ⟨h.stage, h.worker, h.notices, ?_, h.dialect, h.config, h.pending⟩
  rw [← h.replies]
  simp [write, replies, hd]

theorem drain_aside (l : Line) : Aside l (l.drain none) := by
  unfold drain Session.dequeue?
  cases l.session.queue with
  | none => exact .refl l
  | some texts =>
    cases texts with
    | nil => exact .refl l
    | cons text texts => exact write_aside rfl _ ⟨rfl, rfl, rfl, rfl, rfl, rfl, rfl⟩

theorem ping_aside (l : Line) (elapsed : Nat) : Aside l (l.ping elapsed none) :=
  have h : Aside l { l with session := (l.session.ping elapsed).2 } :=
    ⟨rfl, rfl, rfl, rfl, rfl, rfl, rfl⟩
  write_aside rfl "write failed" h

theorem refresh_aside (l : Line) : Aside l (l.refresh none) := by
  have h : Aside l
      { l with session := { l.session with nextNumber := l.session.nextNumber + 1 } } :=
    ⟨rfl, rfl, rfl, rfl, rfl, rfl, rfl⟩
  simp only [refresh, Session.refresh_eq]
  split
  · exact h
  · exact write_aside rfl _ h

theorem change_aside (l : Line) (name : String) (action : SubscriptionAction) :
    Aside l (l.change name action) := by
  obtain ⟨changed, subscriptions, hset⟩ := l.session.changeSet_eq (Text.trim name) action
  simp only [change, hset]
  split
  · exact .refl l
  · split <;> exact ⟨rfl, rfl, rfl, rfl, rfl, rfl, rfl⟩

theorem goOn_aside (l : Line) (n : Nat) : Aside l (l.goOn n) := by
  unfold goOn
  split
  · exact .refl l
  · next c _ =>
    have h := l.next_advance c
    generalize l.next c = step at h ⊢
    cases h <;> exact ⟨rfl, rfl, rfl, rfl, rfl, rfl, rfl⟩

end Line

namespace WorkerStage

/-- Whether the worker has done with a connection, and makes no new one yet. -/
def isPast : WorkerStage → Bool
  | .off | .resting | .broken _ => true
  | .connecting | .upgraded | .greeting | .loggedIn | .replaying _ | .serving _ => false

end WorkerStage

namespace Line

variable {l l' : Line}

theorem act_aside {a : LineAction} (hs : l.stage.isPast = true ∨ ∃ inbox, l.stage = .serving inbox)
    (hquiet : a.isQuiet = true) (ha : a.inflow? = none) : Aside l (l.act a) := by
  have hfit : ∀ {stage : WorkerStage}, l.stage = stage →
      stage.isPast = true ∨ ∃ inbox, stage = .serving inbox := fun h => h ▸ hs
  have h := l.act_effect a
  generalize l.act a = l' at h ⊢
  cases h with
  | idle => exact .refl l
  | connect | leave | stop | left | timeOut | fault | wake => cases hquiet
  | failAttempt _ _ hs | establish hs | openQueue hs | login _ hs | snapshot hs | resend _ _ hs =>
    -- These belong to stages before the connection is served.
    rcases hfit hs with h | ⟨_, h⟩ <;> cases h
  | receive | finish | prepare => cases ha
  | drain failure inbox hs =>
    rw [Option.isNone_iff_eq_none.mp hquiet]
    exact drain_aside l
  | ping elapsed failure inbox hs =>
    rw [Option.isNone_iff_eq_none.mp hquiet]
    exact ping_aside l elapsed
  | refresh failure inbox hs =>
    rw [Option.isNone_iff_eq_none.mp hquiet]
    exact refresh_aside l
  | closeQueue | post | takeNumber => exact ⟨rfl, rfl, rfl, rfl, rfl, rfl, rfl⟩
  | change name action => exact change_aside l name action
  | goOn n => exact goOn_aside l n

/-- Nothing comes in on a connection that is past. -/
theorem act_past (hs : l.stage.isPast = true) (now : Int) (bytes : Bytes)
    (failure : Option (Nat × String)) :
    l.act (.receive now bytes failure) = l ∧ l.act .finish = l := by
  have hnot : ∀ inbox, l.stage ≠ .serving inbox := by
    intro inbox h
    rw [h] at hs
    cases hs
  -- Both actions do something only to a line that is serving.
  constructor
  · have h := l.act_effect (.receive now bytes failure)
    generalize l.act (.receive now bytes failure) = l' at h ⊢
    cases h with
    | idle => rfl
    | receive _ _ _ inbox h => exact absurd h (hnot inbox)
  · have h := l.act_effect .finish
    generalize l.act .finish = l' at h ⊢
    cases h with
    | idle => rfl
    | finish inbox h => exact absurd h (hnot inbox)

/-- Where a line is that has heard all up to some bytes of a stream: it serves the connection, or
has come to a stage after it. -/
structure Hears (l₀ : Line) (after : String → WorkerStage) (before : Bytes) (a : Assembler)
    (h : Hearing) (l : Line) : Prop where
  notices : l.notices = l₀.notices ++ h.records.map .record
  replies : l.replies = l₀.replies ++ h.replies.map .reply
  pending : l.session.pending = h.pending
  dialect : l.session.dialect = l₀.session.dialect
  config : l.session.config = l₀.session.config
  worker : l.worker = l₀.worker
  stage : l.stage = h.ending?.elim (.serving ⟨(l₀.decoded before).rest, a⟩) after
  going : h.ending? = none → after = .broken ∧ (l₀.decoded before).fault = none

section Hears

variable {l₀ : Line} {after : String → WorkerStage} {before : Bytes} {a : Assembler} {h : Hearing}

theorem Hears.aside (hears : Hears l₀ after before a h l) (haside : Aside l l') :
    Hears l₀ after before a h l' where
  notices := haside.notices.trans hears.notices
  replies := haside.replies.trans hears.replies
  pending := haside.pending.trans hears.pending
  dialect := haside.dialect.trans hears.dialect
  config := haside.config.trans hears.config
  worker := haside.worker.trans hears.worker
  stage := haside.stage.trans hears.stage
  going := hears.going

theorem Hears.stage_cases (hears : Hears l₀ after before a h l)
    (hafter : ∀ reason, (after reason).isPast = true) :
    (h.ending?.isSome = true ∧ l.stage.isPast = true) ∨
    (h.ending? = none ∧ l.stage = .serving ⟨(l₀.decoded before).rest, a⟩) := by
  have hstage := hears.stage
  cases hh : h.ending? with
  | none => exact .inr ⟨rfl, by rw [hstage, hh]; rfl⟩
  | some reason => exact .inl ⟨rfl, by rw [hstage, hh]; exact hafter reason⟩

theorem Hears.prepare (hears : Hears l₀ after before a h l) (number : Nat)
    (v : VenueRequest Float) :
    Hears l₀ after before a (h.hear l₀.session.dialect (.order number v)) (l.prepare number v) := by
  rw [Hearing.hear_order]
  refine ⟨hears.notices, hears.replies, ?_, hears.dialect, hears.config, hears.worker,
    hears.stage, hears.going⟩
  simp only [Line.prepare, hears.pending, hears.dialect]

theorem Hears.finish (hears : Hears l₀ after before a h l)
    (hafter : ∀ reason, (after reason).isPast = true) :
    Hears l₀ after before a
      (h.hearAll l₀.session.dialect [.broken (streamEnd l₀.session.config.maxFrame before)])
      (l.act .finish) := by
  generalize hreason : streamEnd l₀.session.config.maxFrame before = reason
  -- A line that has ended hears no more; one that goes on hears that the stream is over.
  rcases hears.stage_cases hafter with ⟨hended, hpast⟩ | ⟨hgoing, hserving⟩
  · have hsame : h.hearAll l₀.session.dialect [.broken reason] = h :=
      Hearing.hearAll_broken_of_ended hended (some reason)
    rwa [(act_past hpast 0 [] none).2, hsame]
  · obtain ⟨hbroken, -⟩ := hears.going hgoing
    have hact : l.act .finish = { l with stage := .broken reason } := by
      simp only [act, hserving, ← hreason]
      rfl
    have hhear : h.hearAll l₀.session.dialect [.broken reason] =
        { h with ending? := h.ending?.or (some reason) } := h.hearAll_broken (some reason)
    rw [hact, hhear, hgoing, Option.none_or]
    exact ⟨hears.notices, hears.replies, hears.pending, hears.dialect, hears.config, hears.worker,
      by rw [hbroken]; rfl, fun h => by cases h⟩

theorem Hears.receive (hears : Hears l₀ after before a h l)
    (hafter : ∀ reason, (after reason).isPast = true) (now : Int) {bytes : Bytes}
    {new : List Frame}
    (hrun : (l₀.decoded before).fault = none →
      l₀.decoded ((l₀.decoded before).rest ++ bytes) =
        { l₀.decoded (before ++ bytes) with frames := new }) :
    Hears l₀ after (before ++ bytes) (a.pushAll new).2
      (h.hearAll l₀.session.dialect ((a.pushAll new).1.map (.answer now) ++
        ((readFault l₀.session.config.maxFrame (before ++ bytes)).map .broken).toList))
      (l.act (.receive now bytes none)) := by
  rcases hears.stage_cases hafter with ⟨hended, hpast⟩ | ⟨hgoing, hserving⟩
  · -- The chunk is not read, and nothing is heard behind the end either.
    rw [(act_past hpast now bytes none).1, Hearing.hearAll_append,
      Hearing.hearAll_answers_of_ended hended, Hearing.hearAll_broken_of_ended hended]
    refine ⟨hears.notices, hears.replies, hears.pending, hears.dialect, hears.config,
      hears.worker, ?_, fun hnone => by simp [hnone] at hended⟩
    obtain ⟨reason, hreason⟩ := Option.isSome_iff_exists.mp hended
    rw [hears.stage, hreason]
    rfl
  · obtain ⟨hbroken, hfault⟩ := hears.going hgoing
    have hlimit : l.decoded = l₀.decoded := by
      unfold decoded
      rw [hears.config]
    rw [← hlimit] at hrun hfault
    obtain ⟨hheard, hnext⟩ := l.session.receive_heard a now bytes (hrun hfault)
    obtain ⟨⟨pending, heartbeat, hsession⟩, _⟩ := l.session.receive_answered
      ⟨(Frame.decodeAll l.session.config.maxFrame before).rest, a⟩ now bytes
    have hact : l.act (.receive now bytes none) =
        l.receive ⟨(Frame.decodeAll l.session.config.maxFrame before).rest, a⟩ now bytes none := by
      simp only [act, hserving, ← hlimit]
      rfl
    rw [hact, Hearing.hearAll_eq_append hgoing, ← hears.pending, ← hears.dialect, ← hears.config]
    simp only [Line.receive, put, Session.receiveOver]
    generalize Hearing.hearAll l.session.dialect { pending := l.session.pending } _ = g at hheard ⊢
    generalize l.session.receive _ now bytes = received at hheard hnext hsession ⊢
    refine ⟨?_, ?_, hheard.pending, ?_, ?_, hears.worker, ?_, ?_⟩
    · rw [hears.notices, hheard.notices, List.map_append, List.append_assoc]
    · refine (l.replies_put received.1.outputs).trans ?_
      rw [hears.replies, hheard.replies, List.map_append, List.append_assoc]
    · rw [hsession, hears.dialect]
    · rw [hsession, hears.config]
    · rw [hheard.fault, hbroken, ← hlimit]
      cases hending : g.ending? with
      | none =>
        rw [(hnext (hheard.fault.trans hending)).2]
        rfl
      | some reason => rfl
    · intro hending
      rw [← hlimit]
      exact ⟨hbroken, (hnext (hheard.fault.trans hending)).1⟩

theorem run_hears (hears : Hears l₀ after before a h l)
    (hafter : ∀ reason, (after reason).isPast = true) {as : List LineAction}
    (has : ∀ b ∈ as, b.isQuiet = true) {later : List Frame}
    (hlater : (l₀.decoded (before ++ stream (as.filterMap LineAction.inflow?))).frames =
      (l₀.decoded before).frames ++ later) :
    ∃ before' a', Hears l₀ after before' a'
      (h.hearAll l₀.session.dialect (arrivals l₀.session.config.maxFrame before
        (a.pushAll later).1 (as.filterMap LineAction.inflow?))) (l.run as) := by
  -- `later` are the frames to come: all of the stream but those of the bytes before. What an action
  -- brings goes from there to what is heard, and the rest is left to the induction.
  induction as generalizing l before a h later with
  | nil => exact ⟨before, a, hears⟩
  | cons b as ih =>
    obtain ⟨hb, hquiet⟩ := List.forall_mem_cons.mp has
    cases hin : b.inflow? with
    | none =>
      rw [List.filterMap_cons_none hin] at hlater ⊢
      have hstage : l.stage.isPast = true ∨ ∃ inbox, l.stage = .serving inbox := by
        rcases hears.stage_cases hafter with ⟨_, hpast⟩ | ⟨_, hserving⟩
        · exact .inl hpast
        · exact .inr ⟨_, hserving⟩
      exact ih (hears.aside (act_aside hstage hb hin)) hquiet hlater
    | some e =>
      rw [List.filterMap_cons_some hin] at hlater ⊢
      cases b with
      | receive now bytes failure =>
        cases hin
        have hwritten : failure = none := Option.isNone_iff_eq_none.mp hb
        subst hwritten
        obtain ⟨new, hnew, hrun⟩ :=
          DecodedRun.exists_new_frames l₀.session.config.maxFrame before bytes
        obtain ⟨rest, hrest, -⟩ :=
          DecodedRun.exists_new_frames l₀.session.config.maxFrame (before ++ bytes)
            (stream (as.filterMap LineAction.inflow?))
        have hsplit : later = new ++ rest := by
          have hall : stream (.chunk now bytes :: as.filterMap LineAction.inflow?) =
              bytes ++ stream (as.filterMap LineAction.inflow?) := rfl
          rw [hall, ← List.append_assoc, decoded, hrest, hnew, List.append_assoc] at hlater
          exact (List.append_cancel_left hlater).symm
        have hgo := ih (hears.receive hafter now hrun) hquiet hrest
        rw [← Hearing.hearAll_append] at hgo
        rw [hsplit, Assembler.pushAll_append, arrivals_chunk hnew (a.length_pushAll new)]
        exact hgo
      | finish =>
        cases hin
        exact ih (hears.finish hafter) hquiet hlater
      | prepare number v =>
        cases hin
        exact ih (hears.prepare number v) hquiet hlater
      | _ => cases hin

end Hears

/-- The connection is told as lost, once; and if no attempt is left, that the session gives up. -/
theorem fault_told (l : Line) (noise : Float) (reason : String) :
    (l.fault noise reason).stage.isPast = true ∧
      (l.fault noise reason).notices = l.notices ++ .disconnected reason ::
        if l.worker.policy.maxAttempts ≤ l.worker.policy.attempt
        then [.gaveUp l.worker.policy.attempt] else [] := by
  unfold fault Session.faulted
  rcases (l.session.closeQueue.enter .connecting).1.backOff_cases l.worker noise with
    ⟨hleft, millis, o, hb⟩ | ⟨hnone, o, hb⟩
  · simp only [hb, if_neg (Nat.not_le.mpr hleft)]
    exact ⟨rfl, rfl⟩
  · simp only [hb, if_pos hnone]
    exact ⟨rfl, rfl⟩

/-- Once the connection is past, nothing is told and nothing replied to any more. -/
theorem run_past (hpast : l.stage.isPast = true) {as : List LineAction}
    (has : ∀ a ∈ as, a.isQuiet = true) :
    (l.run as).notices = l.notices ∧ (l.run as).replies = l.replies := by
  -- For what has ended, the stage of the line may be any that is past, and the reason does not matter.
  have hstart : Hears l (fun _ => l.stage) [] { maxSize := l.session.config.maxFrame }
      { pending := l.session.pending, ending? := some "" } l :=
    ⟨by simp, by simp, rfl, rfl, rfl, rfl, rfl, fun h => by cases h⟩
  have hall : (l.decoded ([] ++ stream (as.filterMap LineAction.inflow?))).frames =
      [] ++ (l.decoded (stream (as.filterMap LineAction.inflow?))).frames := rfl
  obtain ⟨_, _, hears⟩ := run_hears hstart (fun _ => hpast) has hall
  rw [Hearing.hearAll_of_ended rfl] at hears
  exact ⟨by simpa using hears.notices, by simpa using hears.replies⟩

/--
On a connection that is served, whatever chunks its stream comes in, and whatever callers and timers
do meanwhile. The answers to the frames of the stream arrive each once and in order. Up to the first
close, fault or end, every text among them that is no heartbeat to be answered is decoded, and its
records are told; every ping and heartbeat is replied to; a close is echoed. Then the loss of the
connection is told once, and whatever else still comes in has no effect.
-/
theorem intake_exact {l : Line}
    (hserving : l.stage = .serving { assembler := { maxSize := l.session.config.maxFrame } })
    {as : List LineAction} (has : ∀ a ∈ as, a.isQuiet = true) :
    let d := l.session.dialect
    let max := l.session.config.maxFrame
    let es := as.filterMap LineAction.inflow?
    let answers := (Assembler.pushAll { maxSize := max } (Frame.decodeAll max (stream es)).frames).1
    let xs := arrivals max [] answers es
    let l' := l.run as
    xs.filterMap Arrival.answer? = answers ∧
    l'.notices = l.notices ++ (d.decodeAll l.session.pending (counted xs)).1.map .record ∧
    l'.session.pending = (d.decodeAll l.session.pending (counted xs)).2 ∧
    l'.replies = l.replies ++ ((xs.takeWhile (!·.isLast)).filterMap d.reply? ++
      ((xs.find? Arrival.isLast).bind Arrival.echo?).toList).map .reply ∧
    (xs.findSome? Arrival.reason? = none → ∃ inbox, l'.stage = .serving inbox) ∧
    ∀ reason, xs.findSome? Arrival.reason? = some reason → l'.stage = .broken reason ∧
      ∀ noise bs, (∀ b ∈ bs, b.isQuiet = true) →
        let lost := (l'.act (.fault noise)).run bs
        lost.replies = l'.replies ∧
        lost.notices = l'.notices ++ .disconnected reason ::
          if l.worker.policy.maxAttempts ≤ l.worker.policy.attempt
          then [.gaveUp l.worker.policy.attempt] else [] := by
  intro d max es answers xs l'
  have hstart : Hears l .broken [] { maxSize := max } { pending := l.session.pending } l :=
    ⟨by simp, by simp, rfl, rfl, rfl, rfl, hserving, fun _ => ⟨rfl, rfl⟩⟩
  have hall : (l.decoded ([] ++ stream es)).frames =
      [] ++ (Frame.decodeAll max (stream es)).frames := rfl
  -- The run is what it heard: `Hears` holds of the fresh line and every quiet action keeps it.
  obtain ⟨before, a, hears⟩ := run_hears hstart (fun _ => rfl) has hall
  rw [Hearing.hearAll_of_going rfl] at hears
  have hstage : l'.stage = (xs.findSome? Arrival.reason?).elim
      (.serving ⟨(l.decoded before).rest, a⟩) .broken := hears.stage
  refine ⟨?_, hears.notices, hears.pending, hears.replies, ?_, ?_⟩
  · refine arrivals_answers max [] ?_
    rw [Assembler.length_pushAll]
    exact (Nat.zero_add _).symm
  · intro hnone
    rw [hnone] at hstage
    exact ⟨_, hstage⟩
  · intro reason hreason
    rw [hreason] at hstage
    have hact (noise : Float) : l'.act (.fault noise) = l'.fault noise reason := by
      simp only [act, hstage, Option.elim_some]
    refine ⟨hstage, fun noise bs hbs => ?_⟩
    obtain ⟨hpast, htold⟩ := l'.fault_told noise reason
    obtain ⟨hnotices, hreplies⟩ := run_past hpast hbs
    rw [hact]
    exact ⟨hreplies, by rw [hnotices, htold, hears.worker]⟩

/-- A connection to a venue, with no attempt left should it be lost. -/
def servedLine : Line where
  session :=
    { dialect := .deribit
      channel := .private
      config := { SessionConfig.standard with attempts := 0 } }
  worker := .ofConfig { SessionConfig.standard with attempts := 0 }
  stage := .serving { assembler := { maxSize := defaultMaxFrame } }

/-- An order is rejected, in a message that comes in behind a ping and before a heartbeat; a ping
behind a close is too late. -/
def servedRun : List LineAction :=
  [.prepare 7 (.send ⟨"a", .deribit, "B", .buy, .market, 1, 0⟩),
    .receive 4 [0x89, 0x01] none,
    .receive 5 ([7] ++
      Frame.encode (.text "\x7b\"id\":7,\"error\":\x7b\"message\":\"no\"\x7d\x7d") none ++
      Frame.encode (.text
        "\x7b\"method\":\"heartbeat\",\"params\":\x7b\"type\":\"test_request\"\x7d\x7d") none ++
      Frame.encode (.close (some 1001) "") none ++ Frame.encode (.ping [8]) none) none]

theorem intake_exact_rejection :
    servedLine.stage = .serving { assembler := { maxSize := servedLine.session.config.maxFrame } } ∧
      (∀ a ∈ servedRun, a.isQuiet = true) ∧
      (servedLine.run servedRun).notices = [.record (Deribit.rejected 5 "no" ⟨"a", "B"⟩)] ∧
      (servedLine.run servedRun).replies =
        [.reply (.pong [7]), .reply (.text (Dialect.testFrame 0)), .reply (.close (some 1001) "")] ∧
      ((servedLine.run servedRun).act (.fault 0)).notices =
        [.record (Deribit.rejected 5 "no" ⟨"a", "B"⟩), .disconnected "closed by venue: 1001 ",
          .gaveUp 0] := by
  have hquiet : ∀ a ∈ servedRun, a.isQuiet = true := by simp [servedRun, LineAction.isQuiet]
  obtain ⟨-, hnotices, -, hreplies, -, hend⟩ := intake_exact (l := servedLine) rfl hquiet
  have hnotices' : (servedLine.run servedRun).notices =
      [.record (Deribit.rejected 5 "no" ⟨"a", "B"⟩)] := by
    set_option maxRecDepth 2000 in exact hnotices.trans rfl
  obtain ⟨-, hafter⟩ := hend "closed by venue: 1001 " rfl
  obtain ⟨-, htold⟩ := hafter 0 [] (by simp)
  refine ⟨rfl, hquiet, hnotices', hreplies.trans rfl, ?_⟩
  rw [hnotices'] at htold
  exact htold

/-- The status that stands for none is echoed as a normal close, also when it is given. -/
theorem echo_of_given_noStatus :
    let f : Frame := ⟨true, .close, [0x03, 0xED]⟩
    let l := servedLine.run [.receive 0 (f.encode none) none]
    f.closeDetails = some (1005, "") ∧ l.replies = [.reply (.close (some 1000) "")] ∧
      l.replies ≠ [.reply (.close (some 1005) "")] := by
  have hecho : (servedLine.run [.receive 0 (Frame.encode ⟨true, .close, [0x03, 0xED]⟩ none)
      none]).replies = [.reply (.close (some 1000) "")] := rfl
  refine ⟨rfl, hecho, ?_⟩
  rw [hecho]
  decide

end Line

end VenueGateway
