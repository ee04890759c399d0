import VenueGateway.Proofs.Session.Reaction
import VenueGateway.Session.Worker

namespace VenueGateway

/-- A request that subscribes to channels, or ends the subscription to them. -/
structure SubscriptionRequest where
  channels : List String
  action : SubscriptionAction
  number : Nat
deriving DecidableEq, Repr

/-- A text to be sent, with the request that it is, if it is one. -/
structure Letter where
  text : String
  request? : Option SubscriptionRequest := none
deriving DecidableEq, Repr

/-- A frame that has been sent, and why: for a request, or in reply to what came in. -/
structure Dispatch where
  frame : Frame
  request? : Option SubscriptionRequest := none
  isReply : Bool := false
deriving DecidableEq, Repr

def Letter.dispatch (x : Letter) : Dispatch := { frame := .text x.text, request? := x.request? }

def Dispatch.reply (f : Frame) : Dispatch := { frame := f, isReply := true }

/-- Where a caller is who has texts to send. -/
inductive CallStage where
  /-- The set of channels is changed; the state is to be looked at. -/
  | testing
  | numbering
  /-- The queue is to be fetched for the first of the letters; without letters the call is over. -/
  | posting (letters : List Letter)
  | enqueuing (connection : Nat) (letter : Letter) (rest : List Letter)
deriving DecidableEq, Repr

/-- A call, with the channel that it adds or removes. -/
structure Call where
  change? : Option (String × SubscriptionAction) := none
  stage : CallStage
deriving DecidableEq, Repr

def Call.isOver (c : Call) : Bool := c.stage == .posting []

/-- Where the worker is. -/
inductive WorkerStage where
  | off
  | connecting
  | resting
  /-- The connection is up, and has no queue yet. -/
  | upgraded
  | greeting
  | loggedIn
  | replaying (left : List Letter)
  | serving (inbox : Inbox)
  /-- The connection is given up for a reason. -/
  | broken (reason : String)

def WorkerNext.stage : WorkerNext → WorkerStage
  | .wait _ => .resting
  | .finish => .off

/-- A session in use: callers that change subscriptions and send texts, and a worker that connects,
serves the connection and connects again, the steps of all of them in any order. -/
structure Line where
  session : Session
  worker : Worker
  stage : WorkerStage := .off
  /-- What the caller who asked to connect is told. -/
  answer : Option (Except GatewayError Unit) := none
  /-- What the worker has told since it was started. -/
  notices : List SessionNotice := []
  /-- What went out on the connection, and on those before it. -/
  sent : List Dispatch := []
  earlier : List Dispatch := []
  /-- The letters whose texts are in the queue. -/
  queued : List Letter := []
  calls : List Call := []

/-- What happens next. An action that does not fit the stage of the worker has no effect. -/
inductive LineAction where
  | connect
  /-- Disconnecting takes three steps: a mark, the end of the worker, and another mark. -/
  | leave
  | stop
  | left
  | failAttempt (e : SessionError) (noise : Float)
  | establish
  | openQueue
  | login (failure : Option String)
  | snapshot
  | resend (failure : Option String)
  | receive (now : Int) (bytes : Bytes) (failure : Option (Nat × String))
  | finish
  | drain (failure : Option String)
  | ping (elapsed : Nat) (failure : Option String)
  | refresh (failure : Option String)
  | timeOut
  | closeQueue
  | fault (noise : Float)
  | wake
  | change (name : String) (action : SubscriptionAction)
  | post (text : String)
  | goOn (n : Nat)
  /-- An order takes a number first, and is prepared under it. -/
  | takeNumber
  | prepare (number : Nat) (v : VenueRequest Float)

namespace LineAction

/-- Whether it is a step of a caller who connects or disconnects. -/
def isControl : LineAction → Bool
  | .connect | .leave | .stop | .left => true
  | _ => false

/-- The channel that a call is begun for. -/
def channel? : LineAction → Option String
  | .change name _ => some (Text.trim name)
  | _ => none

end LineAction

/-- What is pending once a request to the venue is prepared. -/
def Dialect.noted (d : Dialect) (pending : PendingOrders) (number : Nat) (v : VenueRequest Float) :
    PendingOrders :=
  match d.outbound pending number v with
  | .ok (_, pending) => pending
  | .error _ => pending

namespace SessionOutput

def reply? : SessionOutput → Option Dispatch
  | .send f => some (.reply f)
  | .notify _ | .observe _ => none

theorem exists_of_mem_replies {outputs : List SessionOutput} {x : Dispatch}
    (h : x ∈ outputs.filterMap reply?) : ∃ f, x = .reply f := by
  obtain ⟨o, _, ho⟩ := List.mem_filterMap.mp h
  cases o with
  | send f => exact ⟨f, (Option.some.inj ho).symm⟩
  | notify | observe => cases ho

end SessionOutput

/--
What is left of the reaction to a frame if its answer cannot be written: the connection is over, if
it is not over anyway. A frame without an answer writes nothing.
-/
def Reaction.unanswered (r : Reaction) (error : String) : Reaction :=
  if r.outputs.any (·.reply?.isSome) then
    { r with
      outputs := r.outputs.filter (·.reply?.isNone)
      fault := r.fault.or (some ("write failed: " ++ error)) }
  else r

namespace Session

/-- Frames one after the other, of which the first one from the `n`-th on that has an answer is not
answered, since the write fails. -/
def receiveFailing (s : Session) (a : Assembler) (now : Int) (error : String) :
    Nat → List Frame → Reaction × Assembler
  | _, [] => ({ session := s }, a)
  | n, f :: fs =>
    let (r, a) := s.receiveFrame a now f
    let r := if n = 0 then r.unanswered error else r
    if r.fault.isSome then (r, a)
    else
      let (r', a) := r.session.receiveFailing a now error (n - 1) fs
      ({ r' with outputs := r.outputs ++ r'.outputs }, a)

/-- Bytes that have arrived, with the write that fails, if one does: nothing behind its frame has
any effect. -/
def receiveOver (s : Session) (inbox : Inbox) (now : Int) (bytes : Bytes) :
    Option (Nat × String) → Reaction × Inbox
  | none => s.receive inbox now bytes
  | some (n, error) =>
    let run := Frame.decodeAll s.config.maxFrame (inbox.buffer ++ bytes)
    let (r, assembler) := s.receiveFailing inbox.assembler now error n run.frames
    let fault := r.fault.or (run.fault.map fun e => "read failed: " ++ e.message)
    ({ r with fault }, ⟨run.rest, assembler⟩)

theorem Answered.unanswered {s : Session} {r : Reaction} (h : Answered s r) (error : String) :
    Answered s (r.unanswered error) := by
  unfold Reaction.unanswered
  split
  · exact ⟨h.session, fun o ho => h.outputs o (List.mem_filter.mp ho).1⟩
  · exact h

theorem receiveFailing_cons (s : Session) (a : Assembler) (now : Int) (error : String) (n : Nat)
    (f : Frame) (fs : List Frame) :
    ∃ r, (r = (s.receiveFrame a now f).1 ∨ r = (s.receiveFrame a now f).1.unanswered error) ∧
      s.receiveFailing a now error n (f :: fs) =
        if r.fault.isSome then (r, (s.receiveFrame a now f).2)
        else
          let (r', a') := r.session.receiveFailing (s.receiveFrame a now f).2 now error (n - 1) fs
          ({ r' with outputs := r.outputs ++ r'.outputs }, a') := by
  refine ⟨if n = 0 then (s.receiveFrame a now f).1.unanswered error
    else (s.receiveFrame a now f).1, ?_, rfl⟩
  split
  · exact .inr rfl
  · exact .inl rfl

theorem receiveFailing_answered (s : Session) (a : Assembler) (now : Int) (error : String) (n : Nat)
    (fs : List Frame) : Answered s (s.receiveFailing a now error n fs).1 := by
  -- Induction along the frames. A frame from the n-th on that owes an answer ends the chunk, and
  -- what the session did for it is kept.
  induction fs generalizing s a n with
  | nil => exact ⟨.refl s, by simp [receiveFailing]⟩
  | cons f fs ih =>
    have hframe := receiveFrame_answered s a now f
    obtain ⟨r, hr, hcons⟩ := s.receiveFailing_cons a now error n f fs
    have hfirst : Answered s r := by
      rcases hr with rfl | rfl
      · exact hframe
      · exact hframe.unanswered error
    rw [hcons]
    split
    · exact hfirst
    · obtain ⟨hrest, hmore⟩ := ih r.session (s.receiveFrame a now f).2 (n - 1)
      exact ⟨hfirst.session.trans hrest, List.forall_mem_append.mpr ⟨hfirst.outputs, hmore⟩⟩

theorem receiveOver_answered (s : Session) (inbox : Inbox) (now : Int) (bytes : Bytes)
    (failure : Option (Nat × String)) : Answered s (s.receiveOver inbox now bytes failure).1 := by
  cases failure with
  | none => exact receive_answered s inbox now bytes
  | some failure =>
    obtain ⟨hsession, houtputs⟩ := receiveFailing_answered s inbox.assembler now failure.2 failure.1
      (Frame.decodeAll s.config.maxFrame (inbox.buffer ++ bytes)).frames
    exact ⟨hsession, houtputs⟩

end Session

namespace Line

def put (l : Line) (outputs : List SessionOutput) : Line :=
  { l with
    notices := l.notices ++ outputs.filterMap SessionOutput.notice?
    sent := l.sent ++ outputs.filterMap SessionOutput.reply? }

/-- Writes a frame and goes on, unless the write fails. -/
def write (l : Line) (d : Dispatch) (failure : Option String) (context : String)
    (next : WorkerStage) : Line :=
  match failure with
  | none => { l with sent := l.sent ++ [d], stage := next }
  | some error => { l with stage := .broken (context ++ ": " ++ error) }

/-- A new worker, after the old one has ended. -/
def start (l : Line) : Line :=
  { l with
    session := l.session.closeQueue.beginAttempt.1
    worker := .ofConfig l.session.config
    stage := .connecting
    answer := none
    notices := []
    queued := [] }

def connect (l : Line) : Line :=
  match l.session.checkCredentials with
  | .error e => { l with answer := some (.error e) }
  | .ok _ => if l.session.state.isActive then { l with answer := some (.ok ()) } else l.start

/-- The worker is stopped, with a farewell if it serves a connection. -/
def stop (l : Line) : Line :=
  let sent :=
    match l.stage with
    | .serving _ => l.sent ++ [{ frame := Session.farewell }]
    | _ => l.sent
  { l with session := l.session.closeQueue, stage := .off, sent, queued := [] }

def failAttempt (l : Line) (e : SessionError) (noise : Float) : Line :=
  let error := l.session.connectError e
  let (next, session, worker, outputs) := l.session.attemptFailed l.worker noise error
  { l with
    session, worker
    stage := next.stage
    answer := l.answer.or (some (.error error))
    notices := l.notices ++ outputs.filterMap SessionOutput.notice? }

def establish (l : Line) : Line :=
  let (session, worker, outputs) := l.session.established l.worker
  { l with
    session, worker
    stage := .upgraded
    answer := l.answer.or (some (.ok ()))
    notices := l.notices ++ outputs.filterMap SessionOutput.notice?
    sent := []
    earlier := l.earlier ++ l.sent }

def login (l : Line) (failure : Option String) : Line :=
  let (text, session) := l.session.login
  let l := { l with session }
  match text with
  | none => { l with stage := .loggedIn }
  | some text => l.write { frame := .text text } failure "post-connect send failed" .loggedIn

def snapshot (l : Line) : Line :=
  let request := ⟨l.session.subscriptions, .subscribe, l.session.nextNumber⟩
  let (texts, session) := l.session.replay
  { l with session, stage := .replaying (texts.map fun text => ⟨text, some request⟩) }

/-- The keepalive begins; a renewal of the login without a period ends the worker without a word. -/
def serve (l : Line) : Line :=
  if l.session.config.refreshInterval.any (·.ticks = 0) then
    { l with session := l.session.closeQueue, stage := .off, queued := [] }
  else
    { l with
      session := { l.session with heartbeat := {} }
      stage := .serving { assembler := { maxSize := l.session.config.maxFrame } } }

def resend (l : Line) (failure : Option String) : List Letter → Line
  | [] => l.serve
  | letter :: left =>
    l.write letter.dispatch failure "post-connect send failed" (.replaying left)

def receive (l : Line) (inbox : Inbox) (now : Int) (bytes : Bytes)
    (failure : Option (Nat × String)) : Line :=
  let (r, inbox) := l.session.receiveOver inbox now bytes failure
  { l.put r.outputs with session := r.session, stage := r.fault.elim (.serving inbox) .broken }

def drain (l : Line) (failure : Option String) : Line :=
  match l.session.dequeue? with
  | none => l
  | some (text, session) =>
    { l with session, queued := l.queued.tail }.write
      (Letter.dispatch ⟨text, l.queued.head?.bind Letter.request?⟩) failure "write failed" l.stage

def ping (l : Line) (elapsed : Nat) (failure : Option String) : Line :=
  let (frame, session) := l.session.ping elapsed
  { l with session }.write { frame } failure "write failed" l.stage

def refresh (l : Line) (failure : Option String) : Line :=
  let (frame, session) := l.session.refresh
  let l := { l with session }
  match frame with
  | none => l
  | some frame => l.write { frame } failure "write failed" l.stage

def closeQueue (l : Line) : Line := { l with session := l.session.closeQueue, queued := [] }

def fault (l : Line) (noise : Float) (reason : String) : Line :=
  let (next, session, worker, outputs) := l.session.faulted l.worker noise reason
  { l with
    session, worker
    stage := next.stage
    notices := l.notices ++ outputs.filterMap SessionOutput.notice?
    queued := [] }

def wake (l : Line) : Line :=
  { l with session := l.session.beginAttempt.1, stage := .connecting }

/-- A call ends at once if it names no channel or changes nothing. -/
def change (l : Line) (name : String) (action : SubscriptionAction) : Line :=
  if (Text.trim name).isEmpty then l
  else
    let (changed, session) := l.session.changeSet (Text.trim name) action
    let l := { l with session }
    if changed then { l with calls := l.calls ++ [⟨some (Text.trim name, action), .testing⟩] }
    else l

/-- A call's next step, with what it makes of the session and the queue. -/
def next (l : Line) (c : Call) : CallStage × Session × List Letter :=
  match c.stage with
  | .testing =>
    (if l.session.isConnected then .numbering else .posting [], l.session, l.queued)
  | .numbering =>
    match c.change? with
    | none => (.posting [], l.session, l.queued)
    | some (name, action) =>
      let request := ⟨[name], action, l.session.nextNumber⟩
      let (texts, session) := l.session.changeTexts name action
      (.posting (texts.map fun text => ⟨text, some request⟩), session, l.queued)
  | .posting [] => (c.stage, l.session, l.queued)
  | .posting (letter :: rest) =>
    match l.session.openQueue? with
    | none => (.posting rest, l.session, l.queued)
    | some connection => (.enqueuing connection letter rest, l.session, l.queued)
  | .enqueuing connection letter rest =>
    match l.session.enqueue connection letter.text with
    | .queued session => (.posting rest, session, l.queued ++ [letter])
    | .full => (c.stage, l.session, l.queued)
    | .gone => (.posting rest, l.session, l.queued)

def follow (l : Line) (n : Nat) (c : Call) (step : CallStage × Session × List Letter) : Line :=
  { l with
    session := step.2.1
    queued := step.2.2
    calls := l.calls.set n { c with stage := step.1 } }

def goOn (l : Line) (n : Nat) : Line :=
  match l.calls[n]? with
  | none => l
  | some c => l.follow n c (l.next c)

def prepare (l : Line) (number : Nat) (v : VenueRequest Float) : Line :=
  { l with
    session := { l.session with pending := l.session.dialect.noted l.session.pending number v } }

def act (l : Line) (a : LineAction) : Line :=
  match a, l.stage with
  | .connect, _ => l.connect
  | .leave, _ =>
    if l.session.state = .disconnected then l
    else { l with session := (l.session.enter .disconnecting).1 }
  | .stop, _ => l.stop
  | .left, _ => { l with session := (l.session.enter .disconnected).1 }
  | .failAttempt e noise, .connecting => l.failAttempt e noise
  | .establish, .connecting => l.establish
  | .openQueue, .upgraded => { l with session := l.session.openQueue, stage := .greeting }
  | .login failure, .greeting => l.login failure
  | .snapshot, .loggedIn => l.snapshot
  | .resend failure, .replaying left => l.resend failure left
  | .receive now bytes failure, .serving inbox => l.receive inbox now bytes failure
  | .finish, .serving inbox => { l with stage := .broken (Session.endOfStream inbox) }
  | .drain failure, .serving _ => l.drain failure
  | .ping elapsed failure, .serving _ => l.ping elapsed failure
  | .refresh failure, .serving _ => l.refresh failure
  | .timeOut, .serving _ => { l with stage := .broken "keepalive timeout" }
  | .closeQueue, .broken _ => l.closeQueue
  | .fault noise, .broken reason => l.fault noise reason
  | .wake, .resting => l.wake
  | .change name action, _ => l.change name action
  | .post text, _ => { l with calls := l.calls ++ [⟨none, .posting [⟨text, none⟩]⟩] }
  | .goOn n, _ => l.goOn n
  | .takeNumber, _ => { l with session := l.session.takeNumber.2 }
  | .prepare number v, _ => l.prepare number v
  | _, _ => l

/-- Every action with what comes of it, at the stage that it fits. -/
inductive Effect (l : Line) : LineAction → Line → Prop
  | idle (a : LineAction) : Effect l a l
  | connect : Effect l .connect l.connect
  | leave : Effect l .leave { l with session := (l.session.enter .disconnecting).1 }
  | stop : Effect l .stop l.stop
  | left : Effect l .left { l with session := (l.session.enter .disconnected).1 }
  | failAttempt (e : SessionError) (noise : Float) (hs : l.stage = .connecting) :
      Effect l (.failAttempt e noise) (l.failAttempt e noise)
  | establish (hs : l.stage = .connecting) : Effect l .establish l.establish
  | openQueue (hs : l.stage = .upgraded) :
      Effect l .openQueue { l with session := l.session.openQueue, stage := .greeting }
  | login (failure : Option String) (hs : l.stage = .greeting) :
      Effect l (.login failure) (l.login failure)
  | snapshot (hs : l.stage = .loggedIn) : Effect l .snapshot l.snapshot
  | resend (failure : Option String) (left : List Letter) (hs : l.stage = .replaying left) :
      Effect l (.resend failure) (l.resend failure left)
  | receive (now : Int) (bytes : Bytes) (failure : Option (Nat × String)) (inbox : Inbox)
      (hs : l.stage = .serving inbox) :
      Effect l (.receive now bytes failure) (l.receive inbox now bytes failure)
  | finish (inbox : Inbox) (hs : l.stage = .serving inbox) :
      Effect l .finish { l with stage := .broken (Session.endOfStream inbox) }
  | drain (failure : Option String) (inbox : Inbox) (hs : l.stage = .serving inbox) :
      Effect l (.drain failure) (l.drain failure)
  | ping (elapsed : Nat) (failure : Option String) (inbox : Inbox) (hs : l.stage = .serving inbox) :
      Effect l (.ping elapsed failure) (l.ping elapsed failure)
  | refresh (failure : Option String) (inbox : Inbox) (hs : l.stage = .serving inbox) :
      Effect l (.refresh failure) (l.refresh failure)
  | timeOut (inbox : Inbox) (hs : l.stage = .serving inbox) :
      Effect l .timeOut { l with stage := .broken "keepalive timeout" }
  | closeQueue (reason : String) (hs : l.stage = .broken reason) :
      Effect l .closeQueue l.closeQueue
  | fault (noise : Float) (reason : String) (hs : l.stage = .broken reason) :
      Effect l (.fault noise) (l.fault noise reason)
  | wake (hs : l.stage = .resting) : Effect l .wake l.wake
  | change (name : String) (action : SubscriptionAction) :
      Effect l (.change name action) (l.change name action)
  | post (text : String) :
      Effect l (.post text) { l with calls := l.calls ++ [⟨none, .posting [⟨text, none⟩]⟩] }
  | goOn (n : Nat) : Effect l (.goOn n) (l.goOn n)
  | takeNumber : Effect l .takeNumber { l with session := l.session.takeNumber.2 }
  | prepare (number : Nat) (v : VenueRequest Float) :
      Effect l (.prepare number v) (l.prepare number v)

theorem act_effect (l : Line) (a : LineAction) : Effect l a (l.act a) := by
  unfold act
  split
  case h_2 =>
    split
    · exact .idle _
    · exact .leave
  case h_25 => exact .idle _
  all_goals constructor <;> assumption

def run (l : Line) (as : List LineAction) : Line := as.foldl act l

theorem run_append (l : Line) (as bs : List LineAction) : l.run (as ++ bs) = (l.run as).run bs :=
  List.foldl_append

theorem run_concat (l : Line) (as : List LineAction) (a : LineAction) :
    l.run (as ++ [a]) = (l.run as).act a := by
  rw [run_append]
  rfl

end Line

namespace Session

theorem login_eq (s : Session) :
    s.login = (s.dialect.loginFrame? s.credentials s.channel s.nextNumber,
      { s with nextNumber := s.nextNumber + 1 }) := rfl

theorem refresh_eq (s : Session) :
    s.refresh = ((s.dialect.authFrame? s.credentials s.nextNumber).map Frame.text,
      { s with nextNumber := s.nextNumber + 1 }) := rfl

theorem changeSet_eq (s : Session) (name : String) (action : SubscriptionAction) :
    ∃ changed subscriptions, s.changeSet name action = (changed, { s with subscriptions }) := by
  cases action <;> exact ⟨_, _, rfl⟩

theorem enqueue_cases (s : Session) (connection : Nat) (text : String) :
    (∃ texts, s.queue = some texts ∧ s.connections = connection ∧
      (s.enqueue connection text = .full ∨
        s.enqueue connection text = .queued { s with queue := some (texts ++ [text]) })) ∨
    ((s.queue = none ∨ s.connections ≠ connection) ∧ s.enqueue connection text = .gone) := by
  unfold enqueue
  cases hq : s.queue with
  | none => exact .inr ⟨.inl rfl, rfl⟩
  | some texts =>
    by_cases hc : s.connections = connection
    · refine .inl ⟨texts, rfl, hc, ?_⟩
      simp only [hc, ne_eq, not_true_eq_false, if_false]
      split
      · exact .inl rfl
      · exact .inr rfl
    · refine .inr ⟨.inr hc, ?_⟩
      simp only [ne_eq, hc, not_false_eq_true, if_true]

theorem backOff_cases (s : Session) (w : Worker) (noise : Float) :
    (w.policy.attempt < w.policy.maxAttempts ∧ ∃ millis o,
      s.backOff w noise = (.wait millis, s,
        { w with policy := { w.policy with attempt := w.policy.attempt + 1 } }, [.observe o])) ∨
    (w.policy.maxAttempts ≤ w.policy.attempt ∧ ∃ o,
      s.backOff w noise = (.finish, { s with state := .error }, w,
        [.observe o, .notify (.gaveUp w.policy.attempt)])) := by
  unfold backOff ReconnectPolicy.next
  by_cases h : w.policy.maxAttempts ≤ w.policy.attempt
  · right
    rw [if_pos h]
    exact ⟨h, _, rfl⟩
  · left
    rw [if_neg h]
    exact ⟨Nat.lt_of_not_le h, _, _, rfl⟩

theorem attemptFailed_session (s : Session) (w : Worker) (noise : Float) (e : GatewayError) :
    (s.attemptFailed w noise e).2.1 = { s with state := .error } := by
  unfold attemptFailed
  rcases (s.enter .error).1.backOff_cases w noise with ⟨_, _, _, hb⟩ | ⟨_, _, hb⟩ <;>
    simp only [hb] <;> split <;> rfl

theorem faulted_session (s : Session) (w : Worker) (noise : Float) (reason : String) :
    ∃ state, (s.faulted w noise reason).2.1 = { s.closeQueue with state } := by
  unfold faulted
  rcases (s.closeQueue.enter .connecting).1.backOff_cases w noise with
    ⟨_, _, _, hb⟩ | ⟨_, _, hb⟩
  · exact ⟨.connecting, by simp only [hb]; rfl⟩
  · exact ⟨.error, by simp only [hb]; rfl⟩

end Session

namespace Line

/-- All that the next step of a call can be. -/
inductive Advance (l : Line) (c : Call) :
    CallStage × Session × List Letter → Prop
  | wait : Advance l c (c.stage, l.session, l.queued)
  | test (h : c.stage = .testing) :
      Advance l c (if l.session.isConnected then .numbering else .posting [], l.session, l.queued)
  | number (name : String) (action : SubscriptionAction) (h : c.stage = .numbering)
      (hc : c.change? = some (name, action)) :
      Advance l c
        (.posting ((l.session.dialect.subscriptionFrames [name] action l.session.nextNumber).map
            fun text => ⟨text, some ⟨[name], action, l.session.nextNumber⟩⟩),
          { l.session with nextNumber := l.session.nextNumber + 1 }, l.queued)
  | idle (h : c.stage = .numbering) (hc : c.change? = none) :
      Advance l c (.posting [], l.session, l.queued)
  | fetch (letter : Letter) (rest : List Letter) (h : c.stage = .posting (letter :: rest))
      (hq : l.session.queue ≠ none) :
      Advance l c (.enqueuing l.session.connections letter rest, l.session, l.queued)
  | miss (letter : Letter) (rest : List Letter) (h : c.stage = .posting (letter :: rest))
      (hq : l.session.queue = none) : Advance l c (.posting rest, l.session, l.queued)
  | enqueue (letter : Letter) (rest : List Letter) (texts : List String)
      (h : c.stage = .enqueuing l.session.connections letter rest)
      (hq : l.session.queue = some texts) :
      Advance l c (.posting rest, { l.session with queue := some (texts ++ [letter.text]) },
        l.queued ++ [letter])
  | lose (connection : Nat) (letter : Letter) (rest : List Letter)
      (h : c.stage = .enqueuing connection letter rest)
      (hq : l.session.queue = none ∨ l.session.connections ≠ connection) :
      Advance l c (.posting rest, l.session, l.queued)

theorem next_advance (l : Line) (c : Call) : Advance l c (l.next c) := by
  -- A call tests, takes its number, looks for the queue and puts its letters in one by one; one
  -- case for each place it may stand at.
  unfold next
  split
  · next h => exact .test h
  · next h =>
    split
    · next hc => exact .idle h hc
    · next name action hc => exact .number name action h hc
  · exact .wait
  · next letter rest h =>
    unfold Session.openQueue?
    cases hq : l.session.queue with
    | none => exact .miss letter rest h hq
    | some texts => exact .fetch letter rest h (by simp [hq])
  · next connection letter rest h =>
    rcases l.session.enqueue_cases connection letter.text with
      ⟨texts, hq, rfl, hfull | hqueued⟩ | ⟨hgone, he⟩
    · rw [hfull]
      exact .wait
    · rw [hqueued]
      exact .enqueue letter rest texts h hq
    · rw [he]
      exact .lose connection letter rest h hgone

end Line

end VenueGateway
