import VenueGateway.Proofs.Session.Books

namespace VenueGateway

open SubscriptionRequest

namespace WorkerStage

def replay : WorkerStage → Replay
  | .off | .connecting | .resting => .idle
  | .upgraded => .fresh
  | .greeting | .loggedIn => .opened
  | .replaying _ | .serving _ => .begun
  | .broken _ => .away

/-- What is left of the replay. -/
def left : WorkerStage → List Letter
  | .replaying left => left
  | _ => []

end WorkerStage

namespace Line

def books (l : Line) : Books where
  dialect := l.session.dialect
  isConnected := l.session.isConnected
  subscriptions := l.session.subscriptions
  connections := l.session.connections
  queue := l.session.queue
  queued := l.queued
  replay := l.stage.replay
  written :=
    (l.sent ++ (l.stage.left ++ l.queued).map Letter.dispatch).filter (·.request?.isSome)
  calls := l.calls

variable {l : Line}

theorem sent_whole (h : l.books.Kept) : ∀ x ∈ l.sent, x.IsWhole l.session.dialect := by
  intro x hx r hr
  have hmem : x ∈ l.books.written := by
    simp only [books, List.filter_append, List.mem_append, List.mem_filter]
    exact .inl ⟨hx, by simp [hr]⟩
  exact h.whole x hmem r hr

theorem queued_whole (h : l.books.Kept) :
    ∀ x ∈ l.queued, x.dispatch.IsWhole l.session.dialect := by
  intro x hx r hr
  have hmem : x.dispatch ∈ l.books.written := by
    simp only [books, List.filter_append, List.mem_append, List.mem_filter, List.map_append]
    exact .inr (.inr ⟨List.mem_map.mpr ⟨x, hx, rfl⟩, by simp [hr]⟩)
  exact h.whole _ hmem r hr

theorem written_whole {d : Dialect} {sent : List Dispatch} (hs : ∀ x ∈ sent, x.IsWhole d)
    (letters : List Letter) (hl : ∀ x ∈ letters, x.dispatch.IsWhole d) :
    ∀ x ∈ (sent ++ letters.map Letter.dispatch).filter (·.request?.isSome), x.IsWhole d := by
  intro x hx
  rcases List.mem_append.mp (List.mem_of_mem_filter hx) with hx | hx
  · exact hs x hx
  · obtain ⟨y, hy, rfl⟩ := List.mem_map.mp hx
    exact hl y hy

/-- The worker gives the connection up. -/
theorem broken_kept (h : l.books.Kept) (reason : String) :
    Books.Kept { l with stage := .broken reason }.books :=
  h.abandon _ _ _ (written_whole (sent_whole h) l.queued (queued_whole h))

/-- There is no connection, and the queue of the last one is closed. -/
theorem closed_kept (h : l.books.Kept) (state : ConnectionState) (stage : WorkerStage)
    (hr : stage.replay = .idle) (hl : stage.left = []) {sent : List Dispatch}
    (hsent : ∀ x ∈ sent, x.IsWhole l.session.dialect) :
    Books.Kept { l with
      session := { l.session.closeQueue with state }, stage, sent, queued := [] }.books := by
  have hkept := h.rest (state == .connected) (written_whole hsent [] (by simp))
  simpa [books, hr, hl, Session.closeQueue, Session.isConnected] using hkept

theorem next_replay (next : WorkerNext) : next.stage.replay = .idle ∧ next.stage.left = [] := by
  cases next <;> exact ⟨rfl, rfl⟩

theorem start_kept (h : l.books.Kept) : l.start.books.Kept :=
  closed_kept h .connecting .connecting rfl rfl (sent_whole h)

theorem connect_kept (h : l.books.Kept) : l.connect.books.Kept := by
  unfold connect
  split
  · exact h
  · split
    · exact h
    · exact start_kept h

theorem stop_kept (h : l.books.Kept) : l.stop.books.Kept := by
  refine closed_kept h l.session.state .off rfl rfl ?_
  split
  · refine List.forall_mem_append.mpr ⟨sent_whole h, fun x hx r hr => ?_⟩
    rw [List.mem_singleton.mp hx] at hr
    cases hr
  · exact sent_whole h

theorem failAttempt_kept (h : l.books.Kept) (e : SessionError) (noise : Float)
    (hs : l.stage = .connecting) : (l.failAttempt e noise).books.Kept := by
  have hsession := l.session.attemptFailed_session l.worker noise (l.session.connectError e)
  have hnext := next_replay (l.session.attemptFailed l.worker noise (l.session.connectError e)).1
  have hb : (l.failAttempt e noise).books = { l.books with isConnected := false } := by
    simp only [failAttempt, books, hsession, hnext.1, hnext.2, hs]
    rfl
  rw [hb]
  exact h.disconnect

theorem fault_kept (h : l.books.Kept) (noise : Float) (reason : String) :
    (l.fault noise reason).books.Kept := by
  obtain ⟨state, hsession⟩ := l.session.faulted_session l.worker noise reason
  have hnext := next_replay (l.session.faulted l.worker noise reason).1
  have hkept := closed_kept h state _ hnext.1 hnext.2 (sent_whole h)
  unfold fault
  rw [← hsession] at hkept
  exact hkept

theorem wake_kept (h : l.books.Kept) (hs : l.stage = .resting) : l.wake.books.Kept := by
  have hb : l.wake.books = { l.books with isConnected := false } := by
    simp only [wake, books, hs]
    rfl
  rw [hb]
  exact h.disconnect

theorem closeQueue_kept (h : l.books.Kept) {reason : String} (hs : l.stage = .broken reason) :
    l.closeQueue.books.Kept := by
  have hkept := h.abandon l.session.isConnected none []
    (written_whole (sent_whole h) [] (by simp))
  simpa [closeQueue, books, hs, WorkerStage.replay, WorkerStage.left, Session.closeQueue,
    Session.isConnected] using hkept

/-- A frame that is no request is written. -/
theorem write_kept {d : Dispatch} (hd : d.request? = none) (h : l.books.Kept)
    (failure : Option String) (context : String) {next : WorkerStage}
    (hr : next.replay = l.stage.replay) (hl : next.left = l.stage.left) :
    (l.write d failure context next).books.Kept := by
  cases failure with
  | none =>
    have hb : (l.write d none context next).books = l.books := by
      simp [write, books, hr, hl, hd]
    rwa [hb]
  | some error => exact broken_kept h _

theorem establish_kept (h : l.books.Kept) (hs : l.stage = .connecting) :
    l.establish.books.Kept := by
  have hr : l.books.replay = .idle := by simp [books, hs, WorkerStage.replay]
  have hkept := h.establish hr
  have hq : l.queued = [] := (h.closed (.inl hr)).2
  have hb : l.establish.books =
      { l.books with isConnected := true, written := [], replay := .fresh } := by
    simp [establish, books, Session.established, Session.enter, Session.isConnected,
      WorkerStage.replay, WorkerStage.left, hq]
  rwa [hb]

theorem openQueue_kept (h : l.books.Kept) (hs : l.stage = .upgraded) :
    Books.Kept { l with session := l.session.openQueue, stage := .greeting }.books := by
  have hkept := h.openQueue (by simp [books, hs, WorkerStage.replay])
  have hb : Line.books { l with session := l.session.openQueue, stage := .greeting } =
      { l.books with
        queue := some [], connections := l.books.connections + 1, replay := .opened } := by
    simp [books, hs, Session.openQueue, Session.isConnected, WorkerStage.replay,
      WorkerStage.left]
  rwa [hb]

theorem login_kept (h : l.books.Kept) (failure : Option String) (hs : l.stage = .greeting) :
    (l.login failure).books.Kept := by
  have h' : Books.Kept
      { l with session := { l.session with nextNumber := l.session.nextNumber + 1 } }.books := h
  simp only [login, Session.login_eq]
  split
  · have hb : Line.books { l with
        session := { l.session with nextNumber := l.session.nextNumber + 1 }
        stage := .loggedIn } = l.books := by
      simp [books, hs, Session.isConnected, WorkerStage.replay, WorkerStage.left]
    rwa [hb]
  · exact write_kept rfl h' failure _ (by simp [hs, WorkerStage.replay])
      (by simp [hs, WorkerStage.left])

theorem resend_kept (h : l.books.Kept) (failure : Option String) {left : List Letter}
    (hs : l.stage = .replaying left) : (l.resend failure left).books.Kept := by
  -- A letter written moves from what is left to what is sent, and the books count both.
  cases left with
  | nil =>
    simp only [resend, serve]
    split
    · exact closed_kept h l.session.state .off rfl rfl (sent_whole h)
    · have hb : Line.books { l with
          session := { l.session with heartbeat := {} }
          stage := .serving { assembler := { maxSize := l.session.config.maxFrame } } } =
          l.books := by
        simp [books, hs, Session.isConnected, WorkerStage.replay, WorkerStage.left]
      rwa [hb]
  | cons letter left =>
    cases failure with
    | none =>
      have hb : (l.resend none (letter :: left)).books = l.books := by
        simp [resend, write, books, hs, WorkerStage.replay, WorkerStage.left]
      rwa [hb]
    | some error => exact broken_kept h _

theorem drain_kept (h : l.books.Kept) (failure : Option String) {inbox : Inbox}
    (hs : l.stage = .serving inbox) : (l.drain failure).books.Kept := by
  have hr : l.books.replay = .begun := by simp [books, hs, WorkerStage.replay]
  unfold drain Session.dequeue?
  cases hq : l.session.queue with
  | none => exact h
  | some texts =>
    cases texts with
    | nil => exact h
    | cons text texts =>
      obtain ⟨letter, rest, rfl, hqueued, hkept⟩ := h.dequeue hr hq
      have hqueued : l.queued = letter :: rest := hqueued
      cases failure with
      | none =>
        -- The letter only goes from the queue to what is sent.
        have hb : (Line.write
            { l with session := { l.session with queue := some texts }, queued := l.queued.tail }
            (Letter.dispatch ⟨letter.text, l.queued.head?.bind Letter.request?⟩) none
            "write failed" l.stage).books =
            { l.books with queue := some texts, queued := rest } := by
          simp [write, books, hs, hqueued, WorkerStage.left, Session.isConnected]
        rwa [← hb] at hkept
      | some error =>
        refine h.abandon _ _ _ (written_whole (sent_whole h) l.queued.tail fun x hx => ?_)
        exact queued_whole h x (List.mem_of_mem_tail hx)

theorem filter_replies (outputs : List SessionOutput) :
    (outputs.filterMap SessionOutput.reply?).filter (·.request?.isSome) = [] := by
  rw [List.filter_eq_nil_iff]
  intro x hx
  obtain ⟨f, rfl⟩ := SessionOutput.exists_of_mem_replies hx
  exact Bool.false_ne_true

theorem receive_kept (h : l.books.Kept) (now : Int) (bytes : Bytes)
    (failure : Option (Nat × String)) {inbox : Inbox} (hs : l.stage = .serving inbox) :
    (l.receive inbox now bytes failure).books.Kept := by
  obtain ⟨⟨pending, heartbeat, hsession⟩, _⟩ :=
    l.session.receiveOver_answered inbox now bytes failure
  simp only [receive, put, hsession]
  generalize l.session.receiveOver inbox now bytes failure = received
  obtain ⟨⟨_, outputs, fault⟩, inbox'⟩ := received
  -- Receiving writes answers and no requests, so the books are the same but for the stage.
  have hserving : ∀ inbox' : Inbox, Books.Kept { l with
      session := { l.session with pending, heartbeat }
      stage := .serving inbox'
      notices := l.notices ++ outputs.filterMap SessionOutput.notice?
      sent := l.sent ++ outputs.filterMap SessionOutput.reply? }.books := by
    intro inbox'
    have hb : Line.books { l with
        session := { l.session with pending, heartbeat }
        stage := .serving inbox'
        notices := l.notices ++ outputs.filterMap SessionOutput.notice?
        sent := l.sent ++ outputs.filterMap SessionOutput.reply? } = l.books := by
      simp [books, hs, filter_replies, Session.isConnected, WorkerStage.replay, WorkerStage.left]
    rwa [hb]
  cases fault with
  | none => exact hserving _
  | some reason => exact broken_kept (hserving inbox) reason

theorem snapshot_kept (h : l.books.Kept) (hs : l.stage = .loggedIn) : l.snapshot.books.Kept := by
  have hr : l.books.replay = .opened := by simp [books, hs, WorkerStage.replay]
  have hsent : l.sent.filter (·.request?.isSome) = [] := by
    simpa [books, hs, WorkerStage.left] using h.unsent (.inr hr)
  unfold snapshot Session.replay
  -- An empty set replays nothing; any other one is asked for in one request, which is what
  -- `AsksAtOnce` gives.
  cases hsubs : l.session.subscriptions with
  | nil =>
    have hkept := h.snapshot hr [] (by simp) (by simp [applyAll, books, hsubs])
    simpa [books, hs, hsubs, hsent, Session.isConnected, WorkerStage.replay, WorkerStage.left]
      using hkept
  | cons name names =>
    obtain ⟨text, htext⟩ := h.atOnce (name :: names) .subscribe l.session.nextNumber (by simp)
    let request : SubscriptionRequest := ⟨name :: names, .subscribe, l.session.nextNumber⟩
    have hframes : l.session.dialect.subscriptionFrames (name :: names) .subscribe
        l.session.nextNumber = [text] := htext
    have hkept := h.snapshot hr [Letter.dispatch ⟨text, some request⟩] ?_ ?_
    · simpa [books, hs, hsubs, hsent, hframes, Session.isConnected, Session.takeNumber,
        WorkerStage.replay, WorkerStage.left, Letter.dispatch, request] using hkept
    · intro x hx r hrequest
      rw [List.mem_singleton.mp hx] at hrequest ⊢
      simp only [Letter.dispatch, Option.some.injEq] at hrequest
      rw [← hrequest]
      simp [request, Letter.dispatch, htext]
    · intro c
      simp [Letter.dispatch, request, applyAll, mem_apply, books, hsubs]

theorem ping_kept (h : l.books.Kept) (elapsed : Nat) (failure : Option String) :
    (l.ping elapsed failure).books.Kept := by
  have h' : Line.books { l with session := (l.session.ping elapsed).2 } = l.books := rfl
  exact write_kept rfl (h'.symm ▸ h) failure _ rfl rfl

theorem refresh_kept (h : l.books.Kept) (failure : Option String) :
    (l.refresh failure).books.Kept := by
  have h' : Books.Kept
      { l with session := { l.session with nextNumber := l.session.nextNumber + 1 } }.books := h
  simp only [refresh, Session.refresh_eq]
  split
  · exact h'
  · exact write_kept rfl h' failure _ rfl rfl

theorem follow_kept (h : l.books.Kept) {n : Nat} {c : Call} (hn : l.calls[n]? = some c)
    {step : CallStage × Session × List Letter} (hstep : Advance l c step) :
    (l.follow n c step).books.Kept := by
  have hsound := h.calls c (List.mem_of_getElem? hn)
  have hunder : ∀ {stage : CallStage}, c.stage = stage → stage ≠ .posting [] →
      c.isOver = false := by
    intro stage hc hne
    simpa [Call.isOver, hc] using hne
  cases hstep with
  | wait => exact h.advance hn hsound fun _ _ _ _ hp => .inl hp
  | test hc =>
    refine h.advance hn (hsound.goOn (hunder hc (by simp)) ?_) ?_
    · split <;> simp [CallStage.letters]
    · -- A call that finds the session unconnected leaves everything to the replay.
      intro hconnected _ _ _ hp
      have hconnected : l.session.isConnected = true := hconnected
      exact .inl ⟨hp.1, by simp [hconnected, CallStage.isLive]⟩
  | number name action hc hchange =>
    obtain ⟨text, htext⟩ := h.atOnce [name] action l.session.nextNumber (by simp)
    have hframes : l.session.dialect.subscriptionFrames [name] action l.session.nextNumber =
        [text] := htext
    rw [hframes]
    refine h.advance hn ⟨?_, fun _ => hsound.change (hunder hc (by simp))⟩ ?_
    · simp only [CallStage.letters, List.map_cons, List.map_nil, List.mem_singleton,
        forall_eq, hchange]
      exact ⟨_, rfl, hframes⟩
    · exact fun _ _ _ _ hp => .inl ⟨hp.1, rfl⟩
  | idle hc hchange =>
    refine h.advance hn (hsound.goOn (hunder hc (by simp)) ?_) ?_
    · simp [CallStage.letters]
    rintro _ _ _ _ ⟨⟨action, hp⟩, _⟩
    rw [hchange] at hp
    cases hp
  | fetch letter rest hc hq =>
    refine h.advance hn (hsound.goOn (hunder hc (by simp)) ?_) ?_
    · simp [hc, CallStage.letters]
    exact fun _ _ _ _ hp => .inl ⟨hp.1, by simp [CallStage.isLive, books]⟩
  | miss letter rest hc hq =>
    refine h.advance hn (hsound.goOn (hunder hc (by simp)) ?_) ?_
    · simpa [hc, CallStage.letters] using fun x hx => .inr hx
    · intro _ set hset name _
      rw [Books.settled_of_queue_none h hq hset]
      exact .inr Iff.rfl
  | enqueue letter rest texts hc hq =>
    have hkept := h.enqueue hn hc hq
    have hwritten : (l.sent ++ (l.stage.left ++ (l.queued ++ [letter])).map Letter.dispatch).filter
        (·.request?.isSome) =
        l.books.written ++ [letter.dispatch].filter (·.request?.isSome) := by
      simp only [books, List.map_append, List.filter_append, List.append_assoc, List.map_cons,
        List.map_nil]
    rw [← hwritten] at hkept
    exact hkept
  | lose connection letter rest hc hq =>
    refine h.advance hn (hsound.goOn (hunder hc (by simp)) ?_) ?_
    · simpa [hc, CallStage.letters] using fun x hx => .inr hx
    · -- A call that is still live holds the queue of this connection, which can be gone only
      -- because it is not open yet.
      intro _ set hset name hp
      have hlive : connection = l.session.connections := by
        simpa [hc, CallStage.isLive, books] using hp.2
      have hnone : l.session.queue = none := hq.resolve_right (by simp [hlive])
      rw [Books.settled_of_queue_none h hnone hset]
      exact .inr Iff.rfl

theorem goOn_kept (h : l.books.Kept) (n : Nat) : (l.goOn n).books.Kept := by
  unfold goOn
  cases hn : l.calls[n]? with
  | none => exact h
  | some c => exact follow_kept h hn (l.next_advance c)

theorem change_kept (h : l.books.Kept) (name : String) (action : SubscriptionAction)
    (hfree : ∀ c ∈ l.calls, c.channel? ≠ some (Text.trim name)) :
    (l.change name action).books.Kept := by
  have hasc := Session.changeSet_pairwise h.ascending (Text.trim name) action
  have hmem := l.session.mem_changeSet (Text.trim name) action
  -- A change that asks for what holds already leaves the set as it is.
  have hsame : (l.session.changeSet (Text.trim name) action).1 = false → ∀ c,
      c ∈ (l.session.changeSet (Text.trim name) action).2.subscriptions ↔
        c ∈ l.session.subscriptions := by
    intro hunchanged c
    rw [hmem]
    split
    · next hc => rw [hc, Session.changeSet_unchanged hunchanged]
    · exact Iff.rfl
  obtain ⟨changed, subscriptions, hset⟩ := l.session.changeSet_eq (Text.trim name) action
  rw [hset] at hasc hmem hsame
  simp only [change, hset]
  split
  · exact h
  · cases changed with
    | true => exact h.change hasc hmem hfree
    | false => exact h.resubscribe hasc (hsame rfl)

/-- No change is begun while another one of the same channel is under way. -/
def Orderly (l : Line) : List LineAction → Prop
  | [] => True
  | a :: as =>
    (∀ c ∈ l.calls, c.channel? = none ∨ c.channel? ≠ a.channel?) ∧ Orderly (l.act a) as

instance decidableOrderly (l : Line) : (as : List LineAction) → Decidable (l.Orderly as)
  | [] => isTrue trivial
  | a :: as =>
    haveI := decidableOrderly (l.act a) as
    inferInstanceAs (Decidable ((∀ c ∈ l.calls, c.channel? = none ∨ c.channel? ≠ a.channel?) ∧
      Orderly (l.act a) as))

theorem act_kept (h : l.books.Kept) (a : LineAction)
    (hfree : ∀ c ∈ l.calls, c.channel? = none ∨ c.channel? ≠ a.channel?) :
    (l.act a).books.Kept := by
  have heffect := l.act_effect a
  generalize l.act a = l' at heffect ⊢
  -- One lemma for each effect; that no call is out for the channel is used by the change alone.
  cases heffect with
  | idle => exact h
  | connect => exact connect_kept h
  | leave => exact h.disconnect
  | stop => exact stop_kept h
  | left => exact h.disconnect
  | failAttempt e noise hs => exact failAttempt_kept h e noise hs
  | establish hs => exact establish_kept h hs
  | openQueue hs => exact openQueue_kept h hs
  | login failure hs => exact login_kept h failure hs
  | snapshot hs => exact snapshot_kept h hs
  | resend failure left hs => exact resend_kept h failure hs
  | receive now bytes failure inbox hs => exact receive_kept h now bytes failure hs
  | finish inbox hs => exact broken_kept h _
  | drain failure inbox hs => exact drain_kept h failure hs
  | ping elapsed failure inbox hs => exact ping_kept h elapsed failure
  | refresh failure inbox hs => exact refresh_kept h failure
  | timeOut inbox hs => exact broken_kept h _
  | closeQueue reason hs => exact closeQueue_kept h hs
  | fault noise reason hs => exact fault_kept h noise reason
  | wake hs => exact wake_kept h hs
  | change name action =>
    refine change_kept h name action fun c hc hsame => ?_
    rcases hfree c hc with hnone | hne
    · rw [hnone] at hsame
      cases hsame
    · exact hne hsame
  | post text => exact h.post text
  | goOn n => exact goOn_kept h n
  | takeNumber | prepare number v => exact h

theorem run_kept (h : l.books.Kept) {as : List LineAction} (has : l.Orderly as) :
    (l.run as).books.Kept := by
  induction as generalizing l with
  | nil => exact h
  | cons a as ih =>
    obtain ⟨hfree, has⟩ := has
    exact ih (act_kept h a hfree) has

/-- A session that nobody has used. -/
def opened (dialect : Dialect) (channel : Channel) (config : SessionConfig Float)
    (credentials : Credentials) : Line where
  session := { dialect, channel, config, credentials }
  worker := .ofConfig config

theorem opened_kept {dialect : Dialect} (hdialect : dialect.AsksAtOnce) (channel : Channel)
    (config : SessionConfig Float) (credentials : Credentials) :
    (opened dialect channel config credentials).books.Kept where
  atOnce := hdialect
  ascending := .nil
  closed := fun _ => ⟨rfl, rfl⟩
  isOpen := by simp [books, opened, WorkerStage.replay]
  unsent := by simp [books, opened, WorkerStage.replay]
  whole := by simp [books, opened, WorkerStage.left]
  calls := by simp [books, opened]
  settled := by simp [books, opened, Session.isConnected]

/-- A session of a caller who subscribes before the connection, between it and its replay, and who
unsubscribes while the replay is on its way. -/
def callsLine : Line :=
  opened (.binance Dialect.defaultReceiveWindowMs) .public .standard .none

def callsRun : List LineAction :=
  [.change "a" .subscribe, .goOn 0, .connect, .establish, .change " b " .subscribe, .openQueue,
    .goOn 1, .login none, .goOn 1, .goOn 1, .goOn 1, .snapshot, .change "a" .unsubscribe,
    .resend none, .goOn 2, .goOn 2, .resend none, .goOn 2, .goOn 2, .drain none, .drain none]

end Line

end VenueGateway
