import VenueGateway.Proofs.Session.Line
import VenueGateway.Proofs.WebSocket.Bounds

namespace VenueGateway

/-- What has arrived and is not complete keeps the limit. -/
structure Inbox.Within (max : Nat) (inbox : Inbox) : Prop where
  assembler : inbox.assembler.Within max
  buffer_lt : inbox.buffer.length < max + 14

namespace Session

theorem receiveFrame_within (s : Session) {max : Nat} {a : Assembler} (ha : a.Within max)
    (now : Int) {f : Frame} (hf : f.payload.length ≤ max) :
    (s.receiveFrame a now f).2.Within max := by
  have hkept := (ha.push hf).within
  simp only [receiveFrame]
  split <;> simpa [*] using hkept

theorem receiveFrames_within (s : Session) {max : Nat} {a : Assembler} (ha : a.Within max)
    (now : Int) {fs : List Frame} (hfs : ∀ f ∈ fs, f.Allowed max) :
    (s.receiveFrames a now fs).2.Within max := by
  induction fs generalizing s a with
  | nil => exact ha
  | cons f fs ih =>
    obtain ⟨hf, hfs⟩ := List.forall_mem_cons.mp hfs
    have hpush := s.receiveFrame_within ha now hf.size_le
    simp only [receiveFrames]
    split
    · exact hpush
    · exact ih _ hpush hfs

theorem receiveFailing_within (s : Session) {max : Nat} {a : Assembler} (ha : a.Within max)
    (now : Int) (error : String) (n : Nat) {fs : List Frame} (hfs : ∀ f ∈ fs, f.Allowed max) :
    (s.receiveFailing a now error n fs).2.Within max := by
  induction fs generalizing s a n with
  | nil => exact ha
  | cons f fs ih =>
    obtain ⟨hf, hfs⟩ := List.forall_mem_cons.mp hfs
    have hpush := s.receiveFrame_within ha now hf.size_le
    obtain ⟨r, -, hcons⟩ := s.receiveFailing_cons a now error n f fs
    rw [hcons]
    split
    · exact hpush
    · exact ih r.session hpush (n - 1) hfs

/-- A chunk that does not end the connection leaves an inbox within the limit. -/
theorem receiveOver_within (s : Session) {inbox : Inbox}
    (h : inbox.assembler.Within s.config.maxFrame) (now : Int) (bytes : Bytes)
    (failure : Option (Nat × String))
    (hfault : (s.receiveOver inbox now bytes failure).1.fault = none) :
    (s.receiveOver inbox now bytes failure).2.Within s.config.maxFrame := by
  have hallowed := Frame.decodeAll_allowed s.config.maxFrame (inbox.buffer ++ bytes)
  have hrun : (Frame.decodeAll s.config.maxFrame (inbox.buffer ++ bytes)).fault = none := by
    -- Whatever becomes of the writes, what is wrong behind the frames ends the connection.
    cases failure <;> simpa using (Option.or_eq_none_iff.mp hfault).2
  cases failure with
  | none => exact ⟨s.receiveFrames_within h now hallowed, Frame.decodeAll_rest_lt hrun⟩
  | some failure =>
    exact ⟨s.receiveFailing_within h now failure.2 failure.1 hallowed, Frame.decodeAll_rest_lt hrun⟩

end Session

theorem WorkerNext.stage_ne_serving (next : WorkerNext) (inbox : Inbox) :
    next.stage ≠ .serving inbox := by
  cases next <;> simp [WorkerNext.stage]

namespace Line

variable {l l' : Line}

def Holds (l : Line) : Prop :=
  ∀ inbox, l.stage = .serving inbox → inbox.Within l.session.config.maxFrame

/-- A step that leaves the inbox as it is, or gives the connection up. -/
structure Untouched (l l' : Line) : Prop where
  stage : ∀ inbox, l'.stage = .serving inbox → l.stage = .serving inbox
  config : l'.session.config = l.session.config

theorem Untouched.holds (h : l.Holds) (hu : Untouched l l') : l'.Holds := by
  intro inbox hs
  rw [hu.config]
  exact h inbox (hu.stage inbox hs)

theorem holds_of_ne (h : ∀ inbox, l.stage ≠ .serving inbox) : l.Holds :=
  fun inbox hs => absurd hs (h inbox)

theorem Untouched.refl (l : Line) : Untouched l l := ⟨fun _ h => h, rfl⟩

theorem Untouched.write (h : Untouched l l') (d : Dispatch) (failure : Option String)
    (context : String) : Untouched l (l'.write d failure context l'.stage) := by
  cases failure with
  | none => exact ⟨h.stage, h.config⟩
  | some error => exact ⟨fun _ hs => (by cases hs), h.config⟩

theorem write_holds (l : Line) (d : Dispatch) (failure : Option String) (context : String)
    {next : WorkerStage} (hn : ∀ inbox, next ≠ .serving inbox) :
    (l.write d failure context next).Holds := by
  cases failure with
  | none => exact holds_of_ne hn
  | some error => exact holds_of_ne fun _ hs => by cases hs

theorem serve_holds (l : Line) : l.serve.Holds := by
  unfold serve
  split
  · exact holds_of_ne fun _ hs => by cases hs
  · intro inbox hs
    cases hs
    exact ⟨Assembler.within_none _, Nat.succ_pos _⟩

theorem receive_holds {inbox : Inbox} (h : inbox.Within l.session.config.maxFrame) (now : Int)
    (bytes : Bytes) (failure : Option (Nat × String)) :
    (l.receive inbox now bytes failure).Holds := by
  obtain ⟨⟨pending, heartbeat, hsession⟩, -⟩ :=
    l.session.receiveOver_answered inbox now bytes failure
  have hwithin := l.session.receiveOver_within h.assembler now bytes failure
  generalize hr : l.session.receiveOver inbox now bytes failure = received at hsession hwithin
  intro inbox' hs
  simp only [receive, hr, put] at hs ⊢
  -- A fault leaves the serving stage, so only the inbox behind a chunk without one is held.
  cases hfault : received.1.fault with
  | some reason =>
    rw [hfault] at hs
    cases hs
  | none =>
    rw [hfault] at hs
    cases hs
    rw [hsession]
    exact hwithin hfault

theorem drain_untouched (l : Line) (failure : Option String) : Untouched l (l.drain failure) := by
  unfold drain Session.dequeue?
  cases l.session.queue with
  | none => exact .refl l
  | some texts =>
    cases texts with
    | nil => exact .refl l
    | cons text texts =>
      have h : Untouched l { l with
          session := { l.session with queue := some texts }, queued := l.queued.tail } :=
        ⟨fun _ h => h, rfl⟩
      exact h.write _ failure _

theorem refresh_untouched (l : Line) (failure : Option String) :
    Untouched l (l.refresh failure) := by
  have h : Untouched l
      { l with session := { l.session with nextNumber := l.session.nextNumber + 1 } } :=
    ⟨fun _ h => h, rfl⟩
  simp only [refresh, Session.refresh_eq]
  split
  · exact h
  · exact h.write _ failure _

theorem change_untouched (l : Line) (name : String) (action : SubscriptionAction) :
    Untouched l (l.change name action) := by
  obtain ⟨changed, subscriptions, hset⟩ := l.session.changeSet_eq (Text.trim name) action
  simp only [change, hset]
  split
  · exact .refl l
  · split <;> exact ⟨fun _ h => h, rfl⟩

theorem goOn_untouched (l : Line) (n : Nat) : Untouched l (l.goOn n) := by
  unfold goOn
  split
  · exact .refl l
  · next c _ =>
    have h := l.next_advance c
    generalize l.next c = step at h ⊢
    cases h <;> exact ⟨fun _ h => h, rfl⟩

theorem act_holds (h : l.Holds) (a : LineAction) : (l.act a).Holds := by
  have he := l.act_effect a
  generalize l.act a = l' at he ⊢
  cases he with
  | idle => exact h
  | connect =>
    unfold connect
    split
    · exact Untouched.holds h ⟨fun _ h => h, rfl⟩
    · split
      · exact Untouched.holds h ⟨fun _ h => h, rfl⟩
      · exact holds_of_ne fun _ hs => by cases hs
  | leave => exact Untouched.holds h ⟨fun _ h => h, rfl⟩
  | stop => exact holds_of_ne fun _ hs => by cases hs
  | left => exact Untouched.holds h ⟨fun _ h => h, rfl⟩
  | failAttempt e noise hs =>
    exact holds_of_ne (WorkerNext.stage_ne_serving _)
  | establish hs => exact holds_of_ne fun _ hs => by cases hs
  | openQueue hs => exact holds_of_ne fun _ hs => by cases hs
  | login failure hs =>
    simp only [login]
    split
    · exact holds_of_ne fun _ hs => by cases hs
    · exact write_holds _ _ failure _ fun _ hs => by cases hs
  | snapshot hs => exact holds_of_ne fun _ hs => by cases hs
  | resend failure left hs =>
    cases left with
    | nil => exact l.serve_holds
    | cons letter left => exact l.write_holds _ failure _ fun _ hs => by cases hs
  -- The inbox is written here only; all other stages have none, or leave it as it is.
  | receive now bytes failure inbox hs => exact receive_holds (h inbox hs) now bytes failure
  | finish inbox hs => exact holds_of_ne fun _ hs => by cases hs
  | drain failure inbox hs => exact (l.drain_untouched failure).holds h
  | ping elapsed failure inbox hs =>
    have hu : Untouched l { l with session := (l.session.ping elapsed).2 } := ⟨fun _ h => h, rfl⟩
    exact (hu.write _ failure "write failed").holds h
  | refresh failure inbox hs => exact (l.refresh_untouched failure).holds h
  | timeOut inbox hs => exact holds_of_ne fun _ hs => by cases hs
  | closeQueue reason hs => exact Untouched.holds h ⟨fun _ h => h, rfl⟩
  | fault noise reason hs => exact holds_of_ne (WorkerNext.stage_ne_serving _)
  | wake hs => exact holds_of_ne fun _ hs => by cases hs
  | change name action => exact (l.change_untouched name action).holds h
  | post text => exact Untouched.holds h ⟨fun _ h => h, rfl⟩
  | goOn n => exact (l.goOn_untouched n).holds h
  | takeNumber => exact Untouched.holds h ⟨fun _ h => h, rfl⟩
  | prepare number v => exact Untouched.holds h ⟨fun _ h => h, rfl⟩

theorem run_holds (h : l.Holds) (as : List LineAction) : (l.run as).Holds := by
  induction as using List.reverseRecOn with
  | nil => exact h
  | append_singleton as a ih =>
    rw [run_concat]
    exact act_holds ih a

/-- Whatever comes in, and whatever else happens, a connection holds no more of what is not complete
than the largest message and the largest frame with its header. -/
theorem held_lt (hoff : l.stage = .off) (as : List LineAction) {inbox : Inbox}
    (hs : (l.run as).stage = .serving inbox) :
    let max := (l.run as).session.config.maxFrame
    (inbox.assembler.pending.elim 0 (·.2.length)) + inbox.buffer.length < 2 * max + 14 := by
  intro max
  have hstart : l.Holds := holds_of_ne fun inbox h => by rw [hoff] at h; cases h
  have hwithin := run_holds hstart as inbox hs
  have hpending : (inbox.assembler.pending.elim 0 (·.2.length)) ≤ max := by
    cases hp : inbox.assembler.pending with
    | none => exact Nat.zero_le _
    | some p => exact hwithin.assembler.pending_le p.1 p.2 hp
  have hbuffer : inbox.buffer.length < max + 14 := hwithin.buffer_lt
  omega

end Line

end VenueGateway
