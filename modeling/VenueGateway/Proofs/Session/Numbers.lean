import Mathlib.Data.List.Nodup
import Mathlib.Data.List.Perm.Subperm
import VenueGateway.Proofs.Dialect.Numbering
import VenueGateway.Proofs.Session.Subscriptions
import VenueGateway.Proofs.Text.Utf8

namespace VenueGateway

/-- The number on the request that a frame carries. -/
def Dispatch.number? (x : Dispatch) : Option Nat :=
  (Text.decodeUtf8 x.frame.payload).bind Grvt.requestNumber?

theorem Letter.number?_dispatch (x : Letter) :
    x.dispatch.number? = Grvt.requestNumber? x.text := by
  simp [Dispatch.number?, Letter.dispatch, Frame.text, Text.decodeUtf8_utf8]

/-- A frame that carries another number than its request was given. -/
def Dispatch.IsExtra (x : Dispatch) : Prop :=
  ∃ r, x.request? = some r ∧ x.number? ≠ some r.number

namespace SubscriptionRequest

/-- How many streams the channels of a request belong to. -/
def span (r : SubscriptionRequest) : Nat := (Grvt.groups r.channels).length

def letters (d : Dialect) (r : SubscriptionRequest) : List Letter :=
  (d.subscriptionFrames r.channels r.action r.number).map fun text => ⟨text, some r⟩

theorem numbers_letters (envelope : Envelope) (account authUrl : String)
    (r : SubscriptionRequest) :
    (r.letters (.grvt envelope account authUrl)).map (·.dispatch.number?) =
      (List.range' r.number r.span).map some := by
  simp only [letters, List.map_map, Function.comp_def, Letter.number?_dispatch]
  exact Grvt.requestNumber?_numbered envelope r.action.name r.number (Grvt.groups r.channels)

end SubscriptionRequest

/-- Frames of requests with one number carry different ones. -/
def Dispatch.Apart (x y : Dispatch) : Prop :=
  ∀ r s, x.request? = some r → y.request? = some s → r.number = s.number → x.number? ≠ y.number?

theorem Dispatch.Apart.symm {x y : Dispatch} (h : x.Apart y) : y.Apart x :=
  fun r s hr hs he hn => h s r hs hr he.symm hn.symm

/-- Traffic of a session that gives out `next` next. -/
structure Numbered (next : Nat) (traffic : List Dispatch) : Prop where
  known : ∀ x ∈ traffic, ∀ r, x.request? = some r →
    r.number < next ∧ ∃ n, x.number? = some n ∧ r.number ≤ n ∧ n < r.number + r.span
  apart : traffic.Pairwise Dispatch.Apart

namespace Numbered

variable {next : Nat} {traffic : List Dispatch}

theorem mono {later : Nat} (h : Numbered next traffic) (hle : next ≤ later) :
    Numbered later traffic where
  known := fun x hx r hr => ⟨(h.known x hx r hr).1.trans_le hle, (h.known x hx r hr).2⟩
  apart := h.apart

theorem subperm {part : List Dispatch} (h : Numbered next traffic) (hsub : part.Subperm traffic) :
    Numbered next part := by
  obtain ⟨sorted, hperm, hsublist⟩ := hsub
  refine ⟨fun x hx => h.known x (hsublist.subset (hperm.mem_iff.mpr hx)), ?_⟩
  exact hperm.pairwise (h.apart.sublist hsublist) fun hxy => hxy.symm

theorem append_plain {more : List Dispatch} (h : Numbered next traffic)
    (hmore : ∀ x ∈ more, x.request? = none) : Numbered next (traffic ++ more) := by
  have hnever : ∀ x ∈ more, ∀ r, x.request? ≠ some r := by
    intro x hx r
    simp [hmore x hx]
  refine ⟨fun x hx r hr => ?_, List.pairwise_append.mpr ⟨h.apart, ?_, ?_⟩⟩
  · rcases List.mem_append.mp hx with hx | hx
    · exact h.known x hx r hr
    · exact absurd hr (hnever x hx r)
  · exact List.pairwise_of_forall_mem_list fun x hx y _ r s hr _ => absurd hr (hnever x hx r)
  · exact fun x _ y hy r s _ hs => absurd hs (hnever y hy s)

theorem append_letters {envelope : Envelope} {account authUrl : String} {r : SubscriptionRequest}
    (h : Numbered r.number traffic) :
    Numbered (r.number + 1)
      (traffic ++ (r.letters (.grvt envelope account authUrl)).map Letter.dispatch) := by
  have hnumbers := r.numbers_letters envelope account authUrl
  have hrequest : ∀ x ∈ (r.letters (.grvt envelope account authUrl)).map Letter.dispatch,
      x.request? = some r := by
    simp [SubscriptionRequest.letters, Letter.dispatch]
  refine ⟨fun x hx s hs => ?_, List.pairwise_append.mpr ⟨h.apart, ?_, ?_⟩⟩
  · rcases List.mem_append.mp hx with hx | hx
    · exact (h.mono (Nat.le_succ _)).known x hx s hs
    · obtain rfl : r = s := Option.some.inj ((hrequest x hx).symm.trans hs)
      obtain ⟨letter, hletter, rfl⟩ := List.mem_map.mp hx
      have hmem : letter.dispatch.number? ∈ (List.range' r.number r.span).map some :=
        hnumbers ▸ List.mem_map_of_mem hletter
      obtain ⟨n, hn, hsome⟩ := List.mem_map.mp hmem
      obtain ⟨hle, hlt⟩ := List.mem_range'_1.mp hn
      exact ⟨Nat.lt_succ_self _, n, hsome.symm, hle, hlt⟩
  · have hnodup : ((List.range' r.number r.span).map some).Nodup :=
      List.Nodup.map (Option.some_injective _) List.nodup_range'
    rw [← hnumbers] at hnodup
    refine List.pairwise_map.mpr ((List.pairwise_map.mp hnodup).imp ?_)
    exact fun hne _ _ _ _ _ => hne
  · -- What was sent before belongs to a request with a smaller number.
    intro x hx y hy s t hs ht he
    have hlt := (h.known x hx s hs).1
    rw [hrequest y hy, Option.some.injEq] at ht
    subst ht
    omega

end Numbered

namespace Line

/-- The letters that are to be put into the queue. -/
def posted (l : Line) : List Letter := l.calls.flatMap (·.stage.letters)

/-- The letters that may yet be sent. -/
def unsent (l : Line) : List Letter := l.stage.left ++ l.queued ++ l.posted

/-- The frames that were sent, and those that may yet be. -/
def traffic (l : Line) : List Dispatch :=
  l.earlier ++ l.sent ++ l.unsent.map Letter.dispatch

/-- The queue of a session holds just the texts of the letters that are queued. -/
structure InStep (l : Line) : Prop where
  closed : l.stage.replay = .idle ∨ l.stage.replay = .fresh →
    l.session.queue = none ∧ l.queued = []
  texts : l.session.queue.getD [] = l.queued.map Letter.text

variable {l l' : Line}

/-- A step that leaves the queue alone, and comes to no earlier stage. -/
theorem InStep.same (h : l.InStep) (hq : l'.session.queue = l.session.queue)
    (hqueued : l'.queued = l.queued)
    (hr : l'.stage.replay = .idle ∨ l'.stage.replay = .fresh →
      l.stage.replay = .idle ∨ l.stage.replay = .fresh) : l'.InStep := by
  refine ⟨fun hidle => ?_, ?_⟩
  · rw [hq, hqueued]
    exact h.closed (hr hidle)
  · rw [hq, hqueued]
    exact h.texts

theorem InStep.emptied (hq : l'.session.queue = none) (hqueued : l'.queued = []) : l'.InStep :=
  ⟨fun _ => ⟨hq, hqueued⟩, by rw [hq, hqueued]; rfl⟩

/-- A step that sends nothing but frames that are no requests, and may drop letters. -/
theorem traffic_subperm {more : List Dispatch}
    (hsent : l'.earlier ++ l'.sent = l.earlier ++ l.sent ++ more)
    (hleft : l'.stage.left.Sublist l.stage.left) (hqueued : l'.queued.Sublist l.queued)
    (hposted : l'.posted.Sublist l.posted) : l'.traffic.Subperm (l.traffic ++ more) := by
  have hunsent : l'.unsent.Sublist l.unsent := (hleft.append hqueued).append hposted
  simp only [traffic, hsent]
  refine ((List.Sublist.refl _).append (hunsent.map Letter.dispatch)).subperm.trans ?_
  rw [List.append_assoc, List.append_assoc (l.earlier ++ l.sent)]
  exact (List.perm_append_comm.append_left _).subperm

/-- A step that sends nothing, and may write letters or put them elsewhere. -/
theorem traffic_perm (more : List Letter) (hsent : l'.earlier ++ l'.sent = l.earlier ++ l.sent)
    (hunsent : l'.unsent.Perm (l.unsent ++ more)) :
    l'.traffic.Perm (l.traffic ++ more.map Letter.dispatch) := by
  rw [traffic, traffic, hsent, List.append_assoc (l.earlier ++ l.sent), ← List.map_append]
  exact (hunsent.map Letter.dispatch).append_left _

variable {envelope : Envelope} {account authUrl : String}

/-- A GRVT session whose traffic is numbered. -/
structure Counted (envelope : Envelope) (account authUrl : String) (l : Line) : Prop where
  dialect : l.session.dialect = .grvt envelope account authUrl
  inStep : l.InStep
  numbered : Numbered l.session.nextNumber l.traffic

/-- A step that sends no request and writes no letter for one. -/
theorem Counted.quiet (h : l.Counted envelope account authUrl)
    (hd : l'.session.dialect = l.session.dialect)
    (hn : l.session.nextNumber ≤ l'.session.nextNumber) (hstep : l'.InStep)
    (more : List Dispatch) (hmore : ∀ x ∈ more, x.request? = none)
    (hsent : l'.earlier ++ l'.sent = l.earlier ++ l.sent ++ more)
    (hleft : l'.stage.left.Sublist l.stage.left) (hqueued : l'.queued.Sublist l.queued)
    (hposted : l'.posted.Sublist l.posted) : l'.Counted envelope account authUrl where
  dialect := hd.trans h.dialect
  inStep := hstep
  numbered := ((h.numbered.append_plain hmore).subperm
    (traffic_subperm hsent hleft hqueued hposted)).mono hn

/-- A step of this kind that sends nothing at all. -/
theorem Counted.silent (h : l.Counted envelope account authUrl)
    (hd : l'.session.dialect = l.session.dialect)
    (hn : l.session.nextNumber ≤ l'.session.nextNumber) (hstep : l'.InStep)
    (hsent : l'.earlier ++ l'.sent = l.earlier ++ l.sent)
    (hleft : l'.stage.left.Sublist l.stage.left) (hqueued : l'.queued.Sublist l.queued)
    (hposted : l'.posted.Sublist l.posted) : l'.Counted envelope account authUrl :=
  h.quiet hd hn hstep [] (by simp) (by simpa using hsent) hleft hqueued hposted

theorem broken_counted (h : l.Counted envelope account authUrl) (reason : String) :
    Counted envelope account authUrl { l with stage := .broken reason } :=
  h.silent rfl le_rfl (h.inStep.same rfl rfl (by simp [WorkerStage.replay])) rfl
    (List.nil_sublist _) (.refl _) (.refl _)

theorem start_counted (h : l.Counted envelope account authUrl) :
    l.start.Counted envelope account authUrl :=
  h.silent rfl le_rfl (.emptied rfl rfl) rfl (List.nil_sublist _) (List.nil_sublist _) (.refl _)

theorem connect_counted (h : l.Counted envelope account authUrl) :
    l.connect.Counted envelope account authUrl := by
  have hanswer : ∀ answer, Counted envelope account authUrl { l with answer } := fun _ =>
    ⟨h.dialect, ⟨h.inStep.closed, h.inStep.texts⟩, h.numbered⟩
  unfold connect
  split
  · exact hanswer _
  · split
    · exact hanswer _
    · exact start_counted h

theorem stop_counted (h : l.Counted envelope account authUrl) :
    l.stop.Counted envelope account authUrl := by
  have hsent : ∃ more : List Dispatch, l.stop.sent = l.sent ++ more ∧
      ∀ x ∈ more, x.request? = none := by
    unfold stop
    split
    · exact ⟨_, rfl, by simp⟩
    · exact ⟨[], by simp, by simp⟩
  obtain ⟨more, hsent, hmore⟩ := hsent
  refine h.quiet rfl le_rfl (.emptied rfl rfl) more hmore ?_ (List.nil_sublist _)
    (List.nil_sublist _) (.refl _)
  rw [hsent, List.append_assoc]
  rfl

theorem failAttempt_counted (h : l.Counted envelope account authUrl) (e : SessionError)
    (noise : Float) (hs : l.stage = .connecting) :
    (l.failAttempt e noise).Counted envelope account authUrl := by
  have hsession : (l.failAttempt e noise).session = { l.session with state := .error } :=
    l.session.attemptFailed_session l.worker noise (l.session.connectError e)
  have hleft : (l.failAttempt e noise).stage.left = [] := (next_replay _).2
  refine h.silent (by rw [hsession]) (by rw [hsession]) ?_ rfl (by simp [hleft]) (.refl _) (.refl _)
  exact h.inStep.same (by rw [hsession]) rfl fun _ => .inl (by simp [hs, WorkerStage.replay])

theorem fault_counted (h : l.Counted envelope account authUrl) (noise : Float) (reason : String) :
    (l.fault noise reason).Counted envelope account authUrl := by
  obtain ⟨state, hsession⟩ := l.session.faulted_session l.worker noise reason
  have hsession : (l.fault noise reason).session = { l.session.closeQueue with state } := hsession
  have hleft : (l.fault noise reason).stage.left = [] := (next_replay _).2
  exact h.silent (by rw [hsession]; rfl) (by rw [hsession]; rfl)
    (.emptied (by rw [hsession]; rfl) rfl) rfl (by simp [hleft]) (List.nil_sublist _) (.refl _)

theorem establish_counted (h : l.Counted envelope account authUrl) (hs : l.stage = .connecting) :
    l.establish.Counted envelope account authUrl :=
  h.silent rfl le_rfl (h.inStep.same rfl rfl fun _ => .inl (by simp [hs, WorkerStage.replay]))
    (List.append_nil _) (List.nil_sublist _) (.refl _) (.refl _)

theorem openQueue_counted (h : l.Counted envelope account authUrl) (hs : l.stage = .upgraded) :
    Counted envelope account authUrl
      { l with session := l.session.openQueue, stage := .greeting } := by
  have hqueued : l.queued = [] := (h.inStep.closed (.inr (by simp [hs, WorkerStage.replay]))).2
  refine h.silent rfl le_rfl ⟨by simp [WorkerStage.replay], ?_⟩ rfl (List.nil_sublist _) (.refl _)
    (.refl _)
  simp [hqueued, Session.openQueue]

/-- A frame that is no request is written, or the write fails. -/
theorem write_counted {d : Dispatch} (hd : d.request? = none)
    (h : l.Counted envelope account authUrl) (failure : Option String) (context : String)
    {next : WorkerStage} (hr : next.replay ≠ .idle ∧ next.replay ≠ .fresh)
    (hl : next.left.Sublist l.stage.left) :
    (l.write d failure context next).Counted envelope account authUrl := by
  cases failure with
  | none =>
    exact h.quiet rfl le_rfl
      (h.inStep.same rfl rfl fun hidle => hidle.elim (absurd · hr.1) (absurd · hr.2))
      [d] (by simpa using hd) (List.append_assoc _ _ _).symm hl (.refl _) (.refl _)
  | some error => exact broken_counted h _

/-- The session takes a number that no request gets. -/
theorem takeNumber_counted (h : l.Counted envelope account authUrl) :
    Counted envelope account authUrl
      { l with session := { l.session with nextNumber := l.session.nextNumber + 1 } } :=
  h.silent rfl (Nat.le_succ _) (h.inStep.same rfl rfl id) rfl (.refl _) (.refl _) (.refl _)

theorem login_counted (h : l.Counted envelope account authUrl) (failure : Option String) :
    (l.login failure).Counted envelope account authUrl := by
  have h' := takeNumber_counted h
  simp only [login, Session.login_eq]
  split
  · exact h'.silent rfl le_rfl (h'.inStep.same rfl rfl (by simp [WorkerStage.replay])) rfl
      (List.nil_sublist _) (.refl _) (.refl _)
  · exact write_counted rfl h' failure _ (by simp [WorkerStage.replay]) (List.nil_sublist _)

/-- Letters for a request are written under the number that the session gives out next. -/
theorem Counted.request (h : l.Counted envelope account authUrl) {r : SubscriptionRequest}
    (hr : r.number = l.session.nextNumber) (hd : l'.session.dialect = l.session.dialect)
    (hn : l'.session.nextNumber = l.session.nextNumber + 1) (hstep : l'.InStep)
    (hsent : l'.earlier ++ l'.sent = l.earlier ++ l.sent)
    (hunsent : l'.unsent.Perm (l.unsent ++ r.letters l.session.dialect)) :
    l'.Counted envelope account authUrl := by
  have hnumbered := h.numbered
  rw [h.dialect] at hunsent
  rw [← hr] at hnumbered hn
  refine ⟨hd.trans h.dialect, hstep, ?_⟩
  rw [hn]
  exact hnumbered.append_letters.subperm (traffic_perm _ hsent hunsent).subperm

theorem snapshot_eq (hne : l.session.subscriptions ≠ []) :
    l.snapshot = { l with
      session := { l.session with nextNumber := l.session.nextNumber + 1 }
      stage := .replaying (SubscriptionRequest.letters l.session.dialect
        ⟨l.session.subscriptions, .subscribe, l.session.nextNumber⟩) } := by
  simp [snapshot, Session.replay, hne, Session.takeNumber, SubscriptionRequest.letters]

theorem snapshot_counted (h : l.Counted envelope account authUrl) (hs : l.stage = .loggedIn) :
    l.snapshot.Counted envelope account authUrl := by
  by_cases hne : l.session.subscriptions = []
  · have hreplay : l.session.replay = ([], l.session) := by simp [Session.replay, hne]
    have hsame : l.snapshot = { l with stage := .replaying [] } := by simp [snapshot, hreplay]
    rw [hsame]
    exact h.silent rfl le_rfl (h.inStep.same rfl rfl (by simp [WorkerStage.replay])) rfl
      (List.nil_sublist _) (.refl _) (.refl _)
  · let request : SubscriptionRequest :=
      ⟨l.session.subscriptions, .subscribe, l.session.nextNumber⟩
    rw [snapshot_eq hne]
    refine h.request (r := request) rfl rfl rfl
      (h.inStep.same rfl rfl (by simp [WorkerStage.replay])) rfl ?_
    simp only [unsent, hs, WorkerStage.left, List.nil_append, List.append_assoc]
    rw [← List.append_assoc l.queued]
    exact List.perm_append_comm

theorem resend_counted (h : l.Counted envelope account authUrl) (failure : Option String)
    {left : List Letter} (hs : l.stage = .replaying left) :
    (l.resend failure left).Counted envelope account authUrl := by
  cases left with
  | nil =>
    simp only [resend, serve]
    split
    · exact h.silent rfl le_rfl (.emptied rfl rfl) rfl (List.nil_sublist _) (List.nil_sublist _)
        (.refl _)
    · exact h.silent rfl le_rfl (h.inStep.same rfl rfl (by simp [WorkerStage.replay])) rfl
        (List.nil_sublist _) (.refl _) (.refl _)
  | cons letter left =>
    cases failure with
    | none =>
      -- The letter only goes from what is left of the replay to what is sent.
      have htraffic : (l.resend none (letter :: left)).traffic = l.traffic := by
        simp [resend, write, traffic, unsent, posted, hs, WorkerStage.left]
      refine ⟨h.dialect, h.inStep.same rfl rfl (by simp [resend, write, WorkerStage.replay]), ?_⟩
      rw [htraffic]
      exact h.numbered
    | some error => exact broken_counted h _

theorem receive_counted (h : l.Counted envelope account authUrl) (now : Int) (bytes : Bytes)
    (failure : Option (Nat × String)) {inbox : Inbox} :
    (l.receive inbox now bytes failure).Counted envelope account authUrl := by
  obtain ⟨⟨pending, heartbeat, hsession⟩, _⟩ :=
    l.session.receiveOver_answered inbox now bytes failure
  simp only [receive, put, hsession]
  generalize l.session.receiveOver inbox now bytes failure = received
  obtain ⟨⟨_, outputs, fault⟩, inbox'⟩ := received
  have hreplies : ∀ x ∈ outputs.filterMap SessionOutput.reply?, x.request? = none := by
    intro x hx
    obtain ⟨f, rfl⟩ := SessionOutput.exists_of_mem_replies hx
    rfl
  cases fault with
  | none | some reason =>
    exact h.quiet rfl le_rfl (h.inStep.same rfl rfl (by simp [WorkerStage.replay])) _ hreplies
      (List.append_assoc _ _ _).symm (List.nil_sublist _) (.refl _) (.refl _)

theorem drain_counted (h : l.Counted envelope account authUrl) (failure : Option String)
    {inbox : Inbox} (hs : l.stage = .serving inbox) :
    (l.drain failure).Counted envelope account authUrl := by
  unfold drain Session.dequeue?
  cases hq : l.session.queue with
  | none => exact h
  | some texts =>
    cases texts with
    | nil => exact h
    | cons text texts =>
      have htexts := h.inStep.texts
      rw [hq, Option.getD_some] at htexts
      obtain ⟨letter, rest, hqueued, rfl, hrest⟩ := List.map_eq_cons_iff.mp htexts.symm
      simp only [hqueued, List.tail_cons, List.head?_cons, Option.bind_some]
      cases failure with
      | none =>
        -- The letter only goes from the queue to what is sent.
        refine ⟨h.dialect, ⟨by simp [write, hs, WorkerStage.replay], hrest.symm⟩, ?_⟩
        have htraffic : l.traffic = l.earlier ++ (l.sent ++ [letter.dispatch]) ++
            (l.stage.left ++ rest ++ l.posted).map Letter.dispatch := by
          simp [traffic, unsent, hs, hqueued, WorkerStage.left]
        have hnumbered := h.numbered
        rw [htraffic] at hnumbered
        exact hnumbered
      | some error =>
        exact h.silent rfl le_rfl ⟨by simp [write, WorkerStage.replay], hrest.symm⟩ rfl
          (List.nil_sublist _) (hqueued ▸ List.sublist_cons_self letter rest) (.refl _)

theorem ping_counted (h : l.Counted envelope account authUrl) (elapsed : Nat)
    (failure : Option String) {inbox : Inbox} (hs : l.stage = .serving inbox) :
    (l.ping elapsed failure).Counted envelope account authUrl := by
  have h' : Counted envelope account authUrl { l with session := (l.session.ping elapsed).2 } :=
    h.silent rfl (Nat.le_succ _) (h.inStep.same rfl rfl id) rfl (.refl _) (.refl _) (.refl _)
  exact write_counted rfl h' failure _ (by simp [hs, WorkerStage.replay]) (.refl _)

theorem refresh_counted (h : l.Counted envelope account authUrl) (failure : Option String)
    {inbox : Inbox} (hs : l.stage = .serving inbox) :
    (l.refresh failure).Counted envelope account authUrl := by
  have h' := takeNumber_counted h
  simp only [refresh, Session.refresh_eq]
  split
  · exact h'
  · exact write_counted rfl h' failure _ (by simp [hs, WorkerStage.replay]) (.refl _)

theorem wake_counted (h : l.Counted envelope account authUrl) (hs : l.stage = .resting) :
    l.wake.Counted envelope account authUrl :=
  h.silent rfl le_rfl (h.inStep.same rfl rfl fun _ => .inl (by simp [hs, WorkerStage.replay])) rfl
    (List.nil_sublist _) (.refl _) (.refl _)

theorem change_counted (h : l.Counted envelope account authUrl) (name : String)
    (action : SubscriptionAction) : (l.change name action).Counted envelope account authUrl := by
  obtain ⟨changed, subscriptions, hset⟩ := l.session.changeSet_eq (Text.trim name) action
  have h' : Counted envelope account authUrl
      { l with session := { l.session with subscriptions } } :=
    h.silent rfl le_rfl (h.inStep.same rfl rfl id) rfl (.refl _) (.refl _) (.refl _)
  simp only [change, hset]
  split
  · exact h
  · cases changed with
    | false => exact h'
    | true =>
      refine h'.silent rfl le_rfl (h'.inStep.same rfl rfl id) rfl (.refl _) (.refl _) ?_
      simp [posted, CallStage.letters]

theorem post_counted (h : l.Counted envelope account authUrl) (text : String) :
    Counted envelope account authUrl
      { l with calls := l.calls ++ [⟨none, .posting [⟨text, none⟩]⟩] } := by
  refine ⟨h.dialect, h.inStep.same rfl rfl id, ?_⟩
  have htraffic : Line.traffic { l with calls := l.calls ++ [⟨none, .posting [⟨text, none⟩]⟩] } =
      l.traffic ++ [{ frame := .text text }] := by
    simp [traffic, unsent, posted, CallStage.letters, Letter.dispatch]
  rw [htraffic]
  exact h.numbered.append_plain (by simp)

/-- A call has its letters at one place among all that are to be put into the queue. -/
theorem posted_follow {n : Nat} {c : Call} (hn : l.calls[n]? = some c) :
    ∃ before after, l.posted = before ++ (c.stage.letters ++ after) ∧
      ∀ step, (l.follow n c step).posted = before ++ (step.1.letters ++ after) := by
  obtain ⟨hlt, hget⟩ := List.getElem?_eq_some_iff.mp hn
  have hcalls : l.calls = l.calls.take n ++ c :: l.calls.drop (n + 1) := by
    rw [← hget, List.getElem_cons_drop, List.take_append_drop]
  have hset : ∀ c', l.calls.set n c' = l.calls.take n ++ c' :: l.calls.drop (n + 1) := fun _ =>
    List.set_eq_take_append_cons_drop.trans (if_pos hlt)
  refine ⟨(l.calls.take n).flatMap (·.stage.letters),
    (l.calls.drop (n + 1)).flatMap (·.stage.letters), ?_, fun step => ?_⟩
  · simpa [posted] using congrArg (List.flatMap (·.stage.letters)) hcalls
  · simp [posted, follow, hset]

theorem follow_counted (h : l.Counted envelope account authUrl) {n : Nat} {c : Call}
    (hn : l.calls[n]? = some c) {step : CallStage × Session × List Letter}
    (hstep : Advance l c step) : (l.follow n c step).Counted envelope account authUrl := by
  obtain ⟨before, after, hposted, hfollow⟩ := posted_follow hn
  -- A call that goes on with some of its letters, or with none.
  have hfewer : ∀ stage : CallStage, stage.letters.Sublist c.stage.letters →
      (l.follow n c (stage, l.session, l.queued)).Counted envelope account authUrl := by
    intro stage hletters
    refine h.silent rfl le_rfl (h.inStep.same rfl rfl id) rfl (.refl _) (.refl _) ?_
    rw [hposted, hfollow]
    exact (List.Sublist.refl _).append (hletters.append (.refl _))
  cases hstep with
  | wait => exact hfewer _ (.refl _)
  | test hc =>
    refine hfewer _ ?_
    split <;> exact List.nil_sublist _
  | number name action hc hchange =>
    let request : SubscriptionRequest := ⟨[name], action, l.session.nextNumber⟩
    have hposted : l.posted = before ++ after := by simpa [hc, CallStage.letters] using hposted
    refine h.request (r := request) rfl rfl rfl (h.inStep.same rfl rfl id) rfl ?_
    rw [unsent, unsent, hfollow, hposted]
    simp only [List.append_assoc]
    exact ((List.perm_append_comm.append_left _).append_left _).append_left _
  | idle hc hchange => exact hfewer _ (List.nil_sublist _)
  | fetch letter rest hc hq => exact hfewer _ (by simp [hc, CallStage.letters])
  | miss letter rest hc hq => exact hfewer _ (by simp [hc, CallStage.letters])
  | enqueue letter rest texts hc hq =>
    have htexts := h.inStep.texts
    rw [hq, Option.getD_some] at htexts
    have hposted : l.posted = before ++ (letter :: rest ++ after) := by
      simpa [hc, CallStage.letters] using hposted
    refine ⟨h.dialect, ⟨fun hidle => ?_, by simp [follow, htexts]⟩,
      h.numbered.subperm (List.Perm.subperm ?_)⟩
    · -- There is a queue, so the connection is up.
      have hnone := (h.inStep.closed hidle).1
      rw [hq] at hnone
      contradiction
    · rw [← List.append_nil l.traffic]
      refine traffic_perm [] rfl ?_
      rw [unsent, unsent, hfollow, hposted]
      simp only [follow, List.append_assoc, List.cons_append, List.nil_append, List.append_nil]
      exact (List.perm_middle.symm.append_left _).append_left _
  | lose connection letter rest hc hq => exact hfewer _ (by simp [hc, CallStage.letters])

theorem goOn_counted (h : l.Counted envelope account authUrl) (n : Nat) :
    (l.goOn n).Counted envelope account authUrl := by
  unfold goOn
  cases hn : l.calls[n]? with
  | none => exact h
  | some c => exact follow_counted h hn (l.next_advance c)

theorem act_counted (h : l.Counted envelope account authUrl) (a : LineAction) :
    (l.act a).Counted envelope account authUrl := by
  have heffect := l.act_effect a
  generalize l.act a = l' at heffect ⊢
  -- One lemma for each effect that takes a number or writes a request; the others are silent.
  cases heffect with
  | idle => exact h
  | connect => exact connect_counted h
  | leave | left | prepare number v =>
    exact h.silent rfl le_rfl (h.inStep.same rfl rfl id) rfl (.refl _) (.refl _) (.refl _)
  | stop => exact stop_counted h
  | failAttempt e noise hs => exact failAttempt_counted h e noise hs
  | establish hs => exact establish_counted h hs
  | openQueue hs => exact openQueue_counted h hs
  | login failure hs => exact login_counted h failure
  | snapshot hs => exact snapshot_counted h hs
  | resend failure left hs => exact resend_counted h failure hs
  | receive now bytes failure inbox hs => exact receive_counted h now bytes failure
  | finish inbox hs => exact broken_counted h _
  | drain failure inbox hs => exact drain_counted h failure hs
  | ping elapsed failure inbox hs => exact ping_counted h elapsed failure hs
  | refresh failure inbox hs => exact refresh_counted h failure hs
  | timeOut inbox hs => exact broken_counted h _
  | closeQueue reason hs =>
    exact h.silent rfl le_rfl (.emptied rfl rfl) rfl (.refl _) (List.nil_sublist _) (.refl _)
  | fault noise reason hs => exact fault_counted h noise reason
  | wake hs => exact wake_counted h hs
  | change name action => exact change_counted h name action
  | post text => exact post_counted h text
  | goOn n => exact goOn_counted h n
  | takeNumber => exact takeNumber_counted h

theorem run_counted (h : l.Counted envelope account authUrl) (as : List LineAction) :
    (l.run as).Counted envelope account authUrl := by
  induction as generalizing l with
  | nil => exact h
  | cons a as ih => exact ih (act_counted h a)

theorem opened_counted (envelope : Envelope) (account authUrl : String) (channel : Channel)
    (config : SessionConfig Float) (credentials : Credentials) :
    (opened (.grvt envelope account authUrl) channel config credentials).Counted
      envelope account authUrl where
  dialect := rfl
  inStep := .emptied rfl rfl
  numbered := ⟨by simp [traffic, unsent, opened, posted, WorkerStage.left], .nil⟩

/-- The frames of requests that a session has sent, on whatever connection. -/
def requestFrames (l : Line) : List Dispatch :=
  (l.earlier ++ l.sent).filter (·.request?.isSome)

theorem requestFrames_sublist (l : Line) : l.requestFrames.Sublist l.traffic :=
  List.filter_sublist.trans (List.sublist_append_left _ _)

/-- A frame of a request carries its number, or one behind it for another of its streams. -/
theorem Counted.number_of_mem (h : l.Counted envelope account authUrl) :
    ∀ x ∈ l.requestFrames, ∃ r n, x.request? = some r ∧ x.number? = some n ∧
      r.number ≤ n ∧ n < r.number + r.span := by
  intro x hx
  obtain ⟨r, hr⟩ := Option.isSome_iff_exists.mp (List.mem_filter.mp hx).2
  obtain ⟨-, n, hn, hle, hlt⟩ := h.numbered.known x (l.requestFrames_sublist.subset hx) r hr
  exact ⟨r, n, hr, hn, hle, hlt⟩

/-- Two frames that both carry the numbers of their requests carry different ones. -/
theorem Counted.pairwise_isExtra (h : l.Counted envelope account authUrl) :
    l.requestFrames.Pairwise fun x y => x.number? = y.number? → x.IsExtra ∨ y.IsExtra := by
  refine (h.numbered.apart.sublist l.requestFrames_sublist).imp_of_mem fun {x y} hx hy hxy he => ?_
  obtain ⟨r, -, hr, -⟩ := h.number_of_mem x hx
  obtain ⟨s, -, hs, -⟩ := h.number_of_mem y hy
  -- If both frames carry the numbers of their requests, these requests have one number, and frames
  -- of such requests carry different ones.
  by_contra hextra
  obtain ⟨hxown, hyown⟩ := not_or.mp hextra
  have hxnumber : x.number? = some r.number := not_not.mp fun hne => hxown ⟨r, hr, hne⟩
  have hynumber : y.number? = some s.number := not_not.mp fun hne => hyown ⟨s, hs, hne⟩
  have hsame : r.number = s.number := Option.some.inj (hxnumber.symm.trans (he.trans hynumber))
  exact hxy r s hr hs hsame he

/-- A request for one stream has no frame with another number than its own. -/
theorem Counted.not_isExtra (h : l.Counted envelope account authUrl) {x : Dispatch}
    (hx : x ∈ l.requestFrames) (hspan : ∀ r, x.request? = some r → r.span = 1) : ¬x.IsExtra := by
  rintro ⟨s, hs, hne⟩
  obtain ⟨r, n, hr, hn, hle, hlt⟩ := h.number_of_mem x hx
  obtain rfl : r = s := Option.some.inj (hr.symm.trans hs)
  rw [hspan r hr] at hlt
  exact hne (hn.trans (congrArg some (by omega)))

/-- Replaying channels of several streams uses up the number that is given out next. -/
theorem snapshot_takes_next (hd : l.session.dialect = .grvt envelope account authUrl)
    (hs : l.stage = .loggedIn) (hspan : 2 ≤ (Grvt.groups l.session.subscriptions).length) :
    ∃ x ∈ (l.act .snapshot).stage.left,
      x.dispatch.number? = some (l.act .snapshot).session.nextNumber := by
  have hact : l.act .snapshot = l.snapshot := by simp [act, hs]
  have hne : l.session.subscriptions ≠ [] := by
    intro hnil
    simp [hnil, Grvt.groups] at hspan
  let request : SubscriptionRequest :=
    ⟨l.session.subscriptions, .subscribe, l.session.nextNumber⟩
  have hmem : some (l.session.nextNumber + 1) ∈
      (request.letters l.session.dialect).map (·.dispatch.number?) := by
    rw [hd, request.numbers_letters]
    exact List.mem_map_of_mem (List.mem_range'_1.mpr ⟨Nat.le_succ _, Nat.add_lt_add_left hspan _⟩)
  obtain ⟨x, hx, hnumber⟩ := List.mem_map.mp hmem
  rw [hact, snapshot_eq hne]
  exact ⟨x, hx, hnumber⟩

/--
In every run of a session, a frame of a request carries the number that the request was given, or
one of those behind it, as many as the request spans streams; and two frames carry the same number
only if one of them carries another number than its request was given. So all numbers are different
as long as each request spans one stream. A replay that spans several, though, carries the number
that the session gives out next.
-/
theorem numbers_apart_unless_spread (envelope : Envelope) (account authUrl : String)
    (channel : Channel) (config : SessionConfig Float) (credentials : Credentials)
    (as : List LineAction) :
    let l := (opened (.grvt envelope account authUrl) channel config credentials).run as
    (∀ x ∈ l.requestFrames, ∃ r n, x.request? = some r ∧ x.number? = some n ∧
      r.number ≤ n ∧ n < r.number + r.span) ∧
    (l.requestFrames.Pairwise fun x y => x.number? = y.number? → x.IsExtra ∨ y.IsExtra) ∧
    ((∀ x ∈ l.requestFrames, ∀ r, x.request? = some r → r.span = 1) →
      (l.requestFrames.map Dispatch.number?).Nodup) ∧
    (l.stage = .loggedIn → 2 ≤ (Grvt.groups l.session.subscriptions).length →
      ∃ x ∈ (l.act .snapshot).stage.left,
        x.dispatch.number? = some (l.act .snapshot).session.nextNumber) := by
  intro l
  have h : l.Counted envelope account authUrl :=
    run_counted (opened_counted envelope account authUrl channel config credentials) as
  refine ⟨h.number_of_mem, h.pairwise_isExtra, fun hspan => ?_, snapshot_takes_next h.dialect⟩
  -- With one frame to each request neither of the two is an extra one, so their numbers differ.
  refine List.pairwise_map.mpr (h.pairwise_isExtra.imp_of_mem fun {x y} hx hy hextra he => ?_)
  exact (hextra he).elim (h.not_isExtra hx (hspan x hx)) (h.not_isExtra hy (hspan y hy))

/-- A session that has channels of two streams when it connects, and subscribes to one more. -/
def spreadLine : Line :=
  opened (.grvt .full "" Dialect.defaultAuthUrl) .public .standard .none

def spreadRun : List LineAction :=
  [.change "v1.trade:A" .subscribe, .goOn 0, .change "v1.book.s:B" .subscribe, .goOn 1, .connect,
    .establish, .openQueue, .login none, .snapshot, .resend none, .resend none, .resend none,
    .change "v1.trade:C" .subscribe, .goOn 2, .goOn 2, .goOn 2, .goOn 2, .drain none]

/-- The replay carries the numbers 2 and 3, and the request after it carries 3 again. -/
theorem spread_number_given_again :
    (spreadLine.run spreadRun).requestFrames.map Dispatch.number? = [some 2, some 3, some 3] ∧
      ¬((spreadLine.run spreadRun).requestFrames.map Dispatch.number?).Nodup := by
  let replay : SubscriptionRequest := ⟨["v1.book.s:B", "v1.trade:A"], .subscribe, 2⟩
  let change : SubscriptionRequest := ⟨["v1.trade:C"], .subscribe, 3⟩
  have hframes : (spreadLine.run spreadRun).requestFrames =
      [Letter.dispatch ⟨Grvt.request .full 2 "subscribe" "v1.book.s" ["B"], some replay⟩,
        Letter.dispatch ⟨Grvt.request .full 3 "subscribe" "v1.trade" ["A"], some replay⟩,
        Letter.dispatch ⟨Grvt.request .full 3 "subscribe" "v1.trade" ["C"], some change⟩] := by
    rfl
  have hnumbers : (spreadLine.run spreadRun).requestFrames.map Dispatch.number? =
      [some 2, some 3, some 3] := by
    simp only [hframes, List.map_cons, List.map_nil, Letter.number?_dispatch,
      Grvt.requestNumber?_request]
  exact ⟨hnumbers, by rw [hnumbers]; decide⟩

end Line

end VenueGateway
