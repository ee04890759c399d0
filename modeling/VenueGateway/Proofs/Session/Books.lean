import VenueGateway.Proofs.Session.Channels

namespace VenueGateway

open SubscriptionRequest

/-- Whether a dialect asks for any number of channels in one frame. -/
def Dialect.AsksAtOnce (d : Dialect) : Prop :=
  ∀ channels action number, channels ≠ [] →
    ∃ text, d.subscriptionFrames channels action number = [text]

theorem Dialect.binance_asksAtOnce (receiveWindowMs : Nat) :
    (Dialect.binance receiveWindowMs).AsksAtOnce := by
  intro channels action number hne
  exact ⟨_, by simp only [subscriptionFrames, List.isEmpty_eq_false_iff.mpr hne]; rfl⟩

theorem Dialect.deribit_asksAtOnce : Dialect.deribit.AsksAtOnce := by
  intro channels action number hne
  exact ⟨_, by simp only [subscriptionFrames, List.isEmpty_eq_false_iff.mpr hne]; rfl⟩

/-- How far the replay on a connection is. -/
inductive Replay where
  /-- The connection is given up, or there is none. -/
  | away
  | idle
  /-- There is a connection, without and with a queue; the replay is yet to come. -/
  | fresh
  | opened
  /-- The replay is sent, or on its way. -/
  | begun
deriving DecidableEq, Repr

/-- The books of a session's subscriptions: the set of channels, what was asked for on the
connection or is on its way out, and the calls. They say what a venue has been told, and who still
has to tell it something. -/
structure Books where
  dialect : Dialect
  isConnected : Bool
  subscriptions : List String
  connections : Nat
  queue : Option (List String)
  queued : List Letter
  replay : Replay
  /-- The requests that were sent on the connection, and those on their way out, in order. -/
  written : List Dispatch
  calls : List Call

/-- A frame that is the whole of its request. -/
def Dispatch.IsWhole (d : Dialect) (x : Dispatch) : Prop :=
  ∀ r, x.request? = some r →
    (d.subscriptionFrames r.channels r.action r.number).map Frame.text = [x.frame]

/-- A letter of a call with some change: it is the whole request for it, or no request at all. -/
def Letter.IsOf (d : Dialect) (x : Letter) : Option (String × SubscriptionAction) → Prop
  | none => x.request? = none
  | some (name, action) => ∃ number, x.request? = some ⟨[name], action, number⟩ ∧
      d.subscriptionFrames [name] action number = [x.text]

theorem Letter.IsOf.isWhole {d : Dialect} {x : Letter}
    {change? : Option (String × SubscriptionAction)} (h : x.IsOf d change?) :
    x.dispatch.IsWhole d := by
  intro r hr
  cases change? with
  | none =>
    have hnone : x.request? = none := h
    simp [Letter.dispatch, hnone] at hr
  | some p =>
    obtain ⟨number, hrequest, hframes⟩ := h
    simp only [Letter.dispatch, hrequest, Option.some.injEq] at hr
    subst hr
    simp [hframes, Letter.dispatch]

namespace CallStage

def letters : CallStage → List Letter
  | testing | numbering => []
  | posting letters => letters
  | enqueuing _ letter rest => letter :: rest

/-- Whether the call will yet come to the queue of this connection. -/
def isLive (connections : Nat) : CallStage → Bool
  | testing | numbering => true
  | posting letters => !letters.isEmpty
  | enqueuing connection _ _ => connection == connections

end CallStage

namespace Call

/-- The channel of a change that is under way. -/
def channel? (c : Call) : Option String := if c.isOver then none else c.change?.map (·.1)

/-- A call whose letters are its own, and whose change is in the set of channels. -/
structure IsSound (d : Dialect) (set : List String) (c : Call) : Prop where
  letters : ∀ x ∈ c.stage.letters, x.IsOf d c.change?
  change : c.isOver = false → ∀ name action, c.change? = some (name, action) →
    (name ∈ set ↔ action = .subscribe)

/-- A call that goes on with some of its letters is as sound as before. -/
theorem IsSound.goOn {d : Dialect} {set : List String} {c : Call} (h : c.IsSound d set)
    (hover : c.isOver = false) {stage : CallStage}
    (hletters : ∀ x ∈ stage.letters, x ∈ c.stage.letters) :
    IsSound d set { c with stage } :=
  ⟨fun x hx => h.letters x (hletters x hx), fun _ => h.change hover⟩

/-- A call that will yet tell of a channel. -/
def IsPending (connections : Nat) (name : String) (c : Call) : Prop :=
  (∃ action, c.change? = some (name, action)) ∧ c.stage.isLive connections = true

theorem IsPending.channel? {connections : Nat} {name : String} {c : Call}
    (h : c.IsPending connections name) : c.channel? = some name := by
  obtain ⟨⟨action, hchange⟩, hlive⟩ := h
  have hover : c.isOver = false := by
    cases hc : c.stage with
    | posting letters => simpa [Call.isOver, hc, CallStage.isLive] using hlive
    | testing | numbering | enqueuing => simp [Call.isOver, hc]
  simp [Call.channel?, hover, hchange]

end Call

namespace Books

def requests (b : Books) : List SubscriptionRequest := b.written.filterMap Dispatch.request?

/-- What the venue comes to when all that is on its way has arrived. -/
def tally? (b : Books) : Option (List String) :=
  match b.replay with
  | .away | .idle => none
  | .fresh | .opened => some (applyAll b.requests b.subscriptions)
  | .begun => some (applyAll b.requests [])

/--
The books are kept. On a connection that is up, the venue comes to have each channel just as the
session has it, unless a call that changes the channel is still to tell of it.
-/
structure Kept (b : Books) : Prop where
  atOnce : b.dialect.AsksAtOnce
  ascending : b.subscriptions.Pairwise (· < ·)
  closed : b.replay = .idle ∨ b.replay = .fresh → b.queue = none ∧ b.queued = []
  isOpen : b.replay = .opened ∨ b.replay = .begun → b.queue = some (b.queued.map Letter.text)
  unsent : b.replay = .fresh ∨ b.replay = .opened →
    b.written = (b.queued.map Letter.dispatch).filter (·.request?.isSome)
  whole : ∀ x ∈ b.written, x.IsWhole b.dialect
  calls : ∀ c ∈ b.calls, c.IsSound b.dialect b.subscriptions
  settled : b.isConnected = true → ∀ set, b.tally? = some set → ∀ name,
    (∃ c ∈ b.calls, c.IsPending b.connections name) ∨ (name ∈ set ↔ name ∈ b.subscriptions)

variable {b : Books}

theorem tally?_of_fresh (h : b.Kept) (hr : b.replay = .fresh) :
    b.tally? = some b.subscriptions := by
  have hwritten : b.written = [] := by
    rw [h.unsent (.inl hr), (h.closed (.inr hr)).2]
    rfl
  simp [tally?, hr, requests, hwritten, applyAll]

/-- Where nothing is queued although the connection is up, there is nothing left to settle. -/
theorem settled_of_queue_none (h : b.Kept) (hq : b.queue = none) {set : List String}
    (hset : b.tally? = some set) : set = b.subscriptions := by
  cases hr : b.replay with
  | away => simp [tally?, hr] at hset
  | idle => simp [tally?, hr] at hset
  | fresh =>
    rw [tally?_of_fresh h hr] at hset
    exact (Option.some.inj hset).symm
  | opened => simp [h.isOpen (.inl hr)] at hq
  | begun => simp [h.isOpen (.inr hr)] at hq

theorem Kept.disconnect (h : b.Kept) : Kept { b with isConnected := false } :=
  { h with settled := fun hc => by cases hc }

/-- A connection that is given up owes nothing to anybody. -/
theorem Kept.abandon (h : b.Kept) (isConnected : Bool) (queue : Option (List String))
    (queued : List Letter) {written : List Dispatch} (hw : ∀ x ∈ written, x.IsWhole b.dialect) :
    Kept { b with isConnected, queue, queued, written, replay := .away } where
  atOnce := h.atOnce
  ascending := h.ascending
  closed := by simp
  isOpen := by simp
  unsent := by simp
  whole := hw
  calls := h.calls
  settled := by simp [tally?]

theorem Kept.rest (h : b.Kept) (isConnected : Bool) {written : List Dispatch}
    (hw : ∀ x ∈ written, x.IsWhole b.dialect) :
    Kept { b with isConnected, queue := none, queued := [], written, replay := .idle } where
  atOnce := h.atOnce
  ascending := h.ascending
  closed := fun _ => ⟨rfl, rfl⟩
  isOpen := by simp
  unsent := by simp
  whole := hw
  calls := h.calls
  settled := by simp [tally?]

theorem Kept.establish (h : b.Kept) (hr : b.replay = .idle) :
    Kept { b with isConnected := true, written := [], replay := .fresh } where
  atOnce := h.atOnce
  ascending := h.ascending
  closed := fun _ => h.closed (.inl hr)
  isOpen := by simp
  unsent := fun _ => by simp [(h.closed (.inl hr)).2]
  whole := by simp
  calls := h.calls
  settled := by
    intro _ set hset name
    simp only [tally?, requests, List.filterMap_nil, applyAll, List.foldl_nil,
      Option.some.injEq] at hset
    rw [hset]
    exact .inr Iff.rfl

theorem Kept.openQueue (h : b.Kept) (hr : b.replay = .fresh) :
    Kept { b with queue := some [], connections := b.connections + 1, replay := .opened } where
  atOnce := h.atOnce
  ascending := h.ascending
  closed := by simp
  isOpen := fun _ => by simp [(h.closed (.inr hr)).2]
  unsent := fun _ => h.unsent (.inl hr)
  whole := h.whole
  calls := h.calls
  settled := by
    intro _ set hset name
    have hfresh := tally?_of_fresh h hr
    simp only [tally?, hr] at hset hfresh
    rw [Option.some.inj (hset.symm.trans hfresh)]
    exact .inr Iff.rfl

/-- The replay asks for all channels of the set, whatever is queued behind it. -/
theorem Kept.snapshot (h : b.Kept) (hr : b.replay = .opened) (first : List Dispatch)
    (hw : ∀ x ∈ first, x.IsWhole b.dialect)
    (hfirst : ∀ name, name ∈ applyAll (first.filterMap Dispatch.request?) [] ↔
      name ∈ b.subscriptions) :
    Kept { b with written := first ++ b.written, replay := .begun } where
  atOnce := h.atOnce
  ascending := h.ascending
  closed := by simp
  isOpen := fun _ => h.isOpen (.inl hr)
  unsent := by simp
  whole := List.forall_mem_append.mpr ⟨hw, h.whole⟩
  calls := h.calls
  settled := by
    intro hc set hset name
    -- Until the replay begins the tally starts from the whole set, as if all of it were asked for;
    -- with the requests of the replay in front it starts from nothing.
    have hold := h.settled hc (applyAll b.requests b.subscriptions) (by simp [tally?, hr]) name
    have hnew : name ∈ set ↔ name ∈ applyAll b.requests b.subscriptions := by
      simp only [tally?, requests, List.filterMap_append, applyAll_append, Option.some.injEq]
        at hset
      rw [← hset]
      exact mem_applyAll_congr (hfirst name) _
    exact hold.imp_right hnew.trans

/-- The first text in the queue is that of the first letter. -/
theorem Kept.dequeue (h : b.Kept) (hr : b.replay = .begun) {text : String} {texts : List String}
    (hq : b.queue = some (text :: texts)) :
    ∃ letter rest, letter.text = text ∧ b.queued = letter :: rest ∧
      Kept { b with queue := some texts, queued := rest } := by
  have hmap := (h.isOpen (.inr hr)).symm.trans hq
  cases hqueued : b.queued with
  | nil => simp [hqueued] at hmap
  | cons letter rest =>
    simp only [hqueued, List.map_cons, Option.some.injEq, List.cons.injEq] at hmap
    obtain ⟨htext, hrest⟩ := hmap
    refine ⟨letter, rest, htext, rfl, { h with closed := ?_, isOpen := ?_, unsent := ?_ }⟩
    · simp [hr]
    · simp [hrest]
    · simp [hr]

theorem Call.exists_mem_set {P : Call → Prop} {cs : List Call} {n : Nat} {c c' : Call}
    (hn : cs[n]? = some c) {Q : Prop} (hc : P c → P c' ∨ Q) (h : ∃ x ∈ cs, P x) :
    (∃ x ∈ cs.set n c', P x) ∨ Q := by
  obtain ⟨x, hx, hp⟩ := h
  obtain ⟨i, hi⟩ := List.getElem?_of_mem hx
  obtain ⟨hlt, _⟩ := List.getElem?_eq_some_iff.mp hn
  by_cases hin : i = n
  · subst hin
    rw [hi, Option.some.injEq] at hn
    subst hn
    exact (hc hp).imp_left fun hp' => ⟨c', List.mem_set hlt c', hp'⟩
  · left
    have hi' : (cs.set n c')[i]? = some x := by rw [List.getElem?_set_ne (Ne.symm hin), hi]
    exact ⟨x, List.mem_of_getElem? hi', hp⟩

/-- A call goes on and puts nothing into the queue. -/
theorem Kept.advance (h : b.Kept) {n : Nat} {c c' : Call} (hn : b.calls[n]? = some c)
    (hsound : c'.IsSound b.dialect b.subscriptions)
    (hsettled : b.isConnected = true → ∀ set, b.tally? = some set → ∀ name,
      c.IsPending b.connections name → c'.IsPending b.connections name ∨
        (name ∈ set ↔ name ∈ b.subscriptions)) :
    Kept { b with calls := b.calls.set n c' } :=
  { h with
    calls := by
      intro x hx
      rcases List.mem_or_eq_of_mem_set hx with hx | rfl
      · exact h.calls x hx
      · exact hsound
    settled := by
      intro hc set hset name
      rcases h.settled hc set hset name with hp | hs
      · exact Call.exists_mem_set hn (hsettled hc set hset name) hp
      · exact .inr hs }

theorem requests_filter (xs : List Dispatch) :
    (xs.filter (·.request?.isSome)).filterMap Dispatch.request? =
      xs.filterMap Dispatch.request? := by
  induction xs with
  | nil => rfl
  | cons x xs ih => cases hx : x.request? <;> simp [hx, ih]

section Tally

variable {b' : Books} {set' : List String}

/-- The tally goes on with what is written more. -/
theorem tally?_append (hset' : b'.tally? = some set') (more : List Dispatch)
    (hr : b'.replay = b.replay) (hs : b'.subscriptions = b.subscriptions)
    (hw : b'.written = b.written ++ more.filter (·.request?.isSome)) :
    ∃ set, b.tally? = some set ∧ set' = applyAll (more.filterMap Dispatch.request?) set := by
  unfold tally? requests at hset' ⊢
  rw [hr, hs, hw, List.filterMap_append, requests_filter] at hset'
  cases hreplay : b.replay with
  | away => simp [hreplay] at hset'
  | idle => simp [hreplay] at hset'
  | fresh | opened | begun =>
    simp only [hreplay, applyAll_append, Option.some.injEq] at hset' ⊢
    exact ⟨_, rfl, hset'.symm⟩

/-- A tally says the same of a channel on which the sets of channels agree. -/
theorem tally?_congr (hset' : b'.tally? = some set') (hr : b'.replay = b.replay)
    (hw : b'.written = b.written) {name : String}
    (hs : name ∈ b'.subscriptions ↔ name ∈ b.subscriptions) :
    ∃ set, b.tally? = some set ∧ (name ∈ set' ↔ name ∈ set) := by
  unfold tally? requests at hset' ⊢
  rw [hr, hw] at hset'
  cases hreplay : b.replay with
  | away => simp [hreplay] at hset'
  | idle => simp [hreplay] at hset'
  | fresh | opened =>
    simp only [hreplay, Option.some.injEq] at hset' ⊢
    rw [← hset']
    exact ⟨_, rfl, mem_applyAll_congr hs _⟩
  | begun =>
    simp only [hreplay] at hset' ⊢
    exact ⟨set', hset', Iff.rfl⟩

end Tally

/-- What a letter makes of a channel: its own is as the change says, others stay. -/
theorem mem_applyAll_letter {d : Dialect} {c : Call} {letter : Letter}
    (h : letter.IsOf d c.change?) (set : List String) (name : String) :
    name ∈ applyAll ([letter.dispatch].filterMap Dispatch.request?) set ↔
      (∃ action, c.change? = some (name, action) ∧ action = .subscribe) ∨
        (∀ action, c.change? ≠ some (name, action)) ∧ name ∈ set := by
  -- A letter without a request changes no set; a request is about the one channel of its call.
  cases hchange : c.change? with
  | none =>
    rw [hchange] at h
    have hnone : letter.dispatch.request? = none := h
    simp [hnone, applyAll]
  | some p =>
    obtain ⟨own, action⟩ := p
    rw [hchange] at h
    obtain ⟨number, hrequest, _⟩ := h
    have hsome : letter.dispatch.request? = some ⟨[own], action, number⟩ := hrequest
    by_cases hname : name = own
    · subst hname
      simp [hsome, applyAll, mem_apply]
    · simp [hsome, applyAll, mem_apply, hname, Ne.symm hname]

/-- A call puts a letter into the queue, and its channel is settled by it. -/
theorem Kept.enqueue (h : b.Kept) {n : Nat} {c : Call} (hn : b.calls[n]? = some c)
    {letter : Letter} {rest : List Letter} {texts : List String}
    (hc : c.stage = .enqueuing b.connections letter rest) (hq : b.queue = some texts) :
    Kept { b with
      queue := some (texts ++ [letter.text])
      queued := b.queued ++ [letter]
      written := b.written ++ [letter.dispatch].filter (·.request?.isSome)
      calls := b.calls.set n { c with stage := .posting rest } } := by
  have hsound := h.calls c (List.mem_of_getElem? hn)
  have hletters : ∀ x ∈ letter :: rest, x.IsOf b.dialect c.change? := by
    simpa [hc, CallStage.letters] using hsound.letters
  obtain ⟨hletter, hrest⟩ := List.forall_mem_cons.mp hletters
  have hover : c.isOver = false := by simp [Call.isOver, hc]
  have hqueued : b.replay = .opened ∨ b.replay = .begun → texts = b.queued.map Letter.text :=
    fun hr => Option.some.inj (hq.symm.trans (h.isOpen hr))
  refine {
    atOnce := h.atOnce
    ascending := h.ascending
    closed := fun hr => absurd ((h.closed hr).1.symm.trans hq) (by simp)
    isOpen := fun hr => by simp [hqueued hr]
    unsent := fun hr => by simp [h.unsent hr]
    whole := ?_
    calls := ?_
    settled := ?_ }
  · refine List.forall_mem_append.mpr ⟨h.whole, fun x hx => ?_⟩
    rw [List.mem_singleton.mp (List.mem_of_mem_filter hx)]
    exact hletter.isWhole
  · intro x hx
    rcases List.mem_or_eq_of_mem_set hx with hx | rfl
    · exact h.calls x hx
    · exact ⟨hrest, fun _ => hsound.change hover⟩
  · intro hconnected set' hset' name
    obtain ⟨set, hset, rfl⟩ := tally?_append hset' (b := b) [letter.dispatch] rfl rfl rfl
    rw [mem_applyAll_letter hletter]
    -- The letter settles its own channel the way its call wants it and leaves the others, which are
    -- settled or wait for another call.
    by_cases hown : ∃ action, c.change? = some (name, action)
    · obtain ⟨action, hchange⟩ := hown
      right
      simp [hchange, hsound.change hover name action hchange]
    · have hothers : ∀ action, c.change? ≠ some (name, action) := fun action hchange =>
        hown ⟨action, hchange⟩
      rcases h.settled hconnected set hset name with hp | hs
      · exact Call.exists_mem_set hn (fun hp => absurd hp.1 hown) hp
      · right
        simpa [hothers] using hs

/-- The set of channels changes; no other call for the channel is under way. -/
theorem Kept.change (h : b.Kept) {name : String} {action : SubscriptionAction}
    {subscriptions : List String} (hasc : subscriptions.Pairwise (· < ·))
    (hmem : ∀ c, c ∈ subscriptions ↔ if c = name then action = .subscribe else c ∈ b.subscriptions)
    (hfree : ∀ c ∈ b.calls, c.channel? ≠ some name) :
    Kept { b with
      subscriptions
      calls := b.calls ++ [⟨some (name, action), .testing⟩] } := by
  refine { h with
    ascending := hasc
    calls := List.forall_mem_append.mpr ⟨?_, ?_⟩
    settled := ?_ }
  · intro c hc
    refine ⟨(h.calls c hc).letters, fun hover other action' hchange => ?_⟩
    have hne : other ≠ name := by
      rintro rfl
      exact hfree c hc (by simp [Call.channel?, hover, hchange])
    rw [hmem, if_neg hne]
    exact (h.calls c hc).change hover other action' hchange
  · intro c hc
    rw [List.mem_singleton.mp hc]
    refine ⟨by simp [CallStage.letters], fun _ other action' hchange => ?_⟩
    rw [Option.some.injEq, Prod.mk.injEq] at hchange
    obtain ⟨rfl, rfl⟩ := hchange
    rw [hmem, if_pos rfl]
  · intro hconnected set' hset' other
    -- The channel that changes waits for the new call; no other channel has changed.
    by_cases hother : other = name
    · left
      exact ⟨_, List.mem_append_right _ (List.mem_singleton_self _), ⟨action, by rw [hother]⟩, rfl⟩
    · have hsame : other ∈ subscriptions ↔ other ∈ b.subscriptions := by rw [hmem, if_neg hother]
      obtain ⟨set, hset, hiff⟩ := tally?_congr hset' (b := b) rfl rfl hsame
      rcases h.settled hconnected set hset other with ⟨c, hc, hp⟩ | hs
      · exact .inl ⟨c, List.mem_append_left _ hc, hp⟩
      · exact .inr (hiff.trans (hs.trans hsame.symm))

/-- A set of channels with the same members; nobody has to be told. -/
theorem Kept.resubscribe (h : b.Kept) {subscriptions : List String}
    (hasc : subscriptions.Pairwise (· < ·)) (hmem : ∀ c, c ∈ subscriptions ↔ c ∈ b.subscriptions) :
    Kept { b with subscriptions } := by
  rwa [eq_of_pairwise_of_mem_iff hasc h.ascending hmem]

/-- A call comes that sends a text of its own. -/
theorem Kept.post (h : b.Kept) (text : String) :
    Kept { b with calls := b.calls ++ [⟨none, .posting [⟨text, none⟩]⟩] } :=
  { h with
    calls := by
      refine List.forall_mem_append.mpr ⟨h.calls, fun c hc => ?_⟩
      rw [List.mem_singleton.mp hc]
      exact ⟨by simp [CallStage.letters, Letter.IsOf], fun _ name action hc => by cases hc⟩
    settled := by
      intro hconnected set hset name
      exact (h.settled hconnected set hset name).imp_left fun ⟨c, hc, hp⟩ =>
        ⟨c, List.mem_append_left _ hc, hp⟩ }

end Books

end VenueGateway
