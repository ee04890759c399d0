import VenueGateway.Order.Table

namespace VenueGateway.OrderEntry

section Steps

variable {α : Type}

/-- What the steps of the state machine leave alone: all but the state and the clock. -/
structure Advance (a b : OrderEntry α) : Prop where
  id : b.order.id = a.order.id
  venueId : b.order.venueId = a.order.venueId
  quantity : b.order.quantity = a.order.quantity
  price : b.order.price = a.order.price
  filled : b.filled = a.filled
  average : b.average = a.average
  retries : b.retries = a.retries
  reason : b.reason = a.reason

theorem Advance.refl (a : OrderEntry α) : Advance a a := ⟨rfl, rfl, rfl, rfl, rfl, rfl, rfl, rfl⟩

theorem Advance.trans {a b c : OrderEntry α} (h : Advance a b) (h' : Advance b c) : Advance a c where
  id := h'.id.trans h.id
  venueId := h'.venueId.trans h.venueId
  quantity := h'.quantity.trans h.quantity
  price := h'.price.trans h.price
  filled := h'.filled.trans h.filled
  average := h'.average.trans h.average
  retries := h'.retries.trans h.retries
  reason := h'.reason.trans h.reason

theorem step_advance (entry : OrderEntry α) (kind : EventKind) (now : Int) :
    Advance entry (entry.step kind now).1 := by
  unfold step
  split
  · exact ⟨rfl, rfl, rfl, rfl, rfl, rfl, rfl, rfl⟩
  · exact Advance.refl entry

theorem stepIf_advance (entry : OrderEntry α) (b : Bool) (kind : EventKind) (now : Int) :
    Advance entry (entry.stepIf b kind now).1 := by
  cases b with
  | false => exact Advance.refl entry
  | true => exact step_advance entry kind now

theorem step_transition (entry : OrderEntry α) (kind : EventKind) (now : Int) :
    (entry.step kind now).2 = entry.state.receive kind := by
  unfold step
  split
  · next h => exact h.symm
  · rfl

theorem step_state (entry : OrderEntry α) (kind : EventKind) (now : Int) :
    (entry.step kind now).1.state = (entry.state.receive kind).state := by
  unfold step OrderState.receive
  by_cases h : entry.state.canBecome (entry.state.next kind) = true
  · simp only [h, if_true]
    rfl
  · simp only [h]
    rfl

/-- An event that the state machine ignores leaves the whole entry alone. -/
theorem step_of_ignored (entry : OrderEntry α) (kind : EventKind) (now : Int)
    (h : entry.state.canBecome (entry.state.next kind) = false) :
    entry.step kind now = (entry, .ignored entry.state kind) := by
  simp [step, OrderState.receive, h]

theorem stepIf_state (entry : OrderEntry α) (b : Bool) (kind : EventKind) (now : Int) :
    (entry.stepIf b kind now).1.state =
      if b then (entry.state.receive kind).state else entry.state := by
  cases b with
  | false => rfl
  | true => exact step_state entry kind now

/-- The entry whose execution is recorded: a pending order is acknowledged first. -/
def acked (entry : OrderEntry α) (now : Int) : OrderEntry α :=
  (entry.stepIf (entry.state = .pending) .ack now).1

theorem acked_advance (entry : OrderEntry α) (now : Int) : Advance entry (entry.acked now) :=
  stepIf_advance entry _ .ack now

theorem acked_state (entry : OrderEntry α) (now : Int) :
    (entry.acked now).state =
      if entry.state = .pending then .acknowledged else entry.state := by
  rw [acked, stepIf_state]
  by_cases h : entry.state = .pending
  · simp only [h, decide_true, if_true]
    rfl
  · simp only [h, decide_false, if_false, Bool.false_eq_true]

theorem acked_isTerminal (entry : OrderEntry α) (now : Int) :
    (entry.acked now).state.isTerminal = entry.state.isTerminal := by
  rw [acked_state]
  split
  · next h => rw [h]; rfl
  · rfl

end Steps

variable {α : Type} [Amount α]

/-- The entry on which an event's kind acts: with the venue's name and terms taken over. -/
def prepared (entry : OrderEntry α) (e : OrderEvent α) : OrderEntry α :=
  (entry.adoptVenueId e).amend e

/-- What the venue's name and terms leave alone. -/
structure Amended (a b : OrderEntry α) : Prop where
  id : b.order.id = a.order.id
  state : b.state = a.state
  filled : b.filled = a.filled
  average : b.average = a.average
  retries : b.retries = a.retries
  reason : b.reason = a.reason

theorem prepared_amended (entry : OrderEntry α) (e : OrderEvent α) :
    Amended entry (entry.prepared e) := by
  unfold prepared amend
  split <;> exact ⟨rfl, rfl, rfl, rfl, rfl, rfl⟩

/-- The terms of an order that is over stay as they are. -/
theorem prepared_of_isTerminal {entry : OrderEntry α} (e : OrderEvent α)
    (h : entry.state.isTerminal = true) : entry.prepared e = entry.adoptVenueId e := by
  have ht : (entry.adoptVenueId e).state.isTerminal = true := h
  simp only [prepared, amend, ht, if_true]

theorem receive_of_fill (entry : OrderEntry α) {e : OrderEvent α} (now : Int) (isNew : Bool)
    (h : e.kind = .fill) :
    entry.receive e now isNew =
      (((entry.prepared e).receiveFill e.fill now).1,
        ⟨entry.state, ((entry.prepared e).receiveFill e.fill now).1.state,
          ((entry.prepared e).receiveFill e.fill now).2.1,
          ((entry.prepared e).receiveFill e.fill now).2.2, isNew⟩) := by
  simp only [receive, h]
  rfl

theorem receive_of_ne_fill (entry : OrderEntry α) {e : OrderEvent α} (now : Int) (isNew : Bool)
    (h : e.kind ≠ .fill) :
    entry.receive e now isNew =
      (((entry.prepared e).receiveStep e now).1,
        ⟨entry.state, ((entry.prepared e).receiveStep e now).1.state,
          ((entry.prepared e).receiveStep e now).2.1,
          ((entry.prepared e).receiveStep e now).2.2, isNew⟩) := by
  cases hk : e.kind with
  | fill => exact absurd hk h
  | ack | cancel | reject =>
    simp only [receive, hk]
    rfl

/-- Whether an order is new only shows in the update. -/
theorem receive_entry (entry : OrderEntry α) (e : OrderEvent α) (now : Int) (isNew : Bool) :
    (entry.receive e now isNew).1 = (entry.receive e now false).1 := rfl

theorem recordFill_of_le {entry : OrderEntry α} {f : Fill α} (now : Int)
    (h : entry.increment f ≤ Amount.epsilon) :
    entry.recordFill f now =
      ({ entry with average := (Amount.positive? f.average).getD entry.average }, 0) := by
  simp only [recordFill, if_pos h]

theorem recordFill_of_not_le {entry : OrderEntry α} {f : Fill α} (now : Int)
    (h : ¬ entry.increment f ≤ Amount.epsilon) :
    entry.recordFill f now =
      ({ entry with
          filled := entry.filled + entry.increment f
          average := (Amount.positive? f.average).getD
            (Amount.mulAdd entry.average entry.filled (f.price * entry.increment f) /
              (entry.filled + entry.increment f)) }.touch now,
        entry.increment f) := by
  simp only [recordFill, if_neg h]

/-- What an execution leaves alone. -/
structure Recorded (a b : OrderEntry α) : Prop where
  id : b.order.id = a.order.id
  venueId : b.order.venueId = a.order.venueId
  state : b.state = a.state
  quantity : b.order.quantity = a.order.quantity
  price : b.order.price = a.order.price
  retries : b.retries = a.retries
  reason : b.reason = a.reason

theorem recordFill_recorded (entry : OrderEntry α) (f : Fill α) (now : Int) :
    Recorded entry (entry.recordFill f now).1 := by
  by_cases h : entry.increment f ≤ Amount.epsilon
  · rw [recordFill_of_le now h]
    exact ⟨rfl, rfl, rfl, rfl, rfl, rfl, rfl⟩
  · rw [recordFill_of_not_le now h]
    exact ⟨rfl, rfl, rfl, rfl, rfl, rfl, rfl⟩

theorem receiveFill_of_isTerminal {entry : OrderEntry α} (f : Fill α) (now : Int)
    (h : entry.state.isTerminal = true) :
    entry.receiveFill f now = (entry, [.ignored entry.state .fill], 0) := by
  have hp : decide (entry.state = .pending) = false := by
    cases hs : entry.state <;> simp_all [OrderState.isTerminal]
  simp only [receiveFill, hp, stepIf, Bool.false_eq_true, if_false, h, if_true, List.nil_append]

/-- The two steps that a recorded execution may take. -/
def climb (entry : OrderEntry α) (now : Int) : OrderEntry α × List Transition :=
  let (entry, second) :=
    entry.stepIf (entry.state = .acknowledged && Amount.isPositive entry.filled) .fill now
  let (entry, third) :=
    entry.stepIf (entry.state = .partiallyFilled && entry.isComplete) .fill now
  (entry, second ++ third)

theorem Advance.isComplete_eq {a b : OrderEntry α} (h : Advance a b) :
    b.isComplete = a.isComplete := by
  simp only [isComplete, h.quantity, h.filled]

theorem climb_advance (entry : OrderEntry α) (now : Int) :
    Advance entry (entry.climb now).1 :=
  (stepIf_advance entry _ .fill now).trans (stepIf_advance _ _ .fill now)

/-- An acknowledged order goes as far as its executions allow, a partially filled one to its end. -/
theorem climb_state (entry : OrderEntry α) (now : Int) :
    (entry.climb now).1.state =
      match entry.state with
      | .acknowledged =>
        if Amount.isPositive entry.filled then
          if entry.isComplete then .filled else .partiallyFilled
        else .acknowledged
      | .partiallyFilled => if entry.isComplete then .filled else .partiallyFilled
      | s => s := by
  -- The first step leaves the quantities alone, so that both steps see the same order as complete.
  have hc := (stepIf_advance entry
    (entry.state = .acknowledged && Amount.isPositive entry.filled) .fill now).isComplete_eq
  simp only [climb, stepIf_state, hc]
  cases hs : entry.state <;> cases hp : Amount.isPositive entry.filled <;>
    cases hd : entry.isComplete <;> rfl

theorem receiveFill_of_isOpen {entry : OrderEntry α} (f : Fill α) (now : Int)
    (h : entry.state.isTerminal = false) :
    entry.receiveFill f now =
      ((((entry.acked now).recordFill f now).1.climb now).1,
        (entry.stepIf (entry.state = .pending) .ack now).2 ++
          (((entry.acked now).recordFill f now).1.climb now).2,
        ((entry.acked now).recordFill f now).2) := by
  have ha : (entry.stepIf (entry.state = .pending) .ack now).1.state.isTerminal = false := by
    rw [← h]
    exact acked_isTerminal entry now
  simp only [receiveFill, ha, Bool.false_eq_true, if_false, List.append_assoc]
  rfl

theorem receiveFill_id (entry : OrderEntry α) (f : Fill α) (now : Int) :
    (entry.receiveFill f now).1.order.id = entry.order.id ∧
      (entry.receiveFill f now).1.retries = entry.retries := by
  cases h : entry.state.isTerminal with
  | true =>
    rw [receiveFill_of_isTerminal f now h]
    exact ⟨rfl, rfl⟩
  | false =>
    rw [receiveFill_of_isOpen f now h]
    have ha := acked_advance entry now
    have hr := recordFill_recorded (entry.acked now) f now
    have hc := climb_advance ((entry.acked now).recordFill f now).1 now
    exact ⟨hc.id.trans (hr.id.trans ha.id), hc.retries.trans (hr.retries.trans ha.retries)⟩

/-- What an event that is no execution leaves alone. -/
structure Stepped (a b : OrderEntry α) : Prop where
  id : b.order.id = a.order.id
  quantity : b.order.quantity = a.order.quantity
  filled : b.filled = a.filled
  average : b.average = a.average
  retries : b.retries = a.retries

theorem receiveStep_stepped (entry : OrderEntry α) (e : OrderEvent α) (now : Int) :
    Stepped entry (entry.receiveStep e now).1 := by
  have hs := step_advance entry e.kind now
  simp only [receiveStep]
  split <;> exact ⟨hs.id, hs.quantity, hs.filled, hs.average, hs.retries⟩

theorem receiveStep_state (entry : OrderEntry α) (e : OrderEvent α) (now : Int) :
    (entry.receiveStep e now).1.state = (entry.state.receive e.kind).state := by
  have ht := step_state entry e.kind now
  simp only [receiveStep]
  split <;> exact ht

/-- An event that is no execution takes the one step that the state machine has for it. -/
theorem receive_transitions_of_ne_fill (entry : OrderEntry α) {e : OrderEvent α} (now : Int)
    (isNew : Bool) (h : e.kind ≠ .fill) :
    (entry.receive e now isNew).2.transitions = [entry.state.receive e.kind] := by
  rw [receive_of_ne_fill entry now isNew h]
  change [((entry.prepared e).step e.kind now).2] = _
  rw [step_transition, (prepared_amended entry e).state]

theorem canBecome_next_of_isTerminal {s : OrderState} (h : s.isTerminal = true)
    (kind : EventKind) : s.canBecome (s.next kind) = false := by
  cases s <;> cases kind <;> first | rfl | cases h

/-- An order that is over is changed by no event, but for the venue's own id of it. -/
theorem receive_of_isTerminal {entry : OrderEntry α} (e : OrderEvent α) (now : Int) (isNew : Bool)
    (h : entry.state.isTerminal = true) :
    (entry.receive e now isNew).1 = entry.adoptVenueId e := by
  have ht : (entry.adoptVenueId e).state.isTerminal = true := h
  by_cases hk : e.kind = .fill
  · rw [receive_of_fill entry now isNew hk, prepared_of_isTerminal e h,
      receiveFill_of_isTerminal e.fill now ht]
  · rw [receive_of_ne_fill entry now isNew hk, prepared_of_isTerminal e h]
    simp only [receiveStep, step_of_ignored _ e.kind now (canBecome_next_of_isTerminal ht e.kind),
      Transition.isApplied, Bool.false_and, Bool.false_eq_true, if_false]

/-- No event changes whose entry it is, or how often the order was sent again. -/
theorem receive_id (entry : OrderEntry α) (e : OrderEvent α) (now : Int) (isNew : Bool) :
    (entry.receive e now isNew).1.order.id = entry.order.id ∧
      (entry.receive e now isNew).1.retries = entry.retries := by
  have hp := prepared_amended entry e
  by_cases h : e.kind = .fill
  · rw [receive_of_fill entry now isNew h]
    have hf := receiveFill_id (entry.prepared e) e.fill now
    exact ⟨hf.1.trans hp.id, hf.2.trans hp.retries⟩
  · rw [receive_of_ne_fill entry now isNew h]
    have hs := receiveStep_stepped (entry.prepared e) e now
    exact ⟨hs.id.trans hp.id, hs.retries.trans hp.retries⟩

end VenueGateway.OrderEntry
