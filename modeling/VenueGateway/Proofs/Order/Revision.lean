import VenueGateway.Proofs.Order.Accounting

namespace VenueGateway

theorem Amount.getD_getD {α : Type} (a : Option α) (x : α) : a.getD (a.getD x) = a.getD x := by
  cases a <;> rfl

theorem OrderState.receive_again (s : OrderState) {kind : EventKind} (h : kind ≠ .fill) :
    ((s.receive kind).state.receive kind).isApplied = false := by
  cases s <;> cases kind <;> first | exact absurd rfl h | decide

namespace OrderEntry

section Steps

variable {α : Type}

theorem step_of_not_applied {entry : OrderEntry α} {kind : EventKind} {now : Int}
    (h : (entry.step kind now).2.isApplied = false) : (entry.step kind now).1 = entry := by
  unfold step at h ⊢
  cases hr : entry.state.receive kind with
  | applied source target =>
    rw [hr] at h
    cases h
  | ignored state kind' => rfl

theorem stepIf_of_none_applied {entry : OrderEntry α} {b : Bool} {kind : EventKind} {now : Int}
    (h : ∀ t ∈ (entry.stepIf b kind now).2, t.isApplied = false) :
    (entry.stepIf b kind now).1 = entry := by
  cases b with
  | false => rfl
  | true => exact step_of_not_applied (h _ List.mem_cons_self)

end Steps

variable {α : Type} [Amount α]

/-- The average price after an event that adds no execution. -/
def revisedAverage (entry : OrderEntry α) (e : OrderEvent α) : α :=
  if e.kind = .fill ∧ entry.state.isTerminal = false then
    (Amount.positive? e.average).getD entry.average
  else entry.average

/-- The entry with all that an event says of the order beside its steps and executions. -/
def revised (entry : OrderEntry α) (e : OrderEvent α) : OrderEntry α :=
  { entry.prepared e with average := entry.revisedAverage e }

/-- A revision is confined to the venue's id, the terms and the average price. -/
theorem revised_frame (entry : OrderEntry α) (e : OrderEvent α) :
    entry.revised e =
      { entry with
        average := (entry.revised e).average
        order := { entry.order with
          venueId := (entry.revised e).order.venueId
          quantity := (entry.revised e).order.quantity
          price := (entry.revised e).order.price } } := by
  unfold revised prepared amend
  split <;> rfl

/-- An event says nothing that is not in the entry already. -/
structure Agrees (entry : OrderEntry α) (e : OrderEvent α) : Prop where
  venueId : entry.order.venueId.or e.venueId = entry.order.venueId
  quantity : entry.state.isTerminal = false →
    (Amount.usable? e.orderQuantity).getD entry.order.quantity = entry.order.quantity
  price : entry.state.isTerminal = false →
    (Amount.usable? e.orderPrice).getD entry.order.price = entry.order.price
  average : e.kind = .fill → entry.state.isTerminal = false →
    (Amount.positive? e.average).getD entry.average = entry.average

theorem prepared_of_agreed {entry : OrderEntry α} {e : OrderEvent α}
    (hv : entry.order.venueId.or e.venueId = entry.order.venueId)
    (hq : entry.state.isTerminal = false →
      (Amount.usable? e.orderQuantity).getD entry.order.quantity = entry.order.quantity)
    (hp : entry.state.isTerminal = false →
      (Amount.usable? e.orderPrice).getD entry.order.price = entry.order.price) :
    entry.prepared e = entry := by
  have ha : entry.adoptVenueId e = entry := by simp only [adoptVenueId, hv]
  cases ht : entry.state.isTerminal with
  | true => rw [prepared_of_isTerminal e ht, ha]
  | false =>
    simp only [prepared, ha, amend, ht, Bool.false_eq_true, if_false, hq ht, hp ht]

/-- The terms that an order has once an event has come in. -/
theorem prepared_terms (entry : OrderEntry α) (e : OrderEvent α) :
    (entry.prepared e).order.venueId = entry.order.venueId.or e.venueId ∧
      (entry.state.isTerminal = false →
        (entry.prepared e).order.quantity =
            (Amount.usable? e.orderQuantity).getD entry.order.quantity ∧
          (entry.prepared e).order.price =
            (Amount.usable? e.orderPrice).getD entry.order.price) := by
  cases ht : entry.state.isTerminal with
  | true =>
    rw [prepared_of_isTerminal e ht]
    exact ⟨rfl, fun h => by cases h⟩
  | false =>
    have ht' : (entry.adoptVenueId e).state.isTerminal = false := ht
    simp only [prepared, amend, ht', Bool.false_eq_true, if_false]
    exact ⟨rfl, fun _ => ⟨rfl, rfl⟩⟩

theorem revised_eq_iff (entry : OrderEntry α) (e : OrderEvent α) :
    entry.revised e = entry ↔ entry.Agrees e := by
  -- Field by field: what is revised is the venue's id, the terms and the average price.
  obtain ⟨hv, hterms⟩ := entry.prepared_terms e
  constructor
  · intro h
    have ho : (entry.prepared e).order = entry.order := (congrArg OrderEntry.order h :)
    have ha : entry.revisedAverage e = entry.average := (congrArg OrderEntry.average h :)
    refine ⟨?_, fun ht => ?_, fun ht => ?_, fun hk ht => ?_⟩
    · rw [← hv, ho]
    · rw [← (hterms ht).1, ho]
    · rw [← (hterms ht).2, ho]
    · rw [revisedAverage, if_pos ⟨hk, ht⟩] at ha
      exact ha
  · intro h
    have ha : entry.revisedAverage e = entry.average := by
      unfold revisedAverage
      split
      · next hc => exact h.average hc.1 hc.2
      · rfl
    rw [revised, prepared_of_agreed h.venueId h.quantity h.price, ha]

theorem climb_of_none_applied {entry : OrderEntry α} {now : Int}
    (h : ∀ t ∈ (entry.climb now).2, t.isApplied = false) : (entry.climb now).1 = entry := by
  have hfirst := stepIf_of_none_applied fun t ht => h t (List.mem_append_left _ ht)
  have hsecond := stepIf_of_none_applied fun t ht => h t (List.mem_append_right _ ht)
  exact hsecond.trans hfirst

/-- An increment that does not count as positive is dust. -/
theorem increment_le_of_not_positive (hε : (0 : α) ≤ Amount.epsilon) {entry : OrderEntry α}
    {f : Fill α} {now : Int} (h : Amount.isPositive (entry.recordFill f now).2 = false) :
    entry.increment f ≤ Amount.epsilon := by
  by_contra hn
  rw [recordFill_of_not_le now hn] at h
  have hpos : ¬ (0 : α) < entry.increment f := of_decide_eq_false h
  -- What is not positive has been set to zero.
  have hz : entry.increment f = 0 := by
    revert hpos
    unfold increment
    cases f.cumulative <;> simp only [Amount.atLeastZero] <;> split <;> simp_all
  exact hn (hz ▸ hε)

theorem receiveFill_of_none_applied (hε : (0 : α) ≤ Amount.epsilon) {entry : OrderEntry α}
    {f : Fill α} {now : Int} (ho : entry.state.isTerminal = false)
    (ht : ∀ t ∈ (entry.receiveFill f now).2.1, t.isApplied = false)
    (hd : Amount.isPositive (entry.receiveFill f now).2.2 = false) :
    (entry.receiveFill f now).1 =
      { entry with average := (Amount.positive? f.average).getD entry.average } := by
  rw [receiveFill_of_isOpen f now ho] at ht hd ⊢
  have ha : entry.acked now = entry :=
    stepIf_of_none_applied fun t hm => ht t (List.mem_append_left _ hm)
  have hc := climb_of_none_applied fun t hm => ht t (List.mem_append_right _ hm)
  rw [ha] at hc hd ⊢
  rw [hc, recordFill_of_le now (increment_le_of_not_positive hε hd)]

theorem receiveStep_of_not_applied {entry : OrderEntry α} {e : OrderEvent α} {now : Int}
    (h : ∀ t ∈ (entry.receiveStep e now).2.1, t.isApplied = false) :
    (entry.receiveStep e now).1 = entry := by
  have hs : (entry.step e.kind now).2.isApplied = false := h _ List.mem_cons_self
  simp only [receiveStep, hs, Bool.false_and, Bool.false_eq_true, if_false]
  exact step_of_not_applied hs

/-- An event that is reported as no change revises the entry and does nothing else to it. -/
theorem receive_of_not_isChange (hε : (0 : α) ≤ Amount.epsilon) {entry : OrderEntry α}
    {e : OrderEvent α} {now : Int} {isNew : Bool}
    (h : (entry.receive e now isNew).2.isChange = false) :
    (entry.receive e now isNew).1 = entry.revised e := by
  simp only [OrderUpdate.isChange, Bool.or_eq_false_iff, List.any_eq_false,
    Bool.not_eq_true] at h
  obtain ⟨⟨-, hd⟩, ht⟩ := h
  have hp := prepared_amended entry e
  -- Only an execution can write an average price, and only to an order that is open.
  by_cases hk : e.kind = .fill
  · rw [receive_of_fill entry now isNew hk] at ht hd ⊢
    cases hs : entry.state.isTerminal with
    | true =>
      rw [receiveFill_of_isTerminal e.fill now (by rw [hp.state, hs]), revised, revisedAverage,
        if_neg (by simp [hs]), ← hp.average]
    | false =>
      rw [receiveFill_of_none_applied hε (by rw [hp.state, hs]) ht hd, revised, revisedAverage,
        if_pos ⟨hk, hs⟩, hp.average]
      rfl
  · rw [receive_of_ne_fill entry now isNew hk] at ht ⊢
    rw [receiveStep_of_not_applied ht, revised, revisedAverage, if_neg fun hc => hk hc.1,
      ← hp.average]

/-- The terms that neither a step nor an execution changes. -/
structure SameTerms (a b : OrderEntry α) : Prop where
  venueId : b.order.venueId = a.order.venueId
  quantity : b.order.quantity = a.order.quantity
  price : b.order.price = a.order.price

theorem receiveFill_terms (entry : OrderEntry α) (f : Fill α) (now : Int) :
    SameTerms entry (entry.receiveFill f now).1 := by
  cases h : entry.state.isTerminal with
  | true =>
    rw [receiveFill_of_isTerminal f now h]
    exact ⟨rfl, rfl, rfl⟩
  | false =>
    rw [receiveFill_of_isOpen f now h]
    have ha := acked_advance entry now
    have hr := recordFill_recorded (entry.acked now) f now
    have hc := climb_advance ((entry.acked now).recordFill f now).1 now
    exact ⟨hc.venueId.trans (hr.venueId.trans ha.venueId),
      hc.quantity.trans (hr.quantity.trans ha.quantity), hc.price.trans (hr.price.trans ha.price)⟩

theorem receiveStep_terms (entry : OrderEntry α) (e : OrderEvent α) (now : Int) :
    SameTerms entry (entry.receiveStep e now).1 := by
  have hs := step_advance entry e.kind now
  simp only [receiveStep]
  split <;> exact ⟨hs.venueId, hs.quantity, hs.price⟩

theorem receive_terms (entry : OrderEntry α) (e : OrderEvent α) (now : Int) (isNew : Bool) :
    SameTerms (entry.prepared e) (entry.receive e now isNew).1 := by
  by_cases hk : e.kind = .fill
  · rw [receive_of_fill entry now isNew hk]
    exact receiveFill_terms _ e.fill now
  · rw [receive_of_ne_fill entry now isNew hk]
    exact receiveStep_terms _ e now

theorem isOpen_of_receive {entry : OrderEntry α} {e : OrderEvent α} {now : Int} {isNew : Bool}
    (h : (entry.receive e now isNew).1.state.isTerminal = false) :
    entry.state.isTerminal = false := by
  cases ht : entry.state.isTerminal with
  | false => rfl
  | true =>
    rw [(entry.receive_walk e now isNew).eq_of_isTerminal ht, ht] at h
    exact h

/-- The second time there is nothing left to take over. -/
theorem prepared_receive (entry : OrderEntry α) (e : OrderEvent α) (now : Int) (isNew : Bool) :
    (entry.receive e now isNew).1.prepared e = (entry.receive e now isNew).1 := by
  have hs := receive_terms entry e now isNew
  obtain ⟨hv, hterms⟩ := entry.prepared_terms e
  apply prepared_of_agreed
  · rw [hs.venueId, hv, Option.or_assoc, Option.or_self]
  · intro ho
    rw [hs.quantity, (hterms (isOpen_of_receive ho)).1, Amount.getD_getD]
  · intro ho
    rw [hs.price, (hterms (isOpen_of_receive ho)).2, Amount.getD_getD]

/-- An order that has gone as far as its executions allow. -/
def IsSettled (entry : OrderEntry α) : Prop :=
  entry.state = .acknowledged ∧ Amount.isPositive entry.filled = false ∨
    entry.state = .partiallyFilled ∧ entry.isComplete = false

theorem climb_settled {entry : OrderEntry α} (now : Int) (ho : entry.state.isTerminal = false)
    (hp : entry.state ≠ .pending) (ho' : (entry.climb now).1.state.isTerminal = false) :
    (entry.climb now).1.IsSettled := by
  have ha := climb_advance entry now
  have hs := climb_state entry now
  unfold IsSettled
  rw [ha.filled, ha.isComplete_eq]
  cases hst : entry.state with
  | pending => exact absurd hst hp
  | acknowledged =>
    simp only [hst] at hs
    cases hf : Amount.isPositive entry.filled <;> cases hd : entry.isComplete <;>
      simp_all [OrderState.isTerminal]
  | partiallyFilled =>
    simp only [hst] at hs
    cases hd : entry.isComplete <;> simp_all [OrderState.isTerminal]
  | filled | cancelled | rejected | expired =>
    rw [hst] at ho
    cases ho

theorem climb_of_isSettled {entry : OrderEntry α} (now : Int) (h : entry.IsSettled) :
    entry.climb now = (entry, []) := by
  rcases h with ⟨hs, hf⟩ | ⟨hs, hd⟩
  · simp [climb, stepIf, hs, hf]
  · simp [climb, stepIf, hs, hd]

theorem receiveFill_settled (entry : OrderEntry α) (f : Fill α) (now : Int)
    (h : (entry.receiveFill f now).1.state.isTerminal = false) :
    (entry.receiveFill f now).1.IsSettled := by
  have ho : entry.state.isTerminal = false := by
    cases ht : entry.state.isTerminal with
    | false => rfl
    | true =>
      rw [receiveFill_of_isTerminal f now ht] at h
      exact ht ▸ h
  -- An open order climbs after the execution, and then stands as high as it can.
  rw [receiveFill_of_isOpen f now ho] at h ⊢
  have hr := (recordFill_recorded (entry.acked now) f now).state
  refine climb_settled now ?_ ?_ h
  · rw [hr, acked_isTerminal, ho]
  · rw [hr]
    exact acked_ne_pending entry now

/-- An average price that the venue gives with an execution is in the entry afterwards. -/
theorem receiveFill_average (entry : OrderEntry α) (f : Fill α) (now : Int)
    (h : entry.state.isTerminal = false) :
    (Amount.positive? f.average).getD (entry.receiveFill f now).1.average =
      (entry.receiveFill f now).1.average := by
  rw [receiveFill_of_isOpen f now h]
  have hc := (climb_advance ((entry.acked now).recordFill f now).1 now).average
  rw [hc]
  by_cases hi : (entry.acked now).increment f ≤ Amount.epsilon
  · rw [recordFill_of_le now hi]
    exact Amount.getD_getD _ _
  · rw [recordFill_of_not_le now hi]
    exact Amount.getD_getD _ _

/-- What an event says beside steps and executions is all in the entry once it has come in. -/
theorem revised_receive (entry : OrderEntry α) (e : OrderEvent α) (now : Int) (isNew : Bool) :
    (entry.receive e now isNew).1.revised e = (entry.receive e now isNew).1 := by
  have ha : (entry.receive e now isNew).1.revisedAverage e =
      (entry.receive e now isNew).1.average := by
    unfold revisedAverage
    split
    · next hc =>
      have ho : (entry.prepared e).state.isTerminal = false := by
        rw [(prepared_amended entry e).state]
        exact isOpen_of_receive hc.2
      rw [receive_of_fill entry now isNew hc.1]
      exact receiveFill_average _ e.fill now ho
    · rfl
  rw [revised, prepared_receive, ha]

/-- A dust increment on a settled order takes no step. -/
theorem receiveFill_of_isSettled {entry : OrderEntry α} {f : Fill α} (now : Int)
    (hs : entry.IsSettled) (hi : entry.increment f ≤ Amount.epsilon)
    (ha : (Amount.positive? f.average).getD entry.average = entry.average) :
    entry.receiveFill f now = (entry, [], 0) := by
  have hst : entry.state = .acknowledged ∨ entry.state = .partiallyFilled :=
    hs.imp And.left And.left
  have hp : entry.stepIf (entry.state = .pending) .ack now = (entry, []) := by
    rcases hst with hst | hst <;> simp [stepIf, hst]
  have ho : entry.state.isTerminal = false := by
    rcases hst with hst | hst <;> rw [hst] <;> rfl
  rw [receiveFill_of_isOpen f now ho, acked, hp, recordFill_of_le now hi, ha,
    climb_of_isSettled now hs]
  rfl

/-- A total that has been taken in adds nothing more. -/
theorem increment_of_credited {entry b : OrderEntry Rat} {f : Fill Rat} {total : Rat}
    (ht : f.cumulative = some total) (hb : b.filled = entry.credited f) :
    b.increment f ≤ Amount.epsilon := by
  have hε := Amount.epsilon_pos
  have hle : total - b.filled ≤ Amount.epsilon := by
    have hc := entry.le_credited_of_cumulative ht
    rw [hb]
    linarith
  simp only [increment, ht]
  rcases lt_or_ge 0 (total - b.filled) with hpos | hneg
  · exact (Amount.atLeastZero_of_pos hpos).le.trans hle
  · exact (Amount.atLeastZero_of_nonpos hneg).le.trans hε.le

/-- Applied a second time, an event that is no incremental execution takes no step and adds no
execution. -/
theorem receive_again (entry : OrderEntry Rat) {e : OrderEvent Rat}
    (h : e.kind ≠ .fill ∨ e.cumulative ≠ none) (now now' : Int) (isNew isNew' : Bool) :
    (∀ t ∈ ((entry.receive e now isNew).1.receive e now' isNew').2.transitions,
      t.isApplied = false) ∧
    ((entry.receive e now isNew).1.receive e now' isNew').2.filled = 0 := by
  -- An execution that comes again finds its total counted and the order as high as it can stand;
  -- any other event finds no step left.
  by_cases hk : e.kind = .fill
  · obtain ⟨total, htotal⟩ := Option.ne_none_iff_exists'.mp (h.resolve_left (not_not.mpr hk))
    have ho : (entry.receive e now isNew).1.state.isTerminal = false →
        entry.state.isTerminal = false := isOpen_of_receive
    rw [receive_of_fill _ now' isNew' hk, prepared_receive]
    rw [receive_of_fill entry now isNew hk] at ho ⊢
    rw [← (prepared_amended entry e).state] at ho
    generalize entry.prepared e = a at ho ⊢
    cases ht : (a.receiveFill e.fill now).1.state.isTerminal with
    | true =>
      rw [receiveFill_of_isTerminal e.fill now' ht]
      exact ⟨List.forall_mem_singleton.mpr rfl, rfl⟩
    | false =>
      have hi := increment_of_credited htotal (receiveFill_filled a e.fill now (ho ht))
      rw [receiveFill_of_isSettled now' (receiveFill_settled a e.fill now ht) hi
        (receiveFill_average a e.fill now (ho ht))]
      exact ⟨List.forall_mem_nil _, rfl⟩
  · constructor
    · rw [receive_transitions_of_ne_fill _ now' isNew' hk, List.forall_mem_singleton,
        receive_of_ne_fill entry now isNew hk]
      change ((((entry.prepared e).receiveStep e now).1.state).receive e.kind).isApplied = false
      rw [receiveStep_state]
      exact OrderState.receive_again _ hk
    · rw [receive_of_ne_fill _ now' isNew' hk]
      rfl

/-- So the second time is no change, and leaves the entry as the first time has left it. -/
theorem receive_replay (entry : OrderEntry Rat) {e : OrderEvent Rat}
    (h : e.kind ≠ .fill ∨ e.cumulative ≠ none) (now now' : Int) (isNew : Bool) :
    ((entry.receive e now isNew).1.receive e now' false).2.isChange = false ∧
      ((entry.receive e now isNew).1.receive e now' false).1 = (entry.receive e now isNew).1 := by
  have hc : ((entry.receive e now isNew).1.receive e now' false).2.isChange = false := by
    obtain ⟨ht, hz⟩ := entry.receive_again h now now' isNew false
    have ha : List.any ((entry.receive e now isNew).1.receive e now' false).2.transitions
        Transition.isApplied = false := by
      simpa using ht
    have hp := (Amount.isPositive_eq_false_iff 0).mpr le_rfl
    rw [OrderUpdate.isChange, hz, hp, ha]
    rfl
  have hr := receive_of_not_isChange Amount.epsilon_pos.le hc
  exact ⟨hc, hr.trans (entry.revised_receive e now _)⟩

end OrderEntry

end VenueGateway
