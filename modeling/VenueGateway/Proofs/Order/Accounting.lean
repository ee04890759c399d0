import VenueGateway.Proofs.Amount
import VenueGateway.Proofs.Order.Lifecycle

namespace VenueGateway

/-- Without an execution a state stays, is acknowledged, or is left for an end without executions. -/
theorem OrderState.receive_of_ne_fill (s : OrderState) {kind : EventKind} (h : kind ≠ .fill) :
    (s.receive kind).state = s ∨
      (s = .pending ∧ (s.receive kind).state = .acknowledged) ∨
      ((s.receive kind).state = .cancelled ∨ (s.receive kind).state = .rejected) := by
  cases s <;> cases kind <;> first | exact absurd rfl h | decide

namespace OrderEntry

section Credit

variable {α : Type} [Amount α]

/-- The quantity that counts as executed after an execution; a difference of dust is dropped. -/
def credited (entry : OrderEntry α) (f : Fill α) : α :=
  if entry.increment f ≤ Amount.epsilon then entry.filled else entry.filled + entry.increment f

theorem recordFill_filled (entry : OrderEntry α) (f : Fill α) (now : Int) :
    (entry.recordFill f now).1.filled = entry.credited f := by
  by_cases h : entry.increment f ≤ Amount.epsilon
  · rw [recordFill_of_le now h, credited, if_pos h]
  · rw [recordFill_of_not_le now h, credited, if_neg h]
    rfl

theorem credited_congr {a b : OrderEntry α} (h : b.filled = a.filled) (f : Fill α) :
    b.credited f = a.credited f := by
  have hi : b.increment f = a.increment f := by simp only [increment, h]
  simp only [credited, hi, h]

theorem receiveFill_filled (entry : OrderEntry α) (f : Fill α) (now : Int)
    (h : entry.state.isTerminal = false) :
    (entry.receiveFill f now).1.filled = entry.credited f := by
  rw [receiveFill_of_isOpen f now h]
  refine (climb_advance _ now).filled.trans ?_
  rw [recordFill_filled]
  exact credited_congr (acked_advance entry now).filled f

/-- Only an execution of an order that is still open counts, whatever the event says besides. -/
theorem receive_filled (entry : OrderEntry α) (e : OrderEvent α) (now : Int) (isNew : Bool) :
    (entry.receive e now isNew).1.filled =
      if e.kind = .fill ∧ entry.state.isTerminal = false then entry.credited e.fill
      else entry.filled := by
  -- What comes before the execution changes neither the state nor the quantity.
  have hp := prepared_amended entry e
  by_cases hk : e.kind = .fill
  · rw [receive_of_fill entry now isNew hk]
    cases ht : entry.state.isTerminal with
    | true =>
      have ht' : (entry.prepared e).state.isTerminal = true := by rw [hp.state, ht]
      rw [receiveFill_of_isTerminal e.fill now ht', if_neg (by simp)]
      exact hp.filled
    | false =>
      have ht' : (entry.prepared e).state.isTerminal = false := by rw [hp.state, ht]
      rw [if_pos ⟨hk, rfl⟩, receiveFill_filled _ e.fill now ht']
      exact credited_congr hp.filled e.fill
  · rw [receive_of_ne_fill entry now isNew hk, if_neg fun h => hk h.1]
    exact (receiveStep_stepped _ e now).filled.trans hp.filled

/-- An event that is no execution leaves the average price alone. -/
theorem receive_average (entry : OrderEntry α) {e : OrderEvent α} (now : Int) (isNew : Bool)
    (h : e.kind ≠ .fill) : (entry.receive e now isNew).1.average = entry.average := by
  rw [receive_of_ne_fill entry now isNew h]
  exact (receiveStep_stepped _ e now).average.trans (prepared_amended entry e).average

end Credit

theorem isComplete_iff (entry : OrderEntry Rat) :
    entry.isComplete = true ↔
      0 < entry.order.quantity ∧ entry.order.quantity ≤ entry.filled + Amount.epsilon := by
  unfold isComplete
  rw [Bool.and_eq_true, decide_eq_true_iff, decide_eq_true_iff]

theorem increment_nonneg (entry : OrderEntry Rat) (f : Fill Rat) : 0 ≤ entry.increment f := by
  unfold increment
  split <;> exact Amount.atLeastZero_nonneg _

theorem le_credited (entry : OrderEntry Rat) (f : Fill Rat) : entry.filled ≤ entry.credited f := by
  unfold credited
  split
  · exact le_refl _
  · have hi := entry.increment_nonneg f
    change entry.filled ≤ entry.filled + entry.increment f
    linarith

/-- A total that the venue reports is accounted for, up to dust. -/
theorem le_credited_of_cumulative (entry : OrderEntry Rat) {f : Fill Rat} {c : Rat}
    (h : f.cumulative = some c) : c - Amount.epsilon ≤ entry.credited f := by
  have hi : c - entry.filled ≤ entry.increment f := by
    simp only [increment, h]
    exact Amount.le_atLeastZero _
  have hε := Amount.epsilon_pos
  unfold credited
  split
  · next hle =>
    have hle : entry.increment f ≤ (Amount.epsilon : Rat) := hle
    linarith
  · change c - Amount.epsilon ≤ entry.filled + entry.increment f
    linarith

/-- No event takes an execution back. -/
theorem filled_le_receive (entry : OrderEntry Rat) (e : OrderEvent Rat) (now : Int) (isNew : Bool) :
    entry.filled ≤ (entry.receive e now isNew).1.filled := by
  rw [receive_filled]
  split
  · exact entry.le_credited e.fill
  · exact le_refl _

/-- What the state of an order says of the quantity executed so far. -/
structure Accounted (entry : OrderEntry Rat) : Prop where
  nonneg : 0 ≤ entry.filled
  early : entry.state = .pending ∨ entry.state = .acknowledged → entry.filled = 0
  started : entry.state = .partiallyFilled → 0 < entry.filled
  complete : entry.state = .filled →
    0 < entry.order.quantity ∧ entry.order.quantity ≤ entry.filled + Amount.epsilon

theorem new_accounted (o : Order Rat) : (new o).Accounted where
  nonneg := le_refl _
  early _ := rfl
  started h := by cases h
  complete h := by cases h

/-- The venue's terms change the quantity of open orders only, whose states do not speak of it. -/
theorem Accounted.prepared {entry : OrderEntry Rat} (h : entry.Accounted) (e : OrderEvent Rat) :
    (entry.prepared e).Accounted := by
  have hp := prepared_amended entry e
  refine ⟨?_, ?_, ?_, ?_⟩
  · rw [hp.filled]
    exact h.nonneg
  · rw [hp.filled, hp.state]
    exact h.early
  · rw [hp.filled, hp.state]
    exact h.started
  · rw [hp.filled, hp.state]
    intro hs
    rw [prepared_of_isTerminal e (by rw [hs]; rfl)]
    exact h.complete hs

theorem Accounted.of_acknowledged {entry : OrderEntry Rat} (hs : entry.state = .acknowledged)
    (hf : entry.filled = 0) : entry.Accounted where
  nonneg := hf.ge
  early _ := hf
  started h := by simp [hs] at h
  complete h := by simp [hs] at h

theorem Accounted.of_partiallyFilled {entry : OrderEntry Rat}
    (hs : entry.state = .partiallyFilled) (hf : 0 < entry.filled) : entry.Accounted where
  nonneg := hf.le
  early h := by simp [hs] at h
  started _ := hf
  complete h := by simp [hs] at h

theorem Accounted.of_filled {entry : OrderEntry Rat} (hs : entry.state = .filled)
    (hf : 0 ≤ entry.filled) (hc : entry.isComplete = true) : entry.Accounted where
  nonneg := hf
  early h := by simp [hs] at h
  started h := by simp [hs] at h
  complete _ := entry.isComplete_iff.mp hc

/-- A cancellation or rejection leaves nothing to say but that the quantity is not negative. -/
theorem Accounted.of_off {entry : OrderEntry Rat}
    (hs : entry.state = .cancelled ∨ entry.state = .rejected) (hf : 0 ≤ entry.filled) :
    entry.Accounted where
  nonneg := hf
  early h := by rcases hs with hs | hs <;> simp [hs] at h
  started h := by rcases hs with hs | hs <;> simp [hs] at h
  complete h := by rcases hs with hs | hs <;> simp [hs] at h

/-- Once an execution is recorded, the order climbs as far as its quantities say. -/
theorem climb_accounted {entry : OrderEntry Rat} (now : Int) (hf : 0 ≤ entry.filled)
    (hs : entry.state = .acknowledged ∨ entry.state = .partiallyFilled ∧ 0 < entry.filled) :
    (entry.climb now).1.Accounted := by
  have hc := climb_state entry now
  have ha := climb_advance entry now
  have hfill : 0 ≤ (entry.climb now).1.filled := by rw [ha.filled]; exact hf
  -- The climb goes as far as the quantity carries it: not at all with nothing executed, and to the
  -- end with all of it.
  rcases hs with hs | ⟨hs, hpos⟩
  · cases hp : Amount.isPositive entry.filled with
    | true =>
      have hpos : 0 < (entry.climb now).1.filled := by
        rw [ha.filled]
        exact (Amount.isPositive_iff _).mp hp
      cases hd : entry.isComplete with
      | true =>
        simp only [hs, hp, hd, if_true] at hc
        exact .of_filled hc hfill (ha.isComplete_eq.trans hd)
      | false =>
        simp only [hs, hp, hd, if_true, Bool.false_eq_true, if_false] at hc
        exact .of_partiallyFilled hc hpos
    | false =>
      simp only [hs, hp, Bool.false_eq_true, if_false] at hc
      refine .of_acknowledged hc (le_antisymm ?_ hfill)
      rw [ha.filled]
      exact (Amount.isPositive_eq_false_iff _).mp hp
  · cases hd : entry.isComplete with
    | true =>
      simp only [hs, hd, if_true] at hc
      exact .of_filled hc hfill (ha.isComplete_eq.trans hd)
    | false =>
      simp only [hs, hd, Bool.false_eq_true, if_false] at hc
      exact .of_partiallyFilled hc (by rw [ha.filled]; exact hpos)

theorem receiveFill_accounted {entry : OrderEntry Rat} (f : Fill Rat) (now : Int)
    (h : entry.Accounted) : (entry.receiveFill f now).1.Accounted := by
  cases ht : entry.state.isTerminal with
  | true =>
    rw [receiveFill_of_isTerminal f now ht]
    exact h
  | false =>
    rw [receiveFill_of_isOpen f now ht]
    have hle : entry.filled ≤ ((entry.acked now).recordFill f now).1.filled := by
      rw [recordFill_filled, credited_congr (acked_advance entry now).filled]
      exact entry.le_credited f
    have hs := (recordFill_recorded (entry.acked now) f now).state
    rw [acked_state] at hs
    -- The order climbs from where the implied acknowledgement has brought it.
    refine climb_accounted now (h.nonneg.trans hle) ?_
    cases hst : entry.state with
    | pending | acknowledged =>
      simp only [hst, if_true, reduceCtorEq, if_false] at hs
      exact Or.inl hs
    | partiallyFilled =>
      simp only [hst, reduceCtorEq, if_false] at hs
      exact Or.inr ⟨hs, (h.started hst).trans_le hle⟩
    | filled | cancelled | rejected | expired =>
      rw [hst] at ht
      cases ht

/-- Without an execution an order is only acknowledged or taken off the ladder. -/
theorem receiveStep_accounted {entry : OrderEntry Rat} (e : OrderEvent Rat) (now : Int)
    (h : entry.Accounted) (hk : e.kind ≠ .fill) : (entry.receiveStep e now).1.Accounted := by
  have hstep := receiveStep_stepped entry e now
  have hs := receiveStep_state entry e now
  have hfill : 0 ≤ (entry.receiveStep e now).1.filled := by rw [hstep.filled]; exact h.nonneg
  -- The event is ignored, is the acknowledgement of a pending order, or ends the order.
  rcases entry.state.receive_of_ne_fill hk with hst | ⟨hp, hst⟩ | hst
  · rw [hst] at hs
    refine ⟨hfill, ?_, ?_, ?_⟩ <;> rw [hs, hstep.filled]
    · exact h.early
    · exact h.started
    · rw [hstep.quantity]
      exact h.complete
  · exact .of_acknowledged (hs.trans hst) (hstep.filled.trans (h.early (Or.inl hp)))
  · exact .of_off (by rw [hs]; exact hst) hfill

/-- Whatever an event says, the state of the order goes on to agree with its executions. -/
theorem Accounted.receive {entry : OrderEntry Rat} (h : entry.Accounted) (e : OrderEvent Rat)
    (now : Int) (isNew : Bool) : (entry.receive e now isNew).1.Accounted := by
  by_cases hk : e.kind = .fill
  · rw [receive_of_fill entry now isNew hk]
    exact receiveFill_accounted e.fill now (h.prepared e)
  · rw [receive_of_ne_fill entry now isNew hk]
    exact receiveStep_accounted e now (h.prepared e) hk

theorem ofEvent_accounted (e : OrderEvent Rat) : (ofEvent e).Accounted := new_accounted _

end OrderEntry

namespace OrderTable

def Accounted (t : OrderTable Rat) : Prop := ∀ entry ∈ t.entries, entry.Accounted

theorem target_accounted {t : OrderTable Rat} (h : t.Accounted) (e : OrderEvent Rat) :
    (t.target e).Accounted := by
  unfold target
  cases hf : t.find? e.id with
  | none => exact OrderEntry.ofEvent_accounted e
  | some entry => exact h entry (mem_of_find? hf)

theorem Step.accounted {t t' : OrderTable Rat} (h : t.Accounted) (hs : Step t t') :
    t'.Accounted := by
  intro x hx
  -- Each entry of the new table is one of the old ones or the one that the step has written.
  cases hs with
  | insert o _ hi =>
    obtain ⟨-, rfl⟩ := insertNew?_eq_some hi
    rcases List.mem_append.mp hx with hx | hx
    · exact h x hx
    · rw [List.mem_singleton.mp hx]
      exact OrderEntry.new_accounted o
  | addRetries id n =>
    rcases mem_addRetries hx with ⟨entry, he, rfl⟩ | hx
    · have ha := h entry he
      exact ⟨ha.nonneg, ha.early, ha.started, ha.complete⟩
    · exact h x hx
  | receive e now =>
    rcases mem_receive hx with rfl | hx
    · exact (target_accounted h e).receive e now false
    · exact h x hx

/-- No step of a table loses an order or an execution. -/
theorem Step.filled_le {t t' : OrderTable Rat} (hs : Step t t') {id : String}
    {entry : OrderEntry Rat} (h : t.find? id = some entry) :
    ∃ entry', t'.find? id = some entry' ∧ entry.filled ≤ entry'.filled := by
  cases hs with
  | insert o _ hi =>
    have hne : id ≠ o.id := by
      rintro rfl
      rw [(insertNew?_eq_some hi).1] at h
      cases h
    exact ⟨entry, by rw [find?_insertNew? hi, if_neg hne, h], le_refl _⟩
  | addRetries id' n =>
    obtain ⟨k, hk⟩ := find?_addRetries_of_some h id' n
    exact ⟨_, hk, le_refl _⟩
  | receive e now =>
    by_cases hid : id = e.id
    · subst hid
      exact ⟨_, find?_receive_of_some now h, entry.filled_le_receive e now false⟩
    · rw [find?_receive, if_neg hid]
      exact ⟨entry, h, le_refl _⟩

end OrderTable

end VenueGateway
