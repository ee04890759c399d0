import VenueGateway.Proofs.Coordinator.Desk
import VenueGateway.Proofs.Order.Accounting

namespace VenueGateway

namespace Coordinator

variable {α : Type} [Amount α]

theorem receive_update (c : Coordinator α) (e : OrderEvent α) (now : Int) :
    (c.receive e now).1 = ((c.table.target e).receive e now (c.table.find? e.id).isNone).2 :=
  c.table.receive_update e now

theorem find?_receive (c : Coordinator α) (e : OrderEvent α) (now : Int) :
    (c.receive e now).2.1.table.find? e.id = some ((c.table.target e).receive e now false).1 := by
  have hf := c.table.find?_receive e now e.id
  rw [if_pos rfl] at hf
  exact hf

end Coordinator

namespace Desk

open OrderState (Walk)

section Transitions

variable {α : Type} [Factor α] [JsonAmount α]

theorem run_walk (d : Desk α) (as : List (DeskAction α)) (id : String) :
    ∃ ts, Walk (d.table.stateOf id) ts ((d.run as).table.stateOf id) := by
  apply run_table_induction (fun t => ∃ ts, Walk (d.table.stateOf id) ts (t.stateOf id))
  · intro t t' h hs
    obtain ⟨ts, h⟩ := h
    obtain ⟨ts', h'⟩ := hs.walk id
    exact ⟨ts ++ ts', h.append h'⟩
  · exact ⟨[], .stay _⟩

/-- Every update reports a walk from the order's state before the event to its state after it: the
step of the state machine, or for an execution one that leads away from a pending order. The updates
of any list of events join up; and whatever else is done at a desk, no order goes back, leaves an
end, or expires. -/
theorem transitions_sound (d : Desk α) :
    (∀ (e : OrderEvent α) (now : Int),
      (d.coordinator.receive e now).1.previous = d.table.stateOf e.id ∧
      (∃ entry, (d.coordinator.receive e now).2.1.table.find? e.id = some entry ∧
        entry.state = (d.coordinator.receive e now).1.state) ∧
      Walk (d.coordinator.receive e now).1.previous (d.coordinator.receive e now).1.transitions
        (d.coordinator.receive e now).1.state ∧
      (∀ a b, .applied a b ∈ (d.coordinator.receive e now).1.transitions →
        a.canBecome b = true ∧ b ≠ .expired) ∧
      (e.kind ≠ .fill → (d.coordinator.receive e now).1.transitions =
        [(d.table.stateOf e.id).receive e.kind]) ∧
      (e.isConfirmation = true → (d.coordinator.receive e now).1.state ≠ .pending) ∧
      ((∀ t ∈ (d.coordinator.receive e now).1.transitions, t.isApplied = false) →
        (d.coordinator.receive e now).1.state = (d.coordinator.receive e now).1.previous)) ∧
    (∀ (id : String) (es : List (OrderEvent α × Int)),
      Walk (d.table.stateOf id) (d.table.trace id es) ((d.table.receiveAll es).stateOf id)) ∧
    ∀ (id : String) (as : List (DeskAction α)),
      (d.table.stateOf id).rank ≤ ((d.run as).table.stateOf id).rank ∧
      ((d.table.stateOf id).isTerminal = true →
        (d.run as).table.stateOf id = d.table.stateOf id) ∧
      (d.table.stateOf id ≠ .expired → (d.run as).table.stateOf id ≠ .expired) := by
  refine ⟨?_, fun id es => d.table.trace_walk id es, ?_⟩
  · intro e now
    -- The entry that receives the event is the tracked one or a fresh pending one, and its state is
    -- what `stateOf` reads for the id.
    have hs := d.table.target_state e
    have hw := (d.table.target e).receive_walk e now (d.table.find? e.id).isNone
    rw [Coordinator.receive_update, Coordinator.find?_receive]
    refine ⟨hs, ⟨_, rfl, rfl⟩, hw, fun a b => hw.of_mem, ?_, ?_, hw.eq_of_none_applied⟩
    · intro hk
      rw [← hs]
      exact (d.table.target e).receive_transitions_of_ne_fill now _ hk
    · exact (d.table.target e).receive_ne_pending now false
  · intro id as
    -- A whole run is a walk too; rank, terminal states and expiry are facts about walks.
    obtain ⟨ts, hw⟩ := d.run_walk as id
    exact ⟨hw.rank_le, hw.eq_of_isTerminal, hw.ne_expired⟩

end Transitions

/-- An order of which the first execution is all: it is acknowledged, partially filled and filled at
once, and stays filled when the venue reports it cancelled. -/
theorem transitions_sound_filled :
    let e : OrderEvent Rat := { OrderEvent.bare .deribit "a" "BTC-PERPETUAL" .fill 1 with
      fillQuantity := 1, orderQuantity := some 1 }
    let cancel : OrderEvent Rat := { e with kind := .cancel }
    let d := (single .deribit).run [.report (.order e) 2]
    .applied .partiallyFilled .filled ∈ ((single .deribit).coordinator.receive e 2).1.transitions ∧
      OrderState.canBecome .partiallyFilled .filled = true ∧
      ((single .deribit).coordinator.receive e 2).1.state ≠ .pending ∧
      (d.coordinator.receive cancel 3).1.transitions = [.ignored .filled .cancel] ∧
      (d.coordinator.receive cancel 3).1.state = (d.coordinator.receive cancel 3).1.previous ∧
      (d.run [.report (.order cancel) 3]).table.stateOf "a" = .filled ∧
      (d.run [.report (.order cancel) 3]).table.stateOf "a" ≠ .expired := by
  intro e cancel d
  have hm : .applied .partiallyFilled .filled ∈
      ((single .deribit).coordinator.receive e 2).1.transitions := by decide +kernel
  obtain ⟨-, -, -, hlink, -, hconf, -⟩ := (transitions_sound (single .deribit)).1 e 2
  have hs : d.table.stateOf "a" = .filled := by decide +kernel
  obtain ⟨-, -, -, -, hstep, -, hstay⟩ := (transitions_sound d).1 cancel 3
  have ht : (d.coordinator.receive cancel 3).1.transitions = [.ignored .filled .cancel] := by
    refine (hstep (by decide)).trans ?_
    rw [show d.table.stateOf cancel.id = .filled from hs]
    rfl
  obtain ⟨-, hend, hx⟩ := (transitions_sound d).2.2 "a" [.report (.order cancel) 3]
  rw [hs] at hend hx
  exact ⟨hm, (hlink _ _ hm).1, hconf rfl, ht, hstay (by rw [ht]; decide), hend rfl,
    hx (by decide)⟩

/-- The state of every order agrees with its executions in every run, and goes on to do so: no
event and no other step takes an order or an execution back. -/
theorem executions_accounted (venues : List Venue) (registry : Registry Rat)
    (as : List (DeskAction Rat)) :
    (∀ entry ∈ ((opened venues registry).run as).table.entries, entry.Accounted) ∧
    ∀ (bs : List (DeskAction Rat)) (id : String) (entry : OrderEntry Rat),
      ((opened venues registry).run as).table.find? id = some entry →
      ∃ entry', ((opened venues registry).run (as ++ bs)).table.find? id = some entry' ∧
        entry.filled ≤ entry'.filled := by
  constructor
  · apply run_table_induction OrderTable.Accounted
    · exact fun t t' h hs => hs.accounted h
    · intro entry h
      cases h
  · intro bs id entry h
    rw [run_append]
    apply run_table_induction
      (fun t => ∃ entry', t.find? id = some entry' ∧ entry.filled ≤ entry'.filled)
    · intro t t' h hs
      obtain ⟨x, hx, hle⟩ := h
      obtain ⟨y, hy, hle'⟩ := hs.filled_le hx
      exact ⟨y, hy, hle.trans hle'⟩
    · exact ⟨entry, h, le_refl _⟩

/-- An order of which a part is executed, and the rest cancelled. -/
theorem executions_accounted_partial :
    let e : OrderEvent Rat := { OrderEvent.bare .deribit "a" "BTC-PERPETUAL" .fill 1 with
      fillQuantity := 3, orderQuantity := some 10 }
    let d := single .deribit
    ∃ entry entry', (d.run [.report (.order e) 2]).table.find? "a" = some entry ∧
      (d.run [.report (.order e) 2, .report (.order { e with kind := .cancel }) 3]).table.find? "a" =
        some entry' ∧
      entry.filled ≤ entry'.filled := by
  intro e d
  have hs : ((d.run [.report (.order e) 2]).table.find? "a").isSome = true := by decide +kernel
  obtain ⟨entry, h⟩ := Option.isSome_iff_exists.mp hs
  obtain ⟨entry', h', hle⟩ := (executions_accounted _ _ [.report (.order e) 2]).2
    [.report (.order { e with kind := .cancel }) 3] "a" entry h
  exact ⟨entry, entry', h, h', hle⟩

/-- A total reported with an execution is accounted for, whatever was known before. Any other event
leaves executed quantity and average price as they are, so that its total is accounted for just
when it was before. -/
theorem cumulative_accounted_iff (c : Coordinator Rat) (e : OrderEvent Rat) (now : Int)
    (total : Rat) (ht : e.cumulative = some total)
    (ho : (c.table.stateOf e.id).isTerminal = false) :
    ∃ entry, (c.receive e now).2.1.table.find? e.id = some entry ∧
      (total - Amount.epsilon ≤ entry.filled ↔
        e.kind = .fill ∨ total - Amount.epsilon ≤ (c.table.target e).filled) ∧
      (e.kind ≠ .fill → entry.filled = (c.table.target e).filled ∧
        entry.average = (c.table.target e).average) := by
  refine ⟨_, c.find?_receive e now, ?_, ?_⟩
  · rw [OrderEntry.receive_filled]
    -- Only a fill credits a cumulative amount; any other event leaves the filled quantity of the
    -- entry it reaches.
    by_cases hk : e.kind = .fill
    · have hs : (c.table.target e).state.isTerminal = false := by
        rw [c.table.target_state]
        exact ho
      rw [if_pos ⟨hk, hs⟩]
      have hc := (c.table.target e).le_credited_of_cumulative (f := e.fill) ht
      exact iff_of_true hc (Or.inl hk)
    · rw [if_neg fun h => hk h.1]
      exact ⟨Or.inr, fun h => h.resolve_left hk⟩
  · intro hk
    exact ⟨by rw [OrderEntry.receive_filled, if_neg fun h => hk h.1],
      OrderEntry.receive_average _ now false hk⟩

/-- A fill whose total is ahead of what was known. -/
theorem cumulative_accounted_iff_fill :
    let ack : OrderEvent Rat := OrderEvent.bare .deribit "a" "BTC-PERPETUAL" .ack 1
    let e : OrderEvent Rat := { ack with kind := .fill, cumulative := some 4 }
    let d := (single .deribit).run [.report (.order ack) 2]
    ∃ entry, (d.coordinator.receive e 3).2.1.table.find? "a" = some entry ∧
      4 - Amount.epsilon ≤ entry.filled := by
  intro ack e d
  have ho : (d.table.stateOf "a").isTerminal = false := by decide +kernel
  obtain ⟨entry, hf, hi, -⟩ := cumulative_accounted_iff d.coordinator e 3 4 rfl ho
  exact ⟨entry, hf, hi.mpr (Or.inl rfl)⟩

/-- The end of an order may report a total that was never heard of: it is not taken in. -/
theorem cancel_total_not_accounted :
    let ack : OrderEvent Rat := OrderEvent.bare .deribit "a" "BTC-PERPETUAL" .ack 1
    let e : OrderEvent Rat := { ack with kind := .cancel, cumulative := some 4 }
    let d := (single .deribit).run [.report (.order ack) 2]
    (d.table.stateOf "a").isTerminal = false ∧
      ∃ entry, (d.coordinator.receive e 3).2.1.table.find? "a" = some entry ∧
        ¬ 4 - Amount.epsilon ≤ entry.filled := by
  intro ack e d
  have ho : (d.table.stateOf "a").isTerminal = false := by decide +kernel
  have hz : ((d.coordinator.receive e 3).2.1.table.find? "a").map (·.filled) = some 0 := by
    decide +kernel
  obtain ⟨entry, hf, hz⟩ := Option.map_eq_some_iff.mp hz
  refine ⟨ho, entry, hf, ?_⟩
  rw [hz]
  decide +kernel

end Desk

end VenueGateway
