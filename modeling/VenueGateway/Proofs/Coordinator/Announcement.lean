import VenueGateway.Proofs.Coordinator.Orders
import VenueGateway.Proofs.Order.Revision

namespace VenueGateway

section Emissions

variable {α : Type}

theorem Emission.published?_observe (os : List Observation) :
    (os.map Emission.observe).filterMap (Emission.published? (α := α)) = [] := by
  simp [List.filterMap_map, Emission.published?]

theorem Emission.announced?_observe (os : List Observation) :
    (os.map Emission.observe).filterMap (Emission.announced? (α := α)) = [] := by
  simp [List.filterMap_map, Emission.announced?]

end Emissions

namespace Coordinator

variable {α : Type} [Amount α]

/-- The event is counted, published, and announced if it has changed anything. -/
theorem receive_emissions (c : Coordinator α) (e : OrderEvent α) (now : Int) :
    ∃ os : List Observation, (c.receive e now).2.2 =
      os.map Emission.observe ++ .publish (.order e) ::
        if (c.receive e now).1.isChange then [.announce (.order e)] else [] := by
  refine ⟨.orderEvent e.venue.name e.kind.name ::
    ((c.receive e now).1.transitions.filterMap (ignoredStep? e.venue) ++
      [.openOrders e.venue.name ((c.receive e now).2.1.table.openCount e.venue)]), ?_⟩
  simp [receive, openGauge]

theorem receive_published (c : Coordinator α) (e : OrderEvent α) (now : Int) :
    (c.receive e now).2.2.filterMap Emission.published? = [.order e] := by
  obtain ⟨os, h⟩ := c.receive_emissions e now
  rw [h, List.filterMap_append, Emission.published?_observe]
  split <;> rfl

theorem receive_announced (c : Coordinator α) (e : OrderEvent α) (now : Int) :
    (c.receive e now).2.2.filterMap Emission.announced? =
      if (c.receive e now).1.isChange then [.order e] else [] := by
  obtain ⟨os, h⟩ := c.receive_emissions e now
  rw [h, List.filterMap_append, Emission.announced?_observe]
  split <;> rfl

/-- An event that is not announced was for an order in the table. Its entry becomes the revised one:
state, executions, reason and times stay, but the venue's id, the terms and the average price become
what the event says of them. So the entry stays as it was just when the event agrees with it. -/
theorem unannounced_revision (c : Coordinator α) (e : OrderEvent α) (now : Int)
    (hε : (0 : α) ≤ Amount.epsilon) (h : (c.receive e now).1.isChange = false) :
    (c.receive e now).2.2.filterMap Emission.published? = [.order e] ∧
    (c.receive e now).2.2.filterMap Emission.announced? = [] ∧
    (∀ id, id ≠ e.id → (c.receive e now).2.1.table.find? id = c.table.find? id) ∧
    ∃ entry entry', c.table.find? e.id = some entry ∧
      (c.receive e now).2.1.table.find? e.id = some entry' ∧
      entry' = entry.revised e ∧
      entry' = { entry with
        average := entry'.average
        order := { entry.order with
          venueId := entry'.order.venueId
          quantity := entry'.order.quantity
          price := entry'.order.price } } ∧
      (entry' = entry ↔ entry.Agrees e) := by
  refine ⟨c.receive_published e now, by rw [receive_announced, h]; rfl, ?_, ?_⟩
  · intro id hid
    exact (c.table.find?_receive e now id).trans (if_neg hid)
  · rw [receive_update] at h
    have hf := c.find?_receive e now
    -- An event without an entry would make one, and that would be announced.
    cases ht : c.table.find? e.id with
    | none =>
      rw [ht] at h
      cases h
    | some entry =>
      have htarget : c.table.target e = entry := by simp [OrderTable.target, ht]
      rw [htarget] at h hf
      have hr := OrderEntry.receive_of_not_isChange hε h
      rw [OrderEntry.receive_entry] at hr
      rw [hr] at hf
      exact ⟨entry, entry.revised e, rfl, hf, rfl, entry.revised_frame e, entry.revised_eq_iff e⟩

/-- A total that is known already comes again, now with an average price. -/
theorem unannounced_revision_average :
    let fill : OrderEvent Rat := { OrderEvent.bare .deribit "a" "BTC-PERPETUAL" .fill 1 with
      fillPrice := 5, cumulative := some 3, orderQuantity := some 10 }
    let e : OrderEvent Rat := { fill with average := some 7 }
    let c := ((Desk.single .deribit).run [.report (.order fill) 2]).coordinator
    (0 : Rat) ≤ Amount.epsilon ∧ (c.receive e 3).1.isChange = false ∧
      ∃ entry entry', c.table.find? "a" = some entry ∧
        (c.receive e 3).2.1.table.find? "a" = some entry' ∧ entry' = entry.revised e ∧
        entry'.average = 7 := by
  intro fill e c
  have h : (c.receive e 3).1.isChange = false := by decide +kernel
  obtain ⟨-, -, -, entry, entry', hf, hf', hr, -, -⟩ :=
    unannounced_revision c e 3 Amount.epsilon_pos.le h
  have ha : ((c.receive e 3).2.1.table.find? "a").map (·.average) = some 7 := by decide +kernel
  rw [show (c.receive e 3).2.1.table.find? "a" = some entry' from hf'] at ha
  exact ⟨Amount.epsilon_pos.le, h, entry, entry', hf, hf', hr, Option.some.inj ha⟩

/-- The venue confirms new terms of an order: they are taken over and not announced. -/
theorem amendment_unannounced :
    let ack : OrderEvent Rat := { OrderEvent.bare .deribit "a" "BTC-PERPETUAL" .ack 1 with
      orderQuantity := some 100, orderPrice := some 50000 }
    let e : OrderEvent Rat := { ack with orderQuantity := some 200, orderPrice := some 49000 }
    let c := ((Desk.single .deribit).run [.report (.order ack) 2]).coordinator
    (c.receive e 3).1.isChange = false ∧
      (c.receive e 3).2.2.filterMap (fun em => em.announced?.map (·.time)) = [] ∧
      (c.table.find? "a").map (fun x => (x.order.quantity, x.order.price)) =
        some (100, 50000) ∧
      ((c.receive e 3).2.1.table.find? "a").map (fun x => (x.order.quantity, x.order.price)) =
        some (200, 49000) := by
  intro ack e c
  exact ⟨by decide +kernel, by decide +kernel, by decide +kernel, by decide +kernel⟩

/-- An event that is no incremental execution says all it has to say the first time: applied again,
whenever that is, it changes no entry, takes no step, adds nothing, and is not announced. -/
theorem replay_absorbed (c : Coordinator Rat) (e : OrderEvent Rat)
    (h : e.kind ≠ .fill ∨ e.cumulative ≠ none) (now now' : Int) :
    (∀ id, ((c.receive e now).2.1.receive e now').2.1.table.find? id =
      (c.receive e now).2.1.table.find? id) ∧
    ((c.receive e now).2.1.receive e now').1.filled = 0 ∧
    (∀ t ∈ ((c.receive e now).2.1.receive e now').1.transitions, t.isApplied = false) ∧
    ((c.receive e now).2.1.receive e now').1.isChange = false ∧
    ((c.receive e now).2.1.receive e now').2.2.filterMap Emission.announced? = [] := by
  have hf := c.find?_receive e now
  have hu := (c.receive e now).2.1.receive_update e now'
  have hf' := (c.receive e now).2.1.table.find?_receive e now'
  -- The second event finds the entry that the first one has left.
  have htarget : (c.receive e now).2.1.table.target e =
      ((c.table.target e).receive e now false).1 := by simp [OrderTable.target, hf]
  obtain ⟨ht, hz⟩ := (c.table.target e).receive_again h now now' false false
  obtain ⟨hc, hsame⟩ := (c.table.target e).receive_replay h now now' false
  rw [htarget, hf, Option.isNone_some] at hu
  rw [← hu] at ht hz hc
  refine ⟨fun id => ?_, hz, ht, hc, by rw [receive_announced, hc]; rfl⟩
  refine (hf' id).trans ?_
  by_cases hid : id = e.id
  · rw [if_pos hid, htarget, hsame, hid, hf]
  · exact if_neg hid

/-- An execution is reported with its total, with new terms and for the first time; then again. -/
theorem replay_absorbed_total :
    let ack : OrderEvent Rat := { OrderEvent.bare .deribit "a" "BTC-PERPETUAL" .ack 1 with
      orderQuantity := some 10 }
    let e : OrderEvent Rat := { ack with
      kind := .fill, fillPrice := 5, cumulative := some 4, orderQuantity := some 8
      venueId := some "v" }
    let c := ((Desk.single .deribit).run [.report (.order ack) 2]).coordinator
    (e.kind ≠ .fill ∨ e.cumulative ≠ none) ∧ (c.receive e 3).1.filled = 4 ∧
      ((c.receive e 3).2.1.receive e 4).1.filled = 0 ∧
      ((c.receive e 3).2.1.receive e 4).2.1.table.find? "a" =
        (c.receive e 3).2.1.table.find? "a" := by
  intro ack e c
  have h : e.kind ≠ .fill ∨ e.cumulative ≠ none := Or.inr (by decide)
  obtain ⟨hsame, hz, -⟩ := replay_absorbed c e h 3 4
  exact ⟨h, by decide +kernel, hz, hsame "a"⟩

end Coordinator

end VenueGateway
