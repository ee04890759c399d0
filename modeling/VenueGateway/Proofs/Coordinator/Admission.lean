import VenueGateway.Coordinator.Instruction
import VenueGateway.Proofs.Order.Table

namespace VenueGateway

section Checks

variable {β γ : Type}

@[simp] theorem bind_eq_ok_iff {x : Except GatewayError β} {f : β → Except GatewayError γ} {c : γ} :
    (x >>= f) = .ok c ↔ ∃ b, x = .ok b ∧ f b = .ok c := by
  cases x with
  | error e => simp [bind, Except.bind]
  | ok b => simp [bind, Except.bind]

@[simp] theorem exists_unit_eq_ok_iff {ε : Type} {x : Except ε Unit} :
    (∃ u, x = .ok u) ↔ x = .ok () := ⟨fun ⟨_, h⟩ => h, fun h => ⟨(), h⟩⟩

@[simp] theorem mapError_eq_ok_iff {x : Except OrderError β} {b : β} :
    x.mapError OrderError.toGatewayError = .ok b ↔ x = .ok b := by
  cases x with
  | error e => exact ⟨fun h => (by cases h), fun h => (by cases h)⟩
  | ok b' => exact ⟨fun h => by cases h; rfl, fun h => by cases h; rfl⟩

/-- A check that fails only for a fault in what was asked. -/
def IsValidation (x : Except GatewayError β) : Prop := ∀ e, x = .error e → e.kind = .validation

theorem IsValidation.ok (b : β) : IsValidation (.ok b) := fun e h => by cases h

theorem IsValidation.mapError (x : Except OrderError β) :
    IsValidation (x.mapError OrderError.toGatewayError) := by
  cases x with
  | error e =>
    intro e' h
    cases h
    rfl
  | ok b => exact .ok b

theorem IsValidation.bind {x : Except GatewayError β} {f : β → Except GatewayError γ}
    (hx : IsValidation x) (hf : ∀ b, IsValidation (f b)) : IsValidation (x >>= f) := by
  cases x with
  | error e =>
    intro e' h
    cases h
    exact hx e rfl
  | ok b => exact hf b

end Checks

theorem OrderTable.live_eq_ok_iff {α : Type} {t : OrderTable α} {id : String} {o : Order α} :
    t.live id = .ok o ↔
      ∃ entry, t.find? id = some entry ∧ entry.state.isTerminal = false ∧ entry.order = o := by
  unfold live
  cases hf : t.find? id with
  | none => simp
  | some entry =>
    cases ht : entry.state.isTerminal <;> simp [ht]

namespace Coordinator

section Venues

variable {α : Type}

@[simp] theorem checkVenue_eq_ok_iff {c : Coordinator α} {venue : Venue} :
    c.checkVenue venue = .ok () ↔ venue ∈ c.venues := by
  unfold checkVenue
  split <;> simp_all

theorem checkVenue_isValidation (c : Coordinator α) (venue : Venue) :
    IsValidation (c.checkVenue venue) := by
  unfold checkVenue
  split
  · exact .ok ()
  · intro e h
    cases h
    rfl

end Venues

variable {α : Type} [Factor α]

/-- The instructions that are let through: a valid order of a new id, and valid changes of an order
that is not over; all of them for a venue that is there. -/
inductive Admits (c : Coordinator α) : Instruction α → VenueRequest α → Prop
  | send (r : OrderRequest α) (valid : r.check = .ok ()) (known : r.venue ∈ c.venues)
      (fresh : c.table.find? r.id = none) : Admits c (.send r) (.send r)
  | cancel (id : String) (entry : OrderEntry α) (found : c.table.find? id = some entry)
      (isOpen : entry.state.isTerminal = false) (known : entry.order.venue ∈ c.venues) :
      Admits c (.cancel id) (.cancel entry.order)
  | modify (id : String) (quantity : α) (price : Option α) (entry : OrderEntry α)
      (valid : checkQuantity quantity = .ok ()) (found : c.table.find? id = some entry)
      (isOpen : entry.state.isTerminal = false)
      (priced : ∀ p, price = some p → checkPrice entry.order.type p = .ok ())
      (known : entry.order.venue ∈ c.venues) :
      Admits c (.modify id quantity price) (.modify entry.order quantity price)

theorem Admits.fresh {c : Coordinator α} {i : Instruction α} {v : VenueRequest α}
    (h : c.Admits i v) (r : OrderRequest α) (hv : v = .send r) : c.table.find? r.id = none := by
  cases h with
  | send r' valid known fresh =>
    cases hv
    exact fresh
  | cancel | modify => cases hv

theorem check_send_eq_ok_iff {c : Coordinator α} {r : OrderRequest α} {v : VenueRequest α} :
    c.check (.send r) = .ok v ↔
      r.check = .ok () ∧ r.venue ∈ c.venues ∧ c.table.find? r.id = none ∧ .send r = v := by
  cases hf : c.table.find? r.id with
  | none => simp [check, OrderTable.contains, hf]
  | some entry => simp [check, OrderTable.contains, hf]

theorem check_cancel_eq_ok_iff {c : Coordinator α} {id : String} {v : VenueRequest α} :
    c.check (.cancel id) = .ok v ↔
      ∃ o, c.table.live id = .ok o ∧ o.venue ∈ c.venues ∧ .cancel o = v := by
  simp [check]

theorem check_modify_eq_ok_iff {c : Coordinator α} {id : String} {quantity : α} {price : Option α}
    {v : VenueRequest α} :
    c.check (.modify id quantity price) = .ok v ↔
      checkQuantity quantity = .ok () ∧ ∃ o, c.table.live id = .ok o ∧
        (∀ p, price = some p → checkPrice o.type p = .ok ()) ∧ o.venue ∈ c.venues ∧
        .modify o quantity price = v := by
  cases price with
  | none => simp [check]
  | some p => simp [check]

theorem check_eq_ok_iff {c : Coordinator α} {i : Instruction α} {v : VenueRequest α} :
    c.check i = .ok v ↔ c.Admits i v := by
  cases i with
  | send r =>
    rw [check_send_eq_ok_iff]
    constructor
    · rintro ⟨valid, known, fresh, rfl⟩
      exact .send r valid known fresh
    · rintro ⟨⟩
      exact ⟨‹_›, ‹_›, ‹_›, rfl⟩
  | cancel id =>
    simp only [check_cancel_eq_ok_iff, OrderTable.live_eq_ok_iff]
    constructor
    · rintro ⟨-, ⟨entry, found, isOpen, rfl⟩, known, rfl⟩
      exact .cancel id entry found isOpen known
    · rintro ⟨⟩
      exact ⟨_, ⟨_, ‹_›, ‹_›, rfl⟩, ‹_›, rfl⟩
  | modify id quantity price =>
    simp only [check_modify_eq_ok_iff, OrderTable.live_eq_ok_iff]
    constructor
    · rintro ⟨valid, -, ⟨entry, found, isOpen, rfl⟩, priced, known, rfl⟩
      exact .modify id quantity price entry valid found isOpen priced known
    · rintro ⟨⟩
      exact ⟨‹_›, _, ⟨_, ‹_›, ‹_›, rfl⟩, ‹_›, ‹_›, rfl⟩

/-- An instruction is refused for a fault of its own. -/
theorem check_isValidation (c : Coordinator α) (i : Instruction α) : IsValidation (c.check i) := by
  -- Every part of a check either passes or has a fault of the instruction itself.
  cases i with
  | send r =>
    refine .bind (.mapError _) fun _ => .bind (c.checkVenue_isValidation _) fun _ => ?_
    split
    · exact .mapError (.error (.duplicate r.id))
    · exact .ok _
  | cancel id =>
    exact .bind (.mapError _) fun o => .bind (c.checkVenue_isValidation _) fun _ => .ok _
  | modify id quantity price =>
    refine .bind (.mapError _) fun _ => .bind (.mapError _) fun o => ?_
    cases price with
    | none => exact .bind (.ok ()) fun _ => .bind (c.checkVenue_isValidation _) fun _ => .ok _
    | some p =>
      exact .bind (.mapError _) fun _ => .bind (c.checkVenue_isValidation _) fun _ => .ok _

end Coordinator

end VenueGateway
