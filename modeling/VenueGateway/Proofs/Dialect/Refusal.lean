import VenueGateway.Simulation.Venues

namespace VenueGateway.Dialect

section Requests

variable {α : Type}

/-- An id that a new order of this dialect cannot have. -/
def barsId (d : Dialect) (id : String) : Bool :=
  match d with
  | .binance _ | .deribit => false
  | .grvt .. => (Text.readBelow Text.bound64 id.toList).isNone

/-- Why a dialect refuses a request. New orders are refused for their ids, amendments for the types
of their orders, and cancels never. -/
def refusal? (d : Dialect) : VenueRequest α → Option GatewayError
  | .send r =>
    if d.barsId r.id then
      some ⟨.validation, "grvt client order ids must be numeric", [("cl_ord_id", r.id)]⟩
    else none
  | .cancel _ => none
  | .modify o _ _ =>
    let refused (reason : String) : GatewayError := ⟨.validation, reason, [("cl_ord_id", o.id)]⟩
    match d with
    | .binance _ =>
      if o.type.needsPrice then none else some (refused "binance can only amend limit orders")
    | .deribit =>
      if o.type.needsPrice then none else some (refused "deribit can only edit limit orders")
    | .grvt .. => some (refused "grvt has no amend; cancel and resend instead")

variable {d : Dialect} {v : VenueRequest α} {e : GatewayError}

theorem isSome_refusal?_send (d : Dialect) (r : OrderRequest α) :
    (d.refusal? (.send r)).isSome = d.barsId r.id := by
  cases h : d.barsId r.id <;> simp [refusal?, h]

/-- A refusal is for good. -/
theorem kind_of_refusal? (h : d.refusal? v = some e) : e.kind = .validation := by
  cases v with
  | send r =>
    simp only [refusal?, Option.ite_none_right_eq_some, Option.some.injEq] at h
    rw [← h.2]
  | cancel o => cases h
  | modify o quantity price =>
    cases d with
    | binance _ | deribit =>
      simp only [refusal?, Option.ite_none_left_eq_some, Option.some.injEq] at h
      rw [← h.2]
    | grvt _ _ _ =>
      cases h
      rfl

end Requests

theorem orderRequest_eq_error_iff (d : Dialect) (pending : PendingOrders) (number : Nat)
    (r : OrderRequest Float) (e : GatewayError) :
    d.orderRequest pending number r = .error e ↔ d.refusal? (.send r) = some e := by
  cases d with
  | binance _ | deribit => simp [orderRequest, refusal?, barsId]
  | grvt _ _ _ =>
    by_cases hid : (Text.readBelow Text.bound64 r.id.toList).isNone = true
    · simp [orderRequest, refusal?, barsId, hid]
    · simp [orderRequest, refusal?, barsId, hid]

theorem amendRequest_eq_error_iff (d : Dialect) (number : Nat) (o : Order Float) (quantity : Float)
    (price : Option Float) (e : GatewayError) :
    d.amendRequest number o quantity price = .error e ↔
      d.refusal? (.modify o quantity price) = some e := by
  cases d with
  | binance _ | deribit => cases h : o.type.needsPrice <;> simp [amendRequest, refusal?, h]
  | grvt _ _ _ => simp [amendRequest, refusal?]

/-- What is refused does not depend on what has gone out before. -/
theorem outbound_eq_error_iff (d : Dialect) (pending : PendingOrders) (number : Nat)
    (v : VenueRequest Float) (e : GatewayError) :
    d.outbound pending number v = .error e ↔ d.refusal? v = some e := by
  cases v with
  | send r => exact d.orderRequest_eq_error_iff pending number r e
  | cancel o => simp [outbound, refusal?]
  | modify o quantity price =>
    rw [← amendRequest_eq_error_iff d number, outbound]
    cases d.amendRequest number o quantity price with
    | error e' => exact ⟨fun h => by cases h; rfl, fun h => by cases h; rfl⟩
    | ok out => simp [Except.map]

end VenueGateway.Dialect

namespace VenueGateway.Simulation

variable {link : Link} {v : VenueRequest Float} {e : GatewayError} {w : World}

/-- Nothing has gone out in between, nor waits to. -/
structure Silent (w w' : World) : Prop where
  calls : w'.calls = w.calls
  transport : w'.transport = w.transport
  queue : w'.session.map (·.session.queue) = w.session.map (·.session.queue)

theorem prepare_refused (he : link.dialect.refusal? v = some e)
    (hdialect : ∀ run, w.session = some run → run.session.dialect = link.dialect)
    (overSession byCalls : Bool) (pending : PendingOrders) (number : Nat) :
    ∃ link' w', (prepare link overSession byCalls pending number v).run w =
      ((link', .error e), w') ∧ Silent w w' := by
  simp only [prepare, StateT.run_bind, StateT.run_get, pure_bind]
  -- The message is written by the session where there is one and by the link otherwise; both ask
  -- the same dialect.
  cases hsession : w.session.filter fun _ => overSession with
  | none =>
    have hrefused := (link.dialect.outbound_eq_error_iff pending number v e).mpr he
    simp only [hrefused]
    exact ⟨_, _, rfl, rfl, rfl, rfl⟩
  | some run =>
    have hrun : w.session = some run := (Option.filter_eq_some_iff.mp hsession).1
    have hrefused : run.session.takeNumber.2.dialect.outbound run.session.takeNumber.2.pending
        run.session.takeNumber.1 v = .error e :=
      (Dialect.outbound_eq_error_iff _ _ _ v e).mpr (hdialect run hrun ▸ he)
    simp only [hrefused]
    refine ⟨_, _, rfl, rfl, rfl, ?_⟩
    simp only [hrun]
    rfl

/-- The answer to a refused request is the refusal, and the venue does not hear of it. -/
theorem callLink_refused {overSession byCalls : Bool} {pending : PendingOrders} {number : Nat}
    (hentrance : link.entrance = .spoken overSession byCalls pending number)
    (he : link.dialect.refusal? v = some e)
    (hdialect : ∀ run, w.session = some run → run.session.dialect = link.dialect) :
    ∃ w', (callLink link v).run w = (.error e, w') ∧ Silent w w' := by
  obtain ⟨link', w', hprepare, hsilent⟩ :=
    prepare_refused he hdialect overSession byCalls pending number
  refine ⟨w', ?_, hsilent⟩
  simp only [callLink, hentrance, StateT.run_bind, hprepare]
  rfl

end VenueGateway.Simulation
