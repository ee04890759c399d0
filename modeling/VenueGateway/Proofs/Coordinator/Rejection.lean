import VenueGateway.Proofs.Coordinator.Sending
import VenueGateway.Proofs.Order.Accounting

namespace VenueGateway

namespace OrderEntry

variable {α : Type} [Amount α]

/-- An order that is over is left as it is. -/
theorem receive_rejection_of_isTerminal {entry : OrderEntry α} (r : OrderRequest α)
    (e : GatewayError) (now : Int) (h : entry.state.isTerminal = true) :
    (entry.receive (r.rejection e now) now false).1 = entry := by
  rw [receive_of_isTerminal _ now false h]
  have hv : entry.order.venueId.or none = entry.order.venueId := Option.or_none
  simp only [adoptVenueId, OrderRequest.rejection, OrderEvent.bare, hv]

/-- Any other order is rejected, also one that the venue has confirmed. -/
theorem receive_rejection_of_isOpen {entry : OrderEntry α} (r : OrderRequest α)
    (e : GatewayError) (now : Int) (h : entry.state.isTerminal = false) :
    (entry.receive (r.rejection e now) now false).1.state = .rejected := by
  have hk : (r.rejection e now).kind ≠ .fill := fun hk => by cases hk
  rw [receive_of_ne_fill entry now false hk]
  change ((entry.prepared (r.rejection e now)).receiveStep (r.rejection e now) now).1.state = _
  rw [receiveStep_state, (prepared_amended entry _).state]
  change (entry.state.receive .reject).state = .rejected
  cases hs : entry.state with
  | pending | acknowledged | partiallyFilled => rfl
  | filled | cancelled | rejected | expired =>
    rw [hs] at h
    cases h

theorem receive_rejection_executions (entry : OrderEntry α) (r : OrderRequest α)
    (e : GatewayError) (now : Int) :
    (entry.receive (r.rejection e now) now false).1.filled = entry.filled ∧
      (entry.receive (r.rejection e now) now false).1.average = entry.average := by
  have hk : (r.rejection e now).kind ≠ .fill := fun hk => by cases hk
  exact ⟨by rw [receive_filled, if_neg fun h => hk h.1], receive_average entry now false hk⟩

/-- The rejection of an order of which nothing was heard repeats its terms as they are. -/
theorem receive_rejection_new (r : OrderRequest α) (e : GatewayError) (opened now : Int)
    (n : Nat) :
    (OrderEntry.receive { OrderEntry.new (r.toOrder opened) with retries := n } (r.rejection e now)
        now false).1 =
      OrderEntry.touch { OrderEntry.new (r.toOrder opened) with
        state := .rejected
        reason := some e.text
        retries := n } now := by
  have hk : (r.rejection e now).kind ≠ .fill := fun hk => by cases hk
  -- The rejection repeats the terms of the request, so amending the entry with them changes
  -- nothing, also where a term is not usable.
  have hterm (a : α) : (Amount.usable? (some a)).getD a = a := by
    cases h : Amount.usable? (some a) with
    | none => rfl
    | some b => exact (Option.some.inj (Option.filter_eq_some_iff.mp h).1).symm
  have hp : OrderEntry.prepared { OrderEntry.new (r.toOrder opened) with retries := n }
      (r.rejection e now) = { OrderEntry.new (r.toOrder opened) with retries := n } := by
    simp [prepared, amend, adoptVenueId, OrderRequest.rejection, OrderEvent.bare, new,
      OrderRequest.toOrder, OrderState.isTerminal, hterm]
  rw [receive_of_ne_fill _ now false hk, hp]
  rfl

end OrderEntry

namespace Desk

variable {α : Type} [Factor α] [JsonAmount α]

theorem act_reject {d : Desk α} {n : Nat} {r : OrderRequest α} {e : GatewayError}
    (h : d.phases[n]? = some (.rejecting r e)) (clock : Clock) (noise : α) :
    (d.act (.step n clock noise)).1.phases[n]? = some (.finished (.error e)) ∧
      (d.act (.step n clock noise)).1.table =
        (d.table.receive (r.rejection e clock.epoch) clock.epoch).1 := by
  have hn : n < d.phases.length := (List.getElem?_eq_some_iff.mp h).1
  simp only [act, advance, h]
  exact ⟨by simp [Coordinator.step, hn], rfl⟩

/-- When a send has failed in the end, its order is what the events heard since its entry was made
have made of it, so it is pending no longer if the venue has confirmed it in any of them. The
rejection goes through the state machine from there: an order that is over stays as it is, any other
one is rejected with its executions kept, and can then be cancelled no more. -/
theorem failed_send_rejection (venues : List Venue) (registry : Registry α)
    (as : List (DeskAction α)) (n : Nat) (r : OrderRequest α) (e : GatewayError)
    (h : ((opened venues registry).run as).phases[n]? = some (.rejecting r e)) (clock : Clock)
    (noise : α) :
    ∃ before a since now entry, as = before ++ a :: since ∧
      ((opened venues registry).run before).phases[n]? = some (.recording r) ∧
      ((opened venues registry).run before).table.find? r.id = none ∧
      ((opened venues registry).run as).table.find? r.id = some entry ∧
      OrderEntry.Course (.new (r.toOrder now)) (heardOf r.id since) entry ∧
      ((∃ x ∈ heardOf r.id since, x.1.isConfirmation = true) → entry.state ≠ .pending) ∧
      ((opened venues registry).run (as ++ [.step n clock noise])).phases[n]? =
        some (.finished (.error e)) ∧
      ∃ entry',
        ((opened venues registry).run (as ++ [.step n clock noise])).table.find? r.id =
          some entry' ∧
        (entry.state.isTerminal = true → entry' = entry) ∧
        (entry.state.isTerminal = false → entry'.state = .rejected ∧
          entry'.filled = entry.filled ∧ entry'.average = entry.average ∧
          ((opened venues registry).run (as ++ [.step n clock noise])).table.live r.id =
            .error (.closed r.id .rejected)) := by
  -- The invariant of a sending instruction holds its whole past: where the id was recorded and what
  -- the table has heard of it since.
  have hs : ((opened venues registry).run as).sending n = some r := sending_of_phase h
  obtain ⟨entry, before, a, since, now, has, hp, hn, hf, hcourse⟩ :=
    (run_sending venues registry as).2 n r hs
  obtain ⟨hfin, htable⟩ := act_reject h clock noise
  rw [← run_concat] at hfin htable
  have hf' := OrderTable.find?_receive_of_some (e := r.rejection e clock.epoch) clock.epoch hf
  rw [← htable] at hf'
  refine ⟨before, a, since, now, entry, has, hp, hn, hf, hcourse, hcourse.ne_pending, hfin, _, hf',
    ?_, ?_⟩
  · intro hterm
    exact OrderEntry.receive_rejection_of_isTerminal r e clock.epoch hterm
  · intro hopen
    -- The entry may have been acknowledged meanwhile; every open state takes the rejection.
    have hst := OrderEntry.receive_rejection_of_isOpen r e clock.epoch hopen
    have hex := entry.receive_rejection_executions r e clock.epoch
    have hlive := OrderTable.live_of_isTerminal hf' (by rw [hst]; rfl)
    rw [hst] at hlive
    exact ⟨hst, hex.1, hex.2, hlive⟩

def lostRequest : OrderRequest Rat := ⟨"c", .deribit, "BTC-PERPETUAL", .buy, .limit, 10, 5⟩

/-- An order is sent, and the venue acknowledges it; but the answer to the call is lost. -/
def lostAnswer : List (DeskAction Rat) :=
  let clock : Clock := ⟨0, 1⟩
  [.instruct (.send lostRequest), .step 0 clock 0, .step 0 clock 0, .step 0 clock 0,
    .step 0 clock 0, .report (.order (.bare .deribit "c" "BTC-PERPETUAL" .ack 2)) 3,
    .answer 0 clock 0 (.error ⟨.network, "timeout", []⟩)]

theorem failed_send_rejection_lostAnswer :
    ∃ entry entry', ((single .deribit).run lostAnswer).table.find? "c" = some entry ∧
      entry.state = .acknowledged ∧
      ((single .deribit).run (lostAnswer ++ [.step 0 ⟨0, 1⟩ 0])).table.find? "c" = some entry' ∧
      entry'.state = .rejected ∧ entry'.filled = entry.filled := by
  have h : ((single .deribit).run lostAnswer).phases[0]? =
      some (.rejecting lostRequest ⟨.network, "timeout", [("attempts", "1")]⟩) := rfl
  obtain ⟨_, _, _, _, entry, _, _, _, hf, _, _, _, entry', hf', _, hopen⟩ :=
    failed_send_rejection _ _ lostAnswer 0 lostRequest _ h ⟨0, 1⟩ 0
  have hc : ((single .deribit).run lostAnswer).table.find? "c" = some entry := hf
  have hs : (((single .deribit).run lostAnswer).table.find? "c").map (·.state) =
      some .acknowledged := by decide +kernel
  rw [hc] at hs
  have hack : entry.state = .acknowledged := Option.some.inj hs
  obtain ⟨hrej, hfill, -, -⟩ := hopen (by rw [hack]; rfl)
  exact ⟨entry, entry', hc, hack, hf', hrej, hfill⟩

/-- The order that the venue has acknowledged is rejected here. -/
theorem lostAnswer_rejected :
    ((single .deribit).run lostAnswer).phases[0]? =
        some (.rejecting lostRequest ⟨.network, "timeout", [("attempts", "1")]⟩) ∧
      ((single .deribit).run lostAnswer).table.stateOf "c" = .acknowledged ∧
      ((single .deribit).run (lostAnswer ++ [.step 0 ⟨0, 1⟩ 0])).table.stateOf "c" = .rejected :=
  ⟨rfl, by decide +kernel, by decide +kernel⟩

end Desk

end VenueGateway
