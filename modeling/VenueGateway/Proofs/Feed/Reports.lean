import VenueGateway.Feed.Deribit
import VenueGateway.Proofs.Feed.Parsed

namespace VenueGateway.Deribit

open Feed

variable {now : Int} {j : Json} {e : OrderEvent Float} {rs : List (Record Float)}

theorem kindOfState_eq_reject {state : String} {filled : Float}
    (h : kindOfState state filled = .ok .reject) : state = "rejected" := by
  unfold kindOfState at h
  split at h
  case h_1 => split at h <;> simp at h
  case h_5 => rfl
  all_goals simp at h

/-- An order is reported as a rejection only when its state says so. -/
theorem state_of_order_reject (h : order now j = .ok e) (hkind : e.kind = .reject) :
    textAt? j ["order_state"] = some "rejected" := by
  simp only [order, bind_eq_ok_iff, textAt_eq_ok_iff] at h
  obtain ⟨_, _, state, hstate, kind, hk, _, _, he⟩ := h
  cases he
  obtain rfl : kind = .reject := hkind
  exact kindOfState_eq_reject hk ▸ hstate

theorem of_mem_orders (h : orders now j = .ok rs) (he : .order e ∈ rs) :
    ∃ o ∈ items j, order now o = .ok e := by
  obtain ⟨o, ho, hread⟩ := exists_of_mem_mapM h he
  obtain ⟨e', he', heq⟩ := map_eq_ok_iff.mp hread
  cases heq
  exact ⟨o, ho, he'⟩

theorem order_not_mem_positions (h : positions now j = .ok rs) : .order e ∉ rs := by
  obtain ⟨found, -, heq⟩ := bind_eq_ok_iff.mp h
  cases heq
  simp

theorem order_not_mem_balances (h : balances now j = .ok rs) : .order e ∉ rs := by
  obtain ⟨found, -, heq⟩ := bind_eq_ok_iff.mp h
  cases heq
  simp

theorem of_mem_changes (h : changes now j = .ok rs) (he : .order e ∈ rs) :
    ∃ os, j.field? "orders" = some os ∧ ∃ o ∈ items os, order now o = .ok e := by
  simp only [changes, bind_eq_ok_iff] at h
  obtain ⟨os, hos, ps, hps, heq⟩ := h
  cases heq
  rcases List.mem_append.mp he with ho | hp
  · cases hfield : j.field? "orders" with
    | none =>
      rw [hfield] at hos
      cases hos
      cases ho
    | some js =>
      rw [hfield] at hos
      exact ⟨js, rfl, of_mem_orders hos ho⟩
  · cases hfield : j.field? "positions" with
    | none =>
      rw [hfield] at hps
      cases hps
      cases hp
    | some js =>
      rw [hfield] at hps
      exact absurd hp (order_not_mem_positions hps)

/-- The orders that a notification reports. -/
def notified (params : Json) : List Json :=
  match (params.field? "channel").bind Json.string?, params.field? "data" with
  | some channel, some data =>
    if channel.startsWith "user.orders." then items data
    else if channel.startsWith "user.changes." then ((data.field? "orders").map items).getD []
    else []
  | _, _ => []

/-- The orders that a message reports, in a notification or as the result of a request. -/
def reported (j : Json) : List Json :=
  match (j.field? "method").bind Json.string? with
  | some "subscription" => ((j.field? "params").map notified).getD []
  | some _ => []
  | none => if (j.field? "error").isSome then [] else (j.path? ["result", "order"]).toList

theorem of_mem_notification (h : notification now j = .ok rs) (he : .order e ∈ rs) :
    ∃ o ∈ notified j, order now o = .ok e := by
  simp only [notification, bind_eq_ok_iff] at h
  obtain ⟨channel, hchannel, data, hdata, h⟩ := h
  simp only [notified, orMissing_eq_ok_iff.mp hchannel, orMissing_eq_ok_iff.mp hdata]
  -- By the channel, as the message is read; only two kinds of channels carry orders.
  split at h
  · obtain ⟨v, -, hread⟩ := exists_of_mem_mapM h he
    obtain ⟨t, -, heq⟩ := map_eq_ok_iff.mp hread
    cases heq
  · split at h
    · obtain ⟨b, -, heq⟩ := bind_eq_ok_iff.mp h
      cases heq
      simp at he
    · split at h
      · rename_i horders
        rw [if_pos horders]
        exact of_mem_orders h he
      · rename_i horders
        rw [if_neg horders]
        split at h
        · rename_i hchanges
          rw [if_pos hchanges]
          obtain ⟨os, hos, hreport⟩ := of_mem_changes h he
          rw [hos]
          exact hreport
        · split at h
          · exact absurd he (order_not_mem_balances h)
          · cases h
            cases he

end VenueGateway.Deribit
