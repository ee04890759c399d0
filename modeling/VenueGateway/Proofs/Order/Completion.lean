import Mathlib.Algebra.Order.Group.Abs
import Mathlib.Algebra.Order.BigOperators.Group.List
import VenueGateway.Proofs.Order.Revision

namespace VenueGateway

/-- An execution that gives its own quantity, and that leaves the order's quantity as it is. -/
structure OrderEvent.Executes (e : OrderEvent Rat) (quantity : Rat) : Prop where
  kind_eq : e.kind = .fill
  pos : 0 < e.fillQuantity
  own : e.cumulative = none
  unamended : (Amount.usable? e.orderQuantity).getD quantity = quantity

theorem OrderRequest.quantity_pos {r : OrderRequest Rat} (h : r.check = .ok ()) :
    0 < r.quantity := by
  by_contra hnot
  have hq : checkQuantity r.quantity = .error (.invalid "quantity" "must be positive") := by
    simp [checkQuantity, hnot]
  unfold check at h
  rw [hq] at h
  cases hid : r.id.isEmpty <;> cases hsymbol : Text.isAllBlank r.symbol <;>
    simp [hid, hsymbol, bind, Except.bind] at h

namespace Amount

/-- The quantities above dust, together. -/
def counted (qs : List Rat) : Rat := (qs.filter (epsilon < ·)).sum

/-- The quantities that are dust, together. -/
def dusted (qs : List Rat) : Rat := (qs.filter (· ≤ epsilon)).sum

theorem counted_add_dusted (qs : List Rat) : counted qs + dusted qs = qs.sum := by
  induction qs with
  | nil => exact add_zero _
  | cons q qs ih =>
    rcases lt_or_ge (epsilon : Rat) q with hlt | hle
    · have hcounted : counted (q :: qs) = q + counted qs := by simp [counted, hlt]
      have hdusted : dusted (q :: qs) = dusted qs := by simp [dusted, hlt]
      rw [hcounted, hdusted, List.sum_cons, add_assoc, ih]
    · have hcounted : counted (q :: qs) = counted qs := by simp [counted, hle]
      have hdusted : dusted (q :: qs) = q + dusted qs := by simp [dusted, hle]
      rw [hcounted, hdusted, List.sum_cons, ← ih, add_left_comm]

theorem counted_concat (qs : List Rat) (q : Rat) :
    counted (qs ++ [q]) = if epsilon < q then counted qs + q else counted qs := by
  split <;> simp_all [counted, List.filter_append]

theorem counted_pos_iff (qs : List Rat) : 0 < counted qs ↔ ∃ q ∈ qs, epsilon < q := by
  constructor
  · intro h
    by_contra hnone
    have hnil : qs.filter (epsilon < ·) = [] := by
      rw [List.filter_eq_nil_iff]
      intro q hq hlt
      exact hnone ⟨q, hq, of_decide_eq_true hlt⟩
    rw [counted, hnil] at h
    exact lt_irrefl _ h
  · rintro ⟨q, hq, hlt⟩
    have hmem : q ∈ qs.filter (epsilon < ·) := List.mem_filter.mpr ⟨hq, decide_eq_true hlt⟩
    have hle : q ≤ counted qs := by
      apply List.single_le_sum _ _ hmem
      intro x hx
      exact (epsilon_pos.trans (of_decide_eq_true (List.mem_filter.mp hx).2)).le
    exact (epsilon_pos.trans hlt).trans_le hle

theorem dusted_nonneg {qs : List Rat} (h : ∀ q ∈ qs, 0 < q) : 0 ≤ dusted qs :=
  List.sum_nonneg fun q hq => (h q (List.mem_filter.mp hq).1).le

end Amount

open Amount

/-- The state that an order has once some quantity of it is executed. -/
def OrderState.reached (quantity filled : Rat) : OrderState :=
  if 0 < filled then if quantity ≤ filled + epsilon then .filled else .partiallyFilled
  else .acknowledged

theorem OrderState.reached_eq_filled_iff {quantity filled : Rat} :
    reached quantity filled = .filled ↔ 0 < filled ∧ quantity ≤ filled + epsilon := by
  unfold reached
  split_ifs <;> simp [*]

namespace OrderEntry

theorem credited_of_executes (entry : OrderEntry Rat) {e : OrderEvent Rat} {quantity : Rat}
    (h : e.Executes quantity) :
    entry.credited e.fill =
      if epsilon < e.fillQuantity then entry.filled + e.fillQuantity else entry.filled := by
  have hi : entry.increment e.fill = e.fillQuantity := by
    simp only [increment, OrderEvent.fill, h.own, atLeastZero_of_pos h.pos]
  rw [credited, hi]
  split
  · next hle => rw [if_neg (not_lt.mpr hle)]
  · next hnot => rw [if_pos (not_le.mp hnot)]

theorem receive_quantity_of_executes {entry : OrderEntry Rat} {e : OrderEvent Rat} {quantity : Rat}
    (hquantity : entry.order.quantity = quantity) (h : e.Executes quantity) (now : Int) :
    (entry.receive e now false).1.order.quantity = quantity := by
  rw [(receive_terms entry e now false).quantity]
  cases ht : entry.state.isTerminal with
  | true =>
    rw [prepared_of_isTerminal e ht]
    exact hquantity
  | false =>
    rw [((entry.prepared_terms e).2 ht).1, hquantity]
    exact h.unamended

/-- An execution brings an order as far as the quantity executed says. -/
theorem receive_state_of_executes {entry : OrderEntry Rat} {e : OrderEvent Rat} {quantity : Rat}
    (hentry : entry.Accounted) (hopen : entry.state.isTerminal = false)
    (hquantity : entry.order.quantity = quantity) (hpos : 0 < quantity) (h : e.Executes quantity)
    (now : Int) :
    (entry.receive e now false).1.state = .reached quantity (entry.credited e.fill) := by
  have hp := prepared_amended entry e
  have ho : (entry.prepared e).state.isTerminal = false := by rw [hp.state, hopen]
  have hterms := ((entry.prepared_terms e).2 hopen).1
  rw [hquantity, h.unamended] at hterms
  rw [receive_of_fill entry now false h.kind_eq, receiveFill_of_isOpen e.fill now ho]
  have hacked := acked_advance (entry.prepared e) now
  have hrecorded := recordFill_recorded ((entry.prepared e).acked now) e.fill now
  have hfilled := recordFill_filled ((entry.prepared e).acked now) e.fill now
  rw [credited_congr (hacked.filled.trans hp.filled)] at hfilled
  have hstate := hrecorded.state.trans (acked_state (entry.prepared e) now)
  have hquantity' := hrecorded.quantity.trans (hacked.quantity.trans hterms)
  rw [hp.state] at hstate
  generalize (((entry.prepared e).acked now).recordFill e.fill now).1 = recorded at *
  have hcomplete : recorded.isComplete = decide (quantity ≤ recorded.filled + epsilon) := by
    rw [isComplete, hquantity', decide_eq_true hpos, Bool.true_and]
  -- What is recorded decides how far the state climbs, by its quantity alone.
  change (recorded.climb now).1.state = _
  rw [climb_state, hcomplete, ← hfilled]
  unfold OrderState.reached
  cases hs : entry.state with
  | pending | acknowledged =>
    simp only [hs, if_true, reduceCtorEq, if_false] at hstate
    simp only [hstate, isPositive_iff, decide_eq_true_eq]
  | partiallyFilled =>
    simp only [hs, reduceCtorEq, if_false] at hstate
    have hstarted : 0 < recorded.filled := by
      rw [hfilled]
      exact (hentry.started hs).trans_le (entry.le_credited e.fill)
    simp only [hstate, decide_eq_true_eq, if_pos hstarted]
  | filled | cancelled | rejected | expired =>
    rw [hs] at hopen
    cases hopen

/-- An order of which some quantities are reported as executed, and nothing else. -/
structure Progress (quantity : Rat) (qs : List Rat) (entry : OrderEntry Rat) : Prop where
  accounted : entry.Accounted
  quantity_eq : entry.order.quantity = quantity
  state_eq : entry.state = if qs = [] then .pending else .reached quantity (counted qs)
  filled_eq : entry.state ≠ .filled → entry.filled = counted qs
  near : entry.state = .filled → quantity - epsilon ≤ entry.filled ∧ entry.filled ≤ counted qs

namespace Progress

variable {quantity : Rat} {qs : List Rat} {entry : OrderEntry Rat}

theorem start (o : Order Rat) : Progress o.quantity [] (.new o) where
  accounted := new_accounted o
  quantity_eq := rfl
  state_eq := rfl
  filled_eq _ := rfl
  near h := by cases h

theorem isOpen (h : Progress quantity qs entry) (hs : entry.state ≠ .filled) :
    entry.state.isTerminal = false := by
  rw [h.state_eq] at hs ⊢
  unfold OrderState.reached at hs ⊢
  split_ifs at hs ⊢ <;> first | rfl | exact absurd rfl hs

/-- Once the quantities that count come within dust of the order's, more of them change nothing. -/
theorem reached_of_le (hfilled : OrderState.reached quantity (counted qs) = .filled) {total : Rat}
    (hle : counted qs ≤ total) : OrderState.reached quantity total = .filled := by
  rw [OrderState.reached_eq_filled_iff] at hfilled ⊢
  exact ⟨hfilled.1.trans_le hle, by linarith [hfilled.2]⟩

theorem receive (h : Progress quantity qs entry) (hpos : 0 < quantity) {e : OrderEvent Rat}
    (he : e.Executes quantity) (now : Int) :
    Progress quantity (qs ++ [e.fillQuantity]) (entry.receive e now false).1 := by
  have hε := epsilon_pos
  have hne : qs ++ [e.fillQuantity] ≠ [] := by simp
  have hcounted := counted_concat qs e.fillQuantity
  have haccounted := h.accounted.receive e now false
  have hquantity := receive_quantity_of_executes h.quantity_eq he now
  by_cases hs : entry.state = .filled
  · -- The order is over: the quantity stays, while what is reported may go on to grow.
    have hkept := receive_of_isTerminal e now false (by rw [hs]; rfl)
    have hstate : (entry.receive e now false).1.state = .filled := by rw [hkept]; exact hs
    have hfilled : (entry.receive e now false).1.filled = entry.filled := by rw [hkept]; rfl
    have hgrown : counted qs ≤ counted (qs ++ [e.fillQuantity]) := by
      rw [hcounted]
      split <;> linarith [he.pos]
    refine ⟨haccounted, hquantity, ?_, fun hnot => absurd hstate hnot, fun _ => ?_⟩
    · have hreached := h.state_eq
      rw [hs] at hreached
      split_ifs at hreached
      rw [hstate, if_neg hne, reached_of_le hreached.symm hgrown]
    · rw [hfilled]
      exact ⟨(h.near hs).1, (h.near hs).2.trans hgrown⟩
  · have hopen := h.isOpen hs
    have hcredited := entry.credited_of_executes he
    rw [h.filled_eq hs, ← hcounted] at hcredited
    have hfilled := entry.receive_filled e now false
    rw [if_pos ⟨he.kind_eq, hopen⟩, hcredited] at hfilled
    have hstate := receive_state_of_executes h.accounted hopen h.quantity_eq hpos he now
    rw [hcredited] at hstate
    refine ⟨haccounted, hquantity, by rw [hstate, if_neg hne], fun _ => hfilled, fun hend => ?_⟩
    have hcomplete := (haccounted.complete hend).2
    rw [hquantity] at hcomplete
    exact ⟨by linarith, hfilled.le⟩

/-- If the quantities make up the whole order, it is filled just when something of it was more than
dust and all that was dust is no more than dust together. Otherwise it stays open, and what is
missing of it is the dust. -/
theorem filled_iff (h : Progress quantity qs entry) (hpos : 0 < quantity) (hqs : ∀ q ∈ qs, 0 < q)
    (hsum : qs.sum = quantity) :
    (entry.state = .filled ↔ (∃ q ∈ qs, epsilon < q) ∧ dusted qs ≤ epsilon) ∧
      (|entry.filled - quantity| ≤ epsilon ↔ dusted qs ≤ epsilon) ∧
      (entry.state ≠ .filled →
        entry.state.isTerminal = false ∧ entry.filled = quantity - dusted qs) := by
  have hsplit := counted_add_dusted qs
  have hdust := dusted_nonneg hqs
  have hne : qs ≠ [] := by
    rintro rfl
    exact hpos.ne hsum
  have hstate := h.state_eq
  rw [if_neg hne] at hstate
  have hfilled : entry.state = .filled ↔ (∃ q ∈ qs, epsilon < q) ∧ dusted qs ≤ epsilon := by
    have hclose : quantity ≤ counted qs + epsilon ↔ dusted qs ≤ epsilon := by
      constructor <;> intro hle <;> linarith
    rw [hstate, OrderState.reached_eq_filled_iff, counted_pos_iff, hclose]
  have hopen : entry.state ≠ .filled → entry.filled = quantity - dusted qs := by
    intro hs
    rw [h.filled_eq hs]
    linarith
  refine ⟨hfilled, ?_, fun hs => ⟨h.isOpen hs, hopen hs⟩⟩
  -- A filled order may have more than is counted, but an open one has just that.
  by_cases hs : entry.state = .filled
  · obtain ⟨hlow, hhigh⟩ := h.near hs
    refine iff_of_true (abs_le.mpr ⟨by linarith, ?_⟩) (hfilled.mp hs).2
    linarith [epsilon_pos]
  · have hmissing : entry.filled - quantity = -dusted qs := by
      rw [hopen hs]
      exact sub_sub_cancel_left quantity (dusted qs)
    rw [hmissing, abs_neg, abs_of_nonneg hdust]

end Progress

/-- The executions of an order that is sent bring it as far as they count. -/
theorem Course.progress {r : OrderRequest Rat} {opened : Int} {es : List (OrderEvent Rat × Int)}
    {entry : OrderEntry Rat} (h : Course (.new (r.toOrder opened)) es entry)
    (hpos : 0 < r.quantity) (hes : ∀ x ∈ es, x.1.Executes r.quantity) :
    Progress r.quantity (es.map (·.1.fillQuantity)) entry := by
  -- Along the events that the entry is made of; retries have no part in what is executed.
  induction h with
  | start => exact .start (r.toOrder opened)
  | hear _ e now ih =>
    obtain ⟨hes, he⟩ := List.forall_mem_append.mp hes
    rw [List.map_append]
    exact (ih hes).receive hpos (he _ (List.mem_singleton_self _)) now
  | retry _ n ih =>
    have hb := ih hes
    have ha := hb.accounted
    exact ⟨⟨ha.nonneg, ha.early, ha.started, ha.complete⟩, hb.quantity_eq, hb.state_eq,
      hb.filled_eq, hb.near⟩

end OrderEntry

end VenueGateway
