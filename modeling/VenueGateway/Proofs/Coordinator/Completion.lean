import Mathlib.Algebra.Order.BigOperators.Group.List
import Mathlib.Algebra.Order.Field.Rat
import VenueGateway.Proofs.Coordinator.Invocation
import VenueGateway.Proofs.Order.Completion

namespace VenueGateway.Desk

open OrderEntry (Course)

/-- The quantities that the events of one order report, first to last. -/
def reportedOf (id : String) (as : List (DeskAction Rat)) : List Rat :=
  (heardOf id as).map (·.1.fillQuantity)

section Runs

variable {α : Type} [Factor α]

/-- A send that ends with success only counts the retries of its order. -/
theorem entry_change_of_success {d d' : Desk α} {a : DeskAction α} (h : Change d d' a) {n : Nat}
    {r : OrderRequest α} {entry : OrderEntry α} (hs : d.sending n = some r)
    (hs' : d'.phases[n]? = some (.finished (.ok ()))) (hf : d.table.find? r.id = some entry) :
    a.event? = none ∧
      ∃ k, d'.table.find? r.id = some { entry with retries := entry.retries + k } := by
  have hnone : d'.sending n = none := sending_of_phase hs'
  -- The phase has changed to success, which neither an event nor another instruction can do.
  cases h with
  | idle _ hp _ =>
    rw [sending, hp, ← sending, hs] at hnone
    cases hnone
  | instruct i _ hp _ =>
    rw [sending_append hp, hs] at hnone
    cases hnone
  | hear e now _ hp _ =>
    rw [sending, hp, ← sending, hs] at hnone
    cases hnone
  | move m p p' ha _ hp hp' hm =>
    by_cases hmn : n = m
    · -- It is the send's own step, and of all its steps only the conclusion succeeds.
      subst hmn
      refine ⟨ha, ?_⟩
      have hn : n < d.phases.length := (List.getElem?_eq_some_iff.mp hp).1
      rw [hp', List.getElem?_set_self hn] at hs'
      rw [sending_of_phase hp] at hs
      generalize ht' : d'.table = t at hm ⊢
      cases hm with
      | goOn | begin => exact ⟨0, hf⟩
      | record _ r' now _ h =>
        rw [h] at hs
        cases hs
      | fail r' e k => cases hs'
      | conclude v result k => exact OrderTable.find?_addRetries_of_some hf v.id k
      | reject r' e now => cases hs'
    · rw [sending_set hp hp', if_neg hmn, hs] at hnone
      cases hnone

/-- An order that is in the table and that nobody sends is sent by nobody later. -/
theorem unsent_change {d d' : Desk α} {a : DeskAction α} (h : Change d d' a) {id : String}
    {entry : OrderEntry α} (hf : d.table.find? id = some entry)
    (hno : ∀ n r, d.sending n = some r → r.id ≠ id) :
    ∀ n r, d'.sending n = some r → r.id ≠ id := by
  rintro n r hn rfl
  exact hno n r (sending_of_taken h hn hf) rfl

variable [JsonAmount α]

/-- An order that nobody sends goes its course by the events that are heard of it. -/
theorem run_unsent {d : Desk α} {id : String} {entry : OrderEntry α}
    (hf : d.table.find? id = some entry) (hno : ∀ n r, d.sending n = some r → r.id ≠ id)
    (as : List (DeskAction α)) :
    ∃ entry', (d.run as).table.find? id = some entry' ∧ Course entry (heardOf id as) entry' ∧
      ∀ n r, (d.run as).sending n = some r → r.id ≠ id := by
  -- Along the run, with the id unsent all the way: an event for it is heard, and anything else can
  -- only count retries.
  induction as using List.reverseRecOn with
  | nil => exact ⟨entry, hf, .start, hno⟩
  | append_singleton as a ih =>
    obtain ⟨entry', hf', hcourse, hno'⟩ := ih
    have hc := act_change (d.run as) a
    rw [← run_concat] at hc
    have hunsent := unsent_change hc hf' hno'
    rcases entry_change_of_not_rejected hc hf' fun n r hn _ => hno' n r hn with
      ⟨e, now, he, rfl, hf''⟩ | ⟨he, k, hf''⟩
    · refine ⟨_, hf'', ?_, hunsent⟩
      rw [heardOf_concat_of_some as he]
      exact hcourse.hear e now
    · refine ⟨_, hf'', ?_, hunsent⟩
      rw [heardOf_concat_of_none id as he]
      exact hcourse.retry k

/-- An order that is heard of has an entry. -/
theorem heardOf_of_find?_eq_none {d : Desk α} (id : String) {as : List (DeskAction α)}
    (h : (d.run as).table.find? id = none) : heardOf id as = [] := by
  induction as using List.reverseRecOn with
  | nil => rfl
  | append_singleton as a ih =>
    have hbefore : (d.run as).table.find? id = none := by
      -- An entry stays, so one that was there before would be there now.
      by_contra hne
      obtain ⟨entry, hf⟩ := Option.ne_none_iff_exists'.mp hne
      obtain ⟨_, entry', -, hf'⟩ := (d.run as).run_course [a] hf
      rw [← run_append, h] at hf'
      cases hf'
    rw [heardOf_concat_of_none id as, ih hbefore]
    rintro e now he rfl
    rw [run_concat] at h
    cases act_change (d.run as) a with
    | hear e' now' he' _ ht =>
      rw [he] at he'
      cases he'
      rw [ht, OrderTable.find?_receive, if_pos rfl] at h
      cases h
    | idle he' | instruct _ he' | move _ _ _ he' =>
      rw [he] at he'
      cases he'

/-- While an order is being sent, its entry is what all events that were ever heard of it have made
of the new order. -/
theorem sending_course (venues : List Venue) (registry : Registry α) {as : List (DeskAction α)}
    {n : Nat} {r : OrderRequest α} (h : ((opened venues registry).run as).sending n = some r) :
    ∃ now entry, ((opened venues registry).run as).table.find? r.id = some entry ∧
      Course (.new (r.toOrder now)) (heardOf r.id as) entry := by
  -- Along the run: either the order was being sent before the last action, or that action has made
  -- its entry.
  induction as using List.reverseRecOn with
  | nil => simp [run, opened, sending] at h
  | append_singleton as a ih =>
    have hc := act_change ((opened venues registry).run as) a
    rw [← run_concat] at hc
    rcases sending_change hc h with hbefore | ⟨-, hevent, ⟨now, hi⟩, -⟩
    · obtain ⟨now, entry, hf, hcourse⟩ := ih hbefore
      have hu := (run_sending venues registry as).1
      rcases entry_change hc hu hbefore h hf with ⟨e, time, he, hid, hf'⟩ | ⟨he, k, hf'⟩
      · refine ⟨now, _, hf', ?_⟩
        rw [← hid] at hcourse ⊢
        rw [heardOf_concat_of_some as he]
        exact hcourse.hear e time
      · refine ⟨now, _, hf', ?_⟩
        rw [heardOf_concat_of_none r.id as he]
        exact hcourse.retry k
    · refine ⟨now, .new (r.toOrder now), ?_, ?_⟩
      · rw [OrderTable.find?_insertNew? hi]
        exact if_pos rfl
      · rw [heardOf_concat_of_none r.id as fun e time he => by simp [hevent] at he,
          heardOf_of_find?_eq_none r.id (OrderTable.insertNew?_eq_some hi).1]
        exact .start

/-- Of an order that was sent with success, too, whatever happens later on. -/
theorem sent_course (venues : List Venue) (registry : Registry α) {as : List (DeskAction α)}
    {a : DeskAction α} {n : Nat} {r : OrderRequest α}
    (hsending : ((opened venues registry).run as).sending n = some r)
    (hsent : ((opened venues registry).run (as ++ [a])).phases[n]? = some (.finished (.ok ())))
    (bs : List (DeskAction α)) :
    ∃ now entry, ((opened venues registry).run (as ++ a :: bs)).table.find? r.id = some entry ∧
      Course (.new (r.toOrder now)) (heardOf r.id (as ++ a :: bs)) entry := by
  obtain ⟨now, entry, hf, hcourse⟩ := sending_course venues registry hsending
  have hc := act_change ((opened venues registry).run as) a
  rw [← run_concat] at hc
  obtain ⟨hevent, k, hf'⟩ := entry_change_of_success hc hsending hsent hf
  -- The one instruction that was sending the order has come to its end.
  have hno : ∀ m s, ((opened venues registry).run (as ++ [a])).sending m = some s →
      s.id ≠ r.id := by
    intro m s hm hid
    have hm' := sending_of_taken hc hm (hid ▸ hf)
    obtain rfl := (run_sending venues registry as).1 m n s r hm' hsending hid
    rw [sending_of_phase hsent] at hm
    cases hm
  obtain ⟨entry', hf'', hcourse', -⟩ := run_unsent hf' hno bs
  have hsplit : as ++ a :: bs = as ++ [a] ++ bs := List.append_cons as a bs
  have hheard : heardOf r.id (as ++ a :: bs) = heardOf r.id as ++ heardOf r.id bs := by
    rw [hsplit, heardOf_append, heardOf_concat_of_none r.id as fun e time he => by
      simp [hevent] at he]
  refine ⟨now, entry', ?_, ?_⟩
  · rw [hsplit, run_append]
    exact hf''
  · rw [hheard]
    exact (hcourse.retry k).trans hcourse'

end Runs

/-- Of an order that was accepted and sent with success, let all that is ever heard be executions
with their own quantities, which make up the order. It is filled just when one of them is more than
dust and those that are dust are no more than dust together; its quantity is reached, up to dust,
just when the latter holds. Otherwise it is still open, and what is missing from it is the dust. -/
theorem completed_but_for_dust (venues : List Venue) (registry : Registry Rat)
    (as bs : List (DeskAction Rat)) (a : DeskAction Rat) (n : Nat) (r : OrderRequest Rat)
    (haccepted : r.check = .ok ())
    (hsending : ((opened venues registry).run as).sending n = some r)
    (hsent : ((opened venues registry).run (as ++ [a])).phases[n]? = some (.finished (.ok ())))
    (hexecutes : ∀ x ∈ heardOf r.id (as ++ a :: bs), x.1.Executes r.quantity)
    (hsum : (reportedOf r.id (as ++ a :: bs)).sum = r.quantity) :
    ∃ entry, ((opened venues registry).run (as ++ a :: bs)).table.find? r.id = some entry ∧
      (entry.state = .filled ↔
        (∃ q ∈ reportedOf r.id (as ++ a :: bs), Amount.epsilon < q) ∧
          Amount.dusted (reportedOf r.id (as ++ a :: bs)) ≤ Amount.epsilon) ∧
      (|entry.filled - r.quantity| ≤ Amount.epsilon ↔
        Amount.dusted (reportedOf r.id (as ++ a :: bs)) ≤ Amount.epsilon) ∧
      (entry.state ≠ .filled → entry.state.isTerminal = false ∧
        entry.filled = r.quantity - Amount.dusted (reportedOf r.id (as ++ a :: bs))) := by
  obtain ⟨now, entry, hf, hcourse⟩ := sent_course venues registry hsending hsent bs
  have hpos := OrderRequest.quantity_pos haccepted
  have hquantities : ∀ q ∈ reportedOf r.id (as ++ a :: bs), 0 < q :=
    List.forall_mem_map.mpr fun x hx => (hexecutes x hx).pos
  exact ⟨entry, hf, (hcourse.progress hpos hexecutes).filled_iff hpos hquantities hsum⟩

def wholeRequest : OrderRequest Rat := ⟨"c", .deribit, "BTC-PERPETUAL", .buy, .limit, 1, 5⟩

/-- It is sent, up to the call at the venue. -/
def wholeSend : List (DeskAction Rat) :=
  let clock : Clock := ⟨0, 1⟩
  [.instruct (.send wholeRequest), .step 0 clock 0, .step 0 clock 0, .step 0 clock 0,
    .step 0 clock 0]

/-- The venue takes it. -/
def wholeTaken : DeskAction Rat := .answer 0 ⟨0, 1⟩ 0 (.ok ())

/-- A quantity that is dust; the double of it is more. -/
def grain : Rat := 1 / 134217728

def bit (quantity : Rat) : OrderEvent Rat :=
  { OrderEvent.bare .deribit "c" "BTC-PERPETUAL" .fill 1 with
    fillQuantity := quantity, fillPrice := 5 }

/-- What is heard of it: executions that make up the whole order. -/
def bits (quantities : List Rat) : List (DeskAction Rat) :=
  quantities.map fun quantity => .report (.order (bit quantity)) 2

theorem heardOf_bits (quantities : List Rat) :
    heardOf "c" (wholeSend ++ wholeTaken :: bits quantities) =
      quantities.map fun quantity => (bit quantity, 2) := by
  have hbits : (bits quantities).filterMap DeskAction.event? =
      quantities.map fun quantity => (bit quantity, 2) := by
    rw [bits, List.filterMap_map, ← List.filterMap_eq_map']
    rfl
  have hsend : (wholeSend ++ wholeTaken :: bits quantities).filterMap DeskAction.event? =
      (bits quantities).filterMap DeskAction.event? := rfl
  rw [heardOf, hsend, hbits]
  exact List.filter_eq_self.mpr (List.forall_mem_map.mpr fun _ _ => rfl)

theorem bits_execute (quantities : List Rat) (h : ∀ q ∈ quantities, 0 < q) :
    ∀ x ∈ heardOf "c" (wholeSend ++ wholeTaken :: bits quantities),
      x.1.Executes wholeRequest.quantity := by
  rw [heardOf_bits]
  exact List.forall_mem_map.mpr fun q hq => ⟨rfl, h q hq, rfl, rfl⟩

/-- In halves but for one grain of dust, which is missing in the end and does not matter. -/
theorem completed_but_for_dust_halves :
    let bs := bits [1 / 2, 1 / 2 - grain, grain]
    ∃ entry, ((single .deribit).run (wholeSend ++ wholeTaken :: bs)).table.find? "c" =
        some entry ∧
      entry.state = .filled ∧ |entry.filled - wholeRequest.quantity| ≤ Amount.epsilon := by
  intro bs
  have hexecute := bits_execute [1 / 2, 1 / 2 - grain, grain] (by decide +kernel)
  have hsent : ((single .deribit).run (wholeSend ++ [wholeTaken])).phases[0]? =
      some (.finished (.ok ())) := rfl
  obtain ⟨entry, hf, hfilled, hnear, -⟩ := completed_but_for_dust [.deribit] _ wholeSend bs
    wholeTaken 0 wholeRequest (by decide +kernel) rfl hsent hexecute (by decide +kernel)
  have hdusted : Amount.dusted (reportedOf "c" (wholeSend ++ wholeTaken :: bs)) ≤
      Amount.epsilon := by decide +kernel
  have hcounts : ∃ q ∈ reportedOf "c" (wholeSend ++ wholeTaken :: bs), Amount.epsilon < q := by
    decide +kernel
  exact ⟨entry, hf, hfilled.mpr ⟨hcounts, hdusted⟩, hnear.mpr hdusted⟩

/-- The whole of it is executed, two grains of dust first: both are dropped, and the order is not
filled. -/
theorem grains_leave_order_open :
    let bs := bits [grain, grain, 1 - grain - grain]
    wholeRequest.check = .ok () ∧
      ((single .deribit).run wholeSend).sending 0 = some wholeRequest ∧
      ((single .deribit).run (wholeSend ++ [wholeTaken])).phases[0]? =
        some (.finished (.ok ())) ∧
      (∀ x ∈ heardOf "c" (wholeSend ++ wholeTaken :: bs), x.1.Executes wholeRequest.quantity) ∧
      (reportedOf "c" (wholeSend ++ wholeTaken :: bs)).sum = wholeRequest.quantity ∧
      ((single .deribit).run (wholeSend ++ wholeTaken :: bs)).table.stateOf "c" =
        .partiallyFilled ∧
      (((single .deribit).run (wholeSend ++ wholeTaken :: bs)).table.find? "c").map
        (fun entry => decide (|entry.filled - wholeRequest.quantity| ≤ Amount.epsilon)) =
          some false := by
  intro bs
  exact ⟨by decide +kernel, rfl, rfl, bits_execute _ (by decide +kernel), by decide +kernel,
    by decide +kernel, by decide +kernel⟩

end VenueGateway.Desk
