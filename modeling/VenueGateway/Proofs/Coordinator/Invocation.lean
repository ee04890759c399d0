import VenueGateway.Proofs.Coordinator.Sending
import VenueGateway.Proofs.Order.Identity

namespace VenueGateway

namespace InstructionPhase

/-- What the venue is being asked right now. -/
def call? {α : Type} : InstructionPhase α → Option (VenueRequest α)
  | .calling v _ => some v
  | _ => none

end InstructionPhase

namespace Desk

open OrderEntry (Course)

section Phases

variable {α : Type}

def calling (d : Desk α) (n : Nat) : Option (VenueRequest α) := d.phases[n]?.bind (·.call?)

theorem advance_calling {d : Desk α} {n : Nat}
    {f : InstructionPhase α → InstructionPhase α × Coordinator α × List (Emission α)}
    {v : VenueRequest α} (hn : d.calling n = none) (h : (d.advance n f).1.calling n = some v) :
    ∃ p, d.phases[n]? = some p ∧ p.call? = none ∧ (f p).1.call? = some v := by
  unfold advance at h
  cases hp : d.phases[n]? with
  | none =>
    rw [hp, hn] at h
    cases h
  | some p =>
    have hlt : n < d.phases.length := (List.getElem?_eq_some_iff.mp hp).1
    simp only [hp, calling, List.getElem?_set_self hlt, Option.bind_some] at h hn
    exact ⟨p, rfl, hn, h⟩

theorem afterAttempt_call? {c : Coordinator α} {v w : VenueRequest α}
    {outcome : NextStep Unit × Registry α × GuardedCall α × List Observation}
    (h : (c.afterAttempt v outcome).1.call? = some w) : v = w := by
  obtain ⟨next, registry, call, seen⟩ := outcome
  cases next with
  | invoke => exact Option.some.inj h
  | wait millis => cases h
  | done result =>
    cases v with
    | send r => cases result <;> cases h
    | cancel o => cases h
    | modify o quantity price => cases h

end Phases

section Definitions

variable {α : Type} [Factor α] [JsonAmount α]

/-- A run step by step: each action with the desk that it found. -/
def history (d : Desk α) : List (DeskAction α) → List (Desk α × DeskAction α)
  | [] => []
  | a :: as => (d, a) :: (d.act a).1.history as

theorem mem_history_iff {d x : Desk α} {a : DeskAction α} {as : List (DeskAction α)} :
    (x, a) ∈ d.history as ↔ ∃ before since, as = before ++ a :: since ∧ x = d.run before := by
  -- Along the actions, from whatever state the desk has come to.
  induction as generalizing d with
  | nil => simp [history]
  | cons b as ih =>
    rw [history, List.mem_cons, ih]
    constructor
    · rintro (he | ⟨before, since, rfl, rfl⟩)
      · cases he
        exact ⟨[], as, rfl, rfl⟩
      · exact ⟨b :: before, since, rfl, rfl⟩
    · rintro ⟨before, since, has, rfl⟩
      cases before with
      | nil =>
        cases has
        exact Or.inl rfl
      | cons b' before =>
        cases has
        exact Or.inr ⟨before, since, rfl, rfl⟩

/-- The instruction that comes to call its venue by an action, and what it asks. -/
def invocation? (d : Desk α) (a : DeskAction α) : Option (Nat × VenueRequest α) :=
  a.number?.bind fun n =>
    if (d.calling n).isNone then ((d.act a).1.calling n).map fun v => (n, v) else none

/-- All calls at the venues in a run, first to last. -/
def invocations (d : Desk α) (as : List (DeskAction α)) : List (Nat × VenueRequest α) :=
  (d.history as).filterMap fun (x, a) => x.invocation? a

end Definitions

variable {α : Type} [Factor α]

theorem answer_call? {c : Coordinator α} {clock : Clock} {noise : α}
    {outcome : Except GatewayError Unit} {p : InstructionPhase α} (hp : p.call? = none) :
    (c.answer clock noise outcome p).1.call? = none := by
  cases p with
  | calling v call => cases hp
  | checking _ | limiting _ | recording _ | attempting _ _ | rejecting _ _ | waiting _ _ _
  | finished _ => rfl

variable [JsonAmount α]

theorem step_call? {c : Coordinator α} {clock : Clock} {noise : α} {p : InstructionPhase α}
    {v : VenueRequest α} (hp : p.call? = none)
    (h : (c.step clock noise p).1.call? = some v) : ∃ call, p = .attempting v call := by
  -- Only the beginning of an attempt leads to a call.
  cases p with
  | attempting w call =>
    cases afterAttempt_call? h
    exact ⟨call, rfl⟩
  | checking i =>
    simp only [Coordinator.step] at h
    split at h <;> cases h
  | limiting w =>
    simp only [Coordinator.step] at h
    split at h <;> cases h
  | recording r =>
    simp only [Coordinator.step] at h
    split at h <;> cases h
  | calling w call => cases hp
  | waiting _ _ _ | rejecting _ _ | finished _ => cases h

/-- A venue is called by an instruction that has passed all checks, for its next attempt. -/
theorem attempting_of_invocation {d : Desk α} {a : DeskAction α} {n : Nat} {v : VenueRequest α}
    (h : d.invocation? a = some (n, v)) : ∃ call, d.phases[n]? = some (.attempting v call) := by
  obtain ⟨m, hm, h⟩ := Option.bind_eq_some_iff.mp h
  split at h
  · next hnone =>
    have hnone : d.calling m = none := Option.isNone_iff_eq_none.mp hnone
    obtain ⟨w, hw, he⟩ := Option.map_eq_some_iff.mp h
    cases he
    -- An answer or the end of a delay calls nobody, so it was a step.
    cases a with
    | step k clock noise =>
      cases hm
      obtain ⟨p, hp, hcall, hf⟩ := advance_calling hnone hw
      obtain ⟨call, rfl⟩ := step_call? hcall hf
      exact ⟨call, hp⟩
    | answer k clock noise outcome =>
      cases hm
      obtain ⟨p, hp, hcall, hf⟩ := advance_calling hnone hw
      rw [answer_call? hcall] at hf
      cases hf
    | resume k =>
      cases hm
      obtain ⟨p, hp, hcall, hf⟩ := advance_calling hnone hw
      cases p with
      | calling v call => cases hcall
      | checking _ | limiting _ | recording _ | attempting _ _ | rejecting _ _ | waiting _ _ _
      | finished _ => cases hf
    | instruct _ => cases hm
    | report _ _ => cases hm
  · cases h

theorem sending_of_invocation {d : Desk α} {a : DeskAction α} {n : Nat} {r : OrderRequest α}
    (h : d.invocation? a = some (n, .send r)) : d.sending n = some r := by
  obtain ⟨call, hp⟩ := attempting_of_invocation h
  rw [sending_of_phase hp]
  rfl

/-- An entry that is in the table stays there and only goes its course. -/
theorem run_course (d : Desk α) (as : List (DeskAction α)) {id : String} {entry : OrderEntry α}
    (h : d.table.find? id = some entry) :
    ∃ es entry', Course entry es entry' ∧ (d.run as).table.find? id = some entry' := by
  apply run_table_induction
    (fun t => ∃ es entry', Course entry es entry' ∧ t.find? id = some entry')
  · rintro t t' ⟨es, x, hx, hf⟩ hs
    obtain ⟨es', y, hy, hf'⟩ := hs.course hf
    exact ⟨es ++ es', y, hx.trans hy, hf'⟩
  · exact ⟨[], entry, .start, h⟩

/-- Who sends an order at the end of a run sent it already when its entry was there. -/
theorem sending_of_run {d : Desk α} {as : List (DeskAction α)} {n : Nat} {r : OrderRequest α}
    {entry : OrderEntry α} (hf : d.table.find? r.id = some entry)
    (h : (d.run as).sending n = some r) : d.sending n = some r := by
  induction as generalizing d entry with
  | nil => exact h
  | cons a as ih =>
    obtain ⟨es, entry', -, hf'⟩ := d.run_course [a] hf
    exact sending_of_taken (act_change d a) (ih hf' h) hf

/-- Two sends of one id, at whatever points of a run, are one. -/
theorem sending_unique (venues : List Venue) (registry : Registry α)
    (as bs : List (DeskAction α)) {m n : Nat} {r s : OrderRequest α}
    (hm : ((opened venues registry).run as).sending m = some r)
    (hn : ((opened venues registry).run (as ++ bs)).sending n = some s) (hid : r.id = s.id) :
    m = n ∧ r = s := by
  obtain ⟨hu, ht⟩ := run_sending venues registry as
  obtain ⟨entry, hund⟩ := ht m r hm
  have hf := hund.find?
  rw [hid] at hf
  rw [run_append] at hn
  have hn' := sending_of_run hf hn
  have hmn : m = n := hu m n r s hm hn' hid
  subst hmn
  rw [hm] at hn'
  exact ⟨rfl, Option.some.inj hn'⟩

/-- In every run of a desk, all calls that send an order of one id are made by one instruction, and
for one and the same order; each of them finds the order's entry in the table. The table never has
two entries for an id; each entry stays and is the same order's for good, made only of the events
that were heard of it; and once the order is over, nothing of its entry changes but the count of
retries and the venue's id. -/
theorem id_spent_once (venues : List Venue) (registry : Registry α) (as : List (DeskAction α)) :
    (∀ m n r s, (m, .send r) ∈ (opened venues registry).invocations as →
      (n, .send s) ∈ (opened venues registry).invocations as → r.id = s.id → m = n ∧ r = s) ∧
    (∀ a n r, ((opened venues registry).run as).invocation? a = some (n, .send r) →
      ∃ entry, ((opened venues registry).run as).table.find? r.id = some entry) ∧
    ((opened venues registry).run as).table.ids.Nodup ∧
    ∀ (bs : List (DeskAction α)) (id : String) (entry : OrderEntry α),
      ((opened venues registry).run as).table.find? id = some entry →
      ∃ es entry', ((opened venues registry).run (as ++ bs)).table.find? id = some entry' ∧
        Course entry es entry' ∧ entry'.origin = entry.origin ∧
        (entry.state.isTerminal = true → entry' = { entry with
          retries := entry'.retries
          order := { entry.order with venueId := entry'.order.venueId } }) := by
  refine ⟨?_, ?_, ?_, ?_⟩
  · intro m n r s hm hn hid
    obtain ⟨⟨x, a⟩, hx, ha⟩ := List.mem_filterMap.mp hm
    obtain ⟨⟨y, b⟩, hy, hb⟩ := List.mem_filterMap.mp hn
    obtain ⟨before, since, has, rfl⟩ := mem_history_iff.mp hx
    obtain ⟨before', since', has', rfl⟩ := mem_history_iff.mp hy
    have hr := sending_of_invocation ha
    have hs := sending_of_invocation hb
    -- One of the two calls came first; from there the other instruction is followed back.
    rcases List.prefix_or_prefix_of_prefix ⟨_, has.symm⟩ ⟨_, has'.symm⟩ with ⟨l, rfl⟩ | ⟨l, rfl⟩
    · exact sending_unique venues registry before l hr hs hid
    · obtain ⟨hmn, hrs⟩ := sending_unique venues registry before' l hs hr hid.symm
      exact ⟨hmn.symm, hrs.symm⟩
  · intro a n r h
    obtain ⟨entry, hu⟩ := (run_sending venues registry as).2 n r (sending_of_invocation h)
    exact ⟨entry, hu.find?⟩
  · apply run_table_induction (fun t => t.ids.Nodup)
    · exact fun t t' h hs => hs.ids_nodup h
    · exact List.nodup_nil
  · intro bs id entry h
    rw [run_append]
    obtain ⟨es, entry', hc, hf⟩ := run_course _ bs h
    exact ⟨es, entry', hf, hc, hc.origin_eq, hc.eq_of_isTerminal⟩

def contested : OrderRequest Rat := ⟨"c", .deribit, "BTC-PERPETUAL", .buy, .limit, 10, 5⟩

/-- Two sends of one id pass the first check side by side. One of them makes the entry and fails at
the venue. -/
def contest : List (DeskAction Rat) :=
  let clock : Clock := ⟨0, 1⟩
  [.instruct (.send contested), .instruct (.send { contested with quantity := 20 }),
    .step 0 clock 0, .step 1 clock 0, .step 0 clock 0, .step 1 clock 0, .step 1 clock 0,
    .step 0 clock 0, .step 1 clock 0, .answer 1 clock 0 (.error ⟨.api, "insufficient margin", []⟩),
    .step 1 clock 0]

/-- An execution of the order that failed, reported too late and with new terms. -/
def lateExecution : DeskAction Rat :=
  .report (.order { OrderEvent.bare .deribit "c" "BTC-PERPETUAL" .fill 3 with
    fillQuantity := 20, orderQuantity := some 30, venueId := some "v" }) 4

theorem id_spent_once_contest :
    let sent : OrderRequest Rat := { contested with quantity := 20 }
    (1, .send sent) ∈ (single .deribit).invocations contest ∧
      (∀ n s, (n, .send s) ∈ (single .deribit).invocations contest → s.id = "c" → n = 1) ∧
      ∃ entry entry', ((single .deribit).run contest).table.find? "c" = some entry ∧
        entry.state = .rejected ∧
        ((single .deribit).run (contest ++ [lateExecution])).table.find? "c" = some entry' ∧
        entry'.state = .rejected ∧ entry'.filled = entry.filled ∧
        entry'.order.quantity = entry.order.quantity ∧ entry'.updatedAt = entry.updatedAt := by
  intro sent
  have hall : (single .deribit).invocations contest = [(1, .send sent)] := rfl
  have hm : (1, .send sent) ∈ (single .deribit).invocations contest := by
    rw [hall]
    exact List.mem_cons_self
  obtain ⟨hone, -, -, hstay⟩ :=
    id_spent_once [.deribit] (single .deribit).coordinator.registry contest
  have hs : (((single .deribit).run contest).table.find? "c").map (·.state) = some .rejected := by
    decide +kernel
  obtain ⟨entry, hf, hs⟩ := Option.map_eq_some_iff.mp hs
  obtain ⟨es, entry', hf', -, -, hover⟩ := hstay [lateExecution] "c" entry hf
  have he := hover (by rw [hs]; rfl)
  refine ⟨hm, fun n s hn hid => (hone n 1 s sent hn hm hid).1, entry, entry', hf, hs, hf', ?_⟩
  rw [he]
  exact ⟨hs, rfl, rfl, rfl⟩

end Desk

end VenueGateway
