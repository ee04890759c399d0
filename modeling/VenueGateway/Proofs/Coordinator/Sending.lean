import Mathlib.Data.List.Induction
import VenueGateway.Proofs.Coordinator.Desk
import VenueGateway.Proofs.Order.Lifecycle

namespace VenueGateway.Desk

open OrderEntry (Course)

section Instructions

variable {α : Type}

/-- The order that an instruction is sending. -/
def sending (d : Desk α) (n : Nat) : Option (OrderRequest α) := d.phases[n]?.bind (·.sending?)

/-- The events of one order that a list of actions brings, first to last. -/
def heardOf (id : String) (as : List (DeskAction α)) : List (OrderEvent α × Int) :=
  (as.filterMap DeskAction.event?).filter (·.1.id = id)

theorem heardOf_append (id : String) (as bs : List (DeskAction α)) :
    heardOf id (as ++ bs) = heardOf id as ++ heardOf id bs := by
  simp [heardOf, List.filterMap_append]

theorem heardOf_concat_of_none {a : DeskAction α} (id : String) (as : List (DeskAction α))
    (h : ∀ e now, a.event? = some (e, now) → e.id ≠ id) :
    heardOf id (as ++ [a]) = heardOf id as := by
  have hnothing : heardOf id [a] = [] := by
    unfold heardOf
    cases he : a.event? with
    | none => simp [he]
    | some x => simp [he, h x.1 x.2 he]
  rw [heardOf_append, hnothing, List.append_nil]

theorem heardOf_concat_of_some {a : DeskAction α} {e : OrderEvent α} {now : Int}
    (as : List (DeskAction α)) (h : a.event? = some (e, now)) :
    heardOf e.id (as ++ [a]) = heardOf e.id as ++ [(e, now)] := by
  have hone : heardOf e.id [a] = [(e, now)] := by simp [heardOf, h]
  rw [heardOf_append, hone]

theorem sending_set {d d' : Desk α} {n : Nat} {p p' : InstructionPhase α}
    (hp : d.phases[n]? = some p) (h : d'.phases = d.phases.set n p') (m : Nat) :
    d'.sending m = if m = n then p'.sending? else d.sending m := by
  have hn : n < d.phases.length := (List.getElem?_eq_some_iff.mp hp).1
  unfold sending
  rw [h]
  by_cases hm : m = n
  · subst hm
    simp [hn]
  · simp [List.getElem?_set_ne (Ne.symm hm), hm]

theorem sending_append {d d' : Desk α} {i : Instruction α}
    (h : d'.phases = d.phases ++ [.checking i]) (m : Nat) : d'.sending m = d.sending m := by
  unfold sending
  rw [h]
  rcases Nat.lt_trichotomy m d.phases.length with hm | rfl | hm
  · rw [List.getElem?_append_left hm]
  · simp [InstructionPhase.sending?, InstructionPhase.request?]
  · rw [List.getElem?_eq_none (Nat.le_of_lt hm), List.getElem?_eq_none]
    rw [List.length_append]
    exact hm

theorem sending_of_phase {d : Desk α} {n : Nat} {p : InstructionPhase α}
    (h : d.phases[n]? = some p) : d.sending n = p.sending? := by
  simp [sending, h]

theorem sending?_of_request? {p : InstructionPhase α} {r : OrderRequest α}
    (h : p.request? = some (.send r)) : p.sending? = some r := by
  simp [InstructionPhase.sending?, h]

theorem sending?_congr {p q : InstructionPhase α} (h : p.request? = q.request?) :
    p.sending? = q.sending? := by
  simp only [InstructionPhase.sending?, h]

/-- No two instructions are sending orders of the same id. -/
def Separate (d : Desk α) : Prop :=
  ∀ m n r s, d.sending m = some r → d.sending n = some s → r.id = s.id → m = n

end Instructions

variable {α : Type} [Factor α]

/-- An instruction that is sending after an action was so before it, or has just made the entry. -/
theorem sending_change {d d' : Desk α} {a : DeskAction α} (h : Change d d' a) {m : Nat}
    {r : OrderRequest α} (hs : d'.sending m = some r) :
    d.sending m = some r ∨
      (d.phases[m]? = some (.recording r) ∧ a.event? = none ∧
        (∃ now, d.table.insertNew? (r.toOrder now) = some d'.table) ∧
        ∀ k, k ≠ m → d'.sending k = d.sending k) := by
  cases h with
  | idle _ hp _ =>
    left
    rw [← hs, sending, sending, hp]
  | instruct i _ hp _ =>
    left
    rw [← hs, sending_append hp]
  | hear e now _ hp _ =>
    left
    rw [← hs, sending, sending, hp]
  | move n p p' ha _ hp hp' hm =>
    rw [sending_set hp hp'] at hs
    by_cases hmn : m = n
    · subst hmn
      rw [if_pos rfl] at hs
      rw [sending_of_phase hp]
      generalize ht' : d'.table = t at hm ⊢
      -- Of the steps of an instruction only recording starts to send; every other one sends what it
      -- sent before or nothing.
      cases hm with
      | goOn _ h =>
        left
        rw [← hs]
        exact sending?_congr h.symm
      | begin _ h h' =>
        rw [h'] at hs
        cases hs
      | record _ r' now _ h h' ht =>
        right
        have hr : r' = r := by
          rw [sending?_of_request? h'] at hs
          exact Option.some.inj hs
        subst hr
        refine ⟨h ▸ hp, ha, ⟨now, ht⟩, fun k hk => ?_⟩
        rw [sending_set hp hp', if_neg hk]
      | fail r' e k h =>
        left
        rw [← hs, sending?_of_request? h]
        rfl
      | conclude => cases hs
      | reject => cases hs
    · rw [if_neg hmn] at hs
      exact Or.inl hs

/-- An entry changes by the events of its order, and by the count of its retries, unless an
instruction ends by rejecting it. -/
theorem entry_change_of_not_rejected {d d' : Desk α} {a : DeskAction α} (h : Change d d' a)
    {id : String} {entry : OrderEntry α} (hf : d.table.find? id = some entry)
    (hno : ∀ n r, d.sending n = some r → d'.sending n = none → r.id ≠ id) :
    (∃ e now, a.event? = some (e, now) ∧ e.id = id ∧
      d'.table.find? id = some (entry.receive e now false).1) ∨
    ((∀ e now, a.event? = some (e, now) → e.id ≠ id) ∧
      ∃ k, d'.table.find? id = some { entry with retries := entry.retries + k }) := by
  cases h with
  | idle ha _ ht =>
    right
    refine ⟨fun e now he => by simp [ha] at he, 0, ?_⟩
    rw [ht]
    exact hf
  | instruct i ha _ ht =>
    right
    refine ⟨fun e now he => by simp [ha] at he, 0, ?_⟩
    rw [ht]
    exact hf
  | hear e now ha _ ht =>
    by_cases hid : e.id = id
    · left
      refine ⟨e, now, ha, hid, ?_⟩
      rw [ht, ← hid]
      rw [← hid] at hf
      exact OrderTable.find?_receive_of_some now hf
    · right
      refine ⟨?_, 0, ?_⟩
      · intro e' now' he
        rw [ha] at he
        cases he
        exact hid
      · rw [ht, OrderTable.find?_receive, if_neg (Ne.symm hid)]
        exact hf
  | move n p p' ha _ hp hp' hm =>
    right
    refine ⟨fun e now he => by simp [ha] at he, ?_⟩
    have hsn := sending_of_phase hp
    have hsn' := sending_set hp hp' n
    generalize ht' : d'.table = t at hm ⊢
    -- A step reaches the entry in two ways: it counts retries, which the conclusion allows, or it
    -- rejects, which `hno` excludes for this id.
    cases hm with
    | goOn => exact ⟨0, hf⟩
    | begin => exact ⟨0, hf⟩
    | record _ r' now _ _ _ ht =>
      have hne : id ≠ (r'.toOrder now).id := by
        rintro rfl
        rw [(OrderTable.insertNew?_eq_some ht).1] at hf
        cases hf
      refine ⟨0, ?_⟩
      rw [OrderTable.find?_insertNew? ht, if_neg hne]
      exact hf
    | fail r' e k h => exact OrderTable.find?_addRetries_of_some hf r'.id k
    | conclude v result k h => exact OrderTable.find?_addRetries_of_some hf v.id k
    | reject r' e now h =>
      rw [h] at hsn
      rw [if_pos rfl] at hsn'
      have hne : id ≠ (r'.rejection e now).id := Ne.symm (hno n r' hsn hsn')
      refine ⟨0, ?_⟩
      rw [OrderTable.find?_receive, if_neg hne]
      exact hf

/-- The entry of an order that is being sent changes by the events of that order, and by the count
of its retries: no other instruction is sending this order, which could reject it. -/
theorem entry_change {d d' : Desk α} {a : DeskAction α} (h : Change d d' a) (hu : d.Separate)
    {m : Nat} {r : OrderRequest α} {entry : OrderEntry α} (hs : d.sending m = some r)
    (hs' : d'.sending m = some r) (hf : d.table.find? r.id = some entry) :
    (∃ e now, a.event? = some (e, now) ∧ e.id = r.id ∧
      d'.table.find? r.id = some (entry.receive e now false).1) ∨
    ((∀ e now, a.event? = some (e, now) → e.id ≠ r.id) ∧
      ∃ k, d'.table.find? r.id = some { entry with retries := entry.retries + k }) := by
  refine entry_change_of_not_rejected h hf fun n s hn hend hid => ?_
  obtain rfl := hu m n r s hs hn hid.symm
  rw [hs'] at hend
  cases hend

/-- An order that is in the table already is sent by no other instruction from now on. -/
theorem sending_of_taken {d d' : Desk α} {a : DeskAction α} (h : Change d d' a) {n : Nat}
    {r : OrderRequest α} {entry : OrderEntry α} (hs : d'.sending n = some r)
    (hf : d.table.find? r.id = some entry) : d.sending n = some r := by
  rcases sending_change h hs with hs | ⟨-, -, ⟨now, hi⟩, -⟩
  · exact hs
  · have hnone : d.table.find? r.id = none := (OrderTable.insertNew?_eq_some hi).1
    rw [hf] at hnone
    cases hnone

theorem Change.separate {d d' : Desk α} {a : DeskAction α} (h : Change d d' a)
    (hu : d.Separate)
    (ht : ∀ n r, d.sending n = some r → ∃ entry, d.table.find? r.id = some entry) :
    d'.Separate := by
  intro m n r s hm hn hid
  by_contra hne
  -- One of the two was sending before, so that its order is in the table and the other was too.
  rcases sending_change h hm with hm' | ⟨-, -, -, hk⟩
  · obtain ⟨entry, hf⟩ := ht m r hm'
    rw [hid] at hf
    exact hne (hu m n r s hm' (sending_of_taken h hn hf) hid)
  · rw [hk n (Ne.symm hne)] at hn
    obtain ⟨entry, hf⟩ := ht n s hn
    rw [← hid] at hf
    exact hne (hu m n r s (sending_of_taken h hm hf) hn hid)

variable [JsonAmount α]

/-- An instruction has made the entry of its order at some point of a run, and the entry has come
about by the events heard since then. -/
def Underway (start : Desk α) (as : List (DeskAction α)) (n : Nat) (r : OrderRequest α)
    (entry : OrderEntry α) : Prop :=
  ∃ before a since now, as = before ++ a :: since ∧
    (start.run before).phases[n]? = some (.recording r) ∧
    (start.run before).table.find? r.id = none ∧
    (start.run as).table.find? r.id = some entry ∧
    Course (.new (r.toOrder now)) (heardOf r.id since) entry

theorem Underway.find? {start : Desk α} {as : List (DeskAction α)} {n : Nat} {r : OrderRequest α}
    {entry : OrderEntry α} (h : Underway start as n r entry) :
    (start.run as).table.find? r.id = some entry := by
  obtain ⟨_, _, _, _, _, _, _, hf, _⟩ := h
  exact hf

/-- The instruction goes on to send its order. -/
theorem Underway.concat {start : Desk α} {as : List (DeskAction α)} {n : Nat}
    {r : OrderRequest α} {entry : OrderEntry α} (h : Underway start as n r entry)
    (hu : (start.run as).Separate) {a : DeskAction α} (hs : (start.run as).sending n = some r)
    (hs' : (start.run (as ++ [a])).sending n = some r) :
    ∃ entry', Underway start (as ++ [a]) n r entry' := by
  have hc := act_change (start.run as) a
  rw [← run_concat] at hc
  have hf := h.find?
  obtain ⟨before, b, since, now, has, hp, hn, -, hcourse⟩ := h
  have has' : as ++ [a] = before ++ b :: (since ++ [a]) := by simp [has]
  -- The new action either reports on the order, and extends what was heard, or leaves its entry but
  -- for the retries.
  rcases entry_change hc hu hs hs' hf with ⟨e, time, he, hid, hf'⟩ | ⟨he, k, hf'⟩
  · refine ⟨_, before, b, since ++ [a], now, has', hp, hn, hf', ?_⟩
    rw [← hid] at hcourse ⊢
    rw [heardOf_concat_of_some since he]
    exact hcourse.hear e time
  · refine ⟨_, before, b, since ++ [a], now, has', hp, hn, hf', ?_⟩
    rw [heardOf_concat_of_none r.id since he]
    exact hcourse.retry k

/-- In every run, an order that is being sent is sent by one instruction only, which made its entry;
and that entry is what the events since then have made of it. -/
theorem run_sending (venues : List Venue) (registry : Registry α) (as : List (DeskAction α)) :
    ((opened venues registry).run as).Separate ∧
      ∀ n r, ((opened venues registry).run as).sending n = some r →
        ∃ entry, Underway (opened venues registry) as n r entry := by
  generalize hstart : opened venues registry = start
  -- Induction from the end of the run. That no two instructions send one id and that every sending
  -- order is tracked need each other, so they are carried together.
  induction as using List.reverseRecOn with
  | nil =>
    subst hstart
    constructor
    · intro m n r s h
      simp [run, opened, sending] at h
    · intro n r h
      simp [run, opened, sending] at h
  | append_singleton as a ih =>
    obtain ⟨hu, ih⟩ := ih
    have hc := act_change (start.run as) a
    rw [← run_concat] at hc
    constructor
    · exact hc.separate hu fun n r hn => (ih n r hn).imp fun _ h => h.find?
    · intro n r hn
      rcases sending_change hc hn with hn' | ⟨hp, -, ⟨now, hi⟩, -⟩
      · obtain ⟨entry, h⟩ := ih n r hn'
        exact h.concat hu hn' hn
      · refine ⟨.new (r.toOrder now), as, a, [], now, rfl, hp,
          (OrderTable.insertNew?_eq_some hi).1, ?_, .start⟩
        rw [OrderTable.find?_insertNew? hi]
        exact if_pos rfl

end VenueGateway.Desk
