import VenueGateway.Proofs.Resilience.Circuit

namespace VenueGateway

/-- What happens at a breaker: calls arrive, those let through land in any order, and the operator may
force it open. -/
inductive TrafficEvent (β : Type) where
  | arrive (now : Nat)
  | land (call now : Nat) (outcome : Except GatewayError β)
  | forceOpen (now : Nat)

def TrafficEvent.isArrival {β : Type} : TrafficEvent β → Bool
  | .arrive _ => true
  | .land .. | .forceOpen _ => false

/-- A breaker and the calls in the air, which are numbered as they arrive. -/
structure Traffic where
  breaker : Breaker
  arrived : Nat := 0
  inFlight : List Nat := []
deriving DecidableEq, Repr

namespace Traffic

variable {β : Type}

/-- The next state; only a call in the air can land. -/
def step (t : Traffic) : TrafficEvent β → Option Traffic
  | .arrive now => some
      { breaker := t.breaker.take (.acquire now)
        arrived := t.arrived + 1
        inFlight := if (t.breaker.acquire now).1 then t.arrived :: t.inFlight else t.inFlight }
  | .land call now outcome =>
    if call ∈ t.inFlight then
      some { t with
        breaker := t.breaker.take (.answer now outcome)
        inFlight := t.inFlight.erase call }
    else none
  | .forceOpen now => some { t with breaker := t.breaker.take (.forceOpen now) }

def run (t : Traffic) (es : List (TrafficEvent β)) : Option Traffic := es.foldlM step t

theorem run_cons (t : Traffic) (e : TrafficEvent β) (es : List (TrafficEvent β)) :
    t.run (e :: es) = (t.step e).bind (·.run es) := List.foldlM_cons

theorem step_land {t u : Traffic} {call now : Nat} {outcome : Except GatewayError β}
    (h : t.step (.land call now outcome) = some u) :
    call ∈ t.inFlight ∧ u = { t with
      breaker := t.breaker.take (.answer now outcome)
      inFlight := t.inFlight.erase call } := by
  by_cases hcall : call ∈ t.inFlight
  · rw [step, if_pos hcall] at h
    exact ⟨hcall, (Option.some.inj h).symm⟩
  · rw [step, if_neg hcall] at h
    cases h

/-- A call that nothing overlaps lands as the one that arrived. -/
theorem run_arrive_land {t : Traffic} {now : Nat} (outcome : Except GatewayError β)
    (hpass : (t.breaker.acquire now).1 = true) :
    t.run [.arrive now, .land t.arrived now outcome] =
      some { t with breaker := (t.breaker.execute now outcome).2.2.1, arrived := t.arrived + 1 } := by
  simp only [run_cons, step, hpass, if_true, Option.bind_some, List.mem_cons, true_or,
    List.erase_cons_head, Breaker.take_answer, Breaker.execute]
  simp only [Breaker.take, hpass, if_true]
  rfl

/-- As long as a breaker stays open no call is let through, and each arrival is a refusal. -/
structure KeptShut (t : Traffic) (es : List (TrafficEvent β)) (u : Traffic) : Prop where
  isOpen : u.breaker.state = .open
  stamped : u.breaker.lastFailure ≠ none
  config_eq : u.breaker.config = t.breaker.config
  inFlight_subset : u.inFlight ⊆ t.inFlight
  rejectedCalls_eq : u.breaker.rejectedCalls = t.breaker.rejectedCalls + es.countP (·.isArrival)

/-- How a breaker leaves the open state: a call arrives after the rest and probes, or one of the calls
from before succeeds. -/
inductive Departure (before : List Nat) (t : Traffic) : TrafficEvent β → Traffic → Prop
  | probe {u : Traffic} (since now : Nat) (h : t.breaker.lastFailure = some since)
      (hrest : t.breaker.config.retryTimeout.nanos ≤ now - since)
      (hstate : u.breaker.state = .halfOpen) : Departure before t (.arrive now) u
  | late {u : Traffic} (call now : Nat) (x : β) (h : call ∈ before)
      (hstate : u.breaker.state = .closed) : Departure before t (.land call now (.ok x)) u

theorem KeptShut.refl {t : Traffic} (h : t.breaker.state = .open)
    (hstamped : t.breaker.lastFailure ≠ none) : KeptShut t ([] : List (TrafficEvent β)) t :=
  ⟨h, hstamped, rfl, List.Subset.refl _, rfl⟩

theorem KeptShut.trans {t u v : Traffic} {es es' : List (TrafficEvent β)} (h : KeptShut t es u)
    (h' : KeptShut u es' v) : KeptShut t (es ++ es') v where
  isOpen := h'.isOpen
  stamped := h'.stamped
  config_eq := h'.config_eq.trans h.config_eq
  inFlight_subset := List.Subset.trans h'.inFlight_subset h.inFlight_subset
  rejectedCalls_eq := by
    rw [h'.rejectedCalls_eq, h.rejectedCalls_eq, List.countP_append, Nat.add_assoc]

theorem Departure.mono {t u : Traffic} {e : TrafficEvent β} {before before' : List Nat}
    (h : Departure before t e u) (hsub : before ⊆ before') : Departure before' t e u := by
  cases h with
  | probe since now hlast hrest hstate => exact .probe since now hlast hrest hstate
  | late call now x hcall hstate => exact .late call now x (hsub hcall) hstate

/-- An open breaker carries the time of its last failure, or of the order that opened it. -/
theorem stamped_of_opening {t u : Traffic} {e : TrafficEvent β} (hshut : t.breaker.state ≠ .open)
    (hstep : t.step e = some u) (hopen : u.breaker.state = .open) :
    u.breaker.lastFailure ≠ none := by
  -- A breaker that was shut opens by a failure or by force, and both write the time.
  cases e with
  | arrive now =>
    cases hstep
    simp [Breaker.take, Breaker.acquire_of_ne_open hshut] at hopen
    exact absurd hopen hshut
  | land call now outcome =>
    obtain ⟨-, rfl⟩ := step_land hstep
    cases outcome with
    | ok x => simp [BreakerStep.answer, Breaker.take, Breaker.succeed_fst] at hopen
    | error e =>
      by_cases htrips : t.breaker.Trips
      · simp [BreakerStep.answer, Breaker.take, Breaker.fail_fst_of_trips htrips, Breaker.failed]
      · simp [BreakerStep.answer, Breaker.take, Breaker.fail_fst_of_not_trips htrips, Breaker.failed]
  | forceOpen now =>
    cases hstep
    simp [Breaker.take, Breaker.forceOpen_fst]

theorem step_open {t u : Traffic} {e : TrafficEvent β} (hopen : t.breaker.state = .open)
    (hstamped : t.breaker.lastFailure ≠ none) (hstep : t.step e = some u) :
    KeptShut t [e] u ∨ Departure t.inFlight t e u := by
  -- An open breaker leaves that state by a call let through after the rest or by the late answer of
  -- a call let through before.
  cases e with
  | arrive now =>
    cases hstep
    cases hrest : t.breaker.isRested now with
    | true =>
      obtain ⟨since, hsince⟩ := Option.ne_none_iff_exists'.mp hstamped
      refine .inr (.probe since now hsince ?_ ?_)
      · simpa [Breaker.isRested, hsince] using hrest
      · simp [Breaker.take, Breaker.acquire_of_rested hopen hrest, Breaker.moveTo_fst]
    | false =>
      refine .inl ?_
      simp only [Breaker.take, Breaker.acquire_of_not_rested hopen hrest, Bool.false_eq_true,
        if_false, Breaker.reject]
      exact ⟨hopen, hstamped, rfl, List.Subset.refl _, rfl⟩
  | land call now outcome =>
    obtain ⟨hcall, rfl⟩ := step_land hstep
    cases outcome with
    | ok x =>
      refine .inr (.late call now x hcall ?_)
      simp [BreakerStep.answer, Breaker.take, Breaker.succeed_fst]
    | error e =>
      refine .inl ?_
      simp only [BreakerStep.answer, Breaker.take, Breaker.fail_fst_of_open hopen, Breaker.failed]
      exact ⟨hopen, Option.some_ne_none _, rfl, List.erase_subset, rfl⟩
  | forceOpen now =>
    cases hstep
    refine .inl ?_
    simp only [Breaker.take, Breaker.forceOpen_fst]
    exact ⟨rfl, Option.some_ne_none _, rfl, List.Subset.refl _, rfl⟩

theorem run_open {t t' : Traffic} {es : List (TrafficEvent β)} (hopen : t.breaker.state = .open)
    (hstamped : t.breaker.lastFailure ≠ none) (hrun : t.run es = some t') :
    KeptShut t es t' ∨ ∃ es₁ e es₂ u v, es = es₁ ++ e :: es₂ ∧ t.run es₁ = some u ∧
      KeptShut t es₁ u ∧ u.step e = some v ∧ Departure t.inFlight u e v := by
  -- Induction along the events up to the first one that leaves the open state.
  induction es generalizing t with
  | nil =>
    cases hrun
    exact .inl (.refl hopen hstamped)
  | cons e es ih =>
    rw [run_cons, Option.bind_eq_some_iff] at hrun
    obtain ⟨s, hstep, hrest⟩ := hrun
    rcases step_open hopen hstamped hstep with hkept | hleft
    · rcases ih hkept.isOpen hkept.stamped hrest with hall | ⟨es₁, d, es₂, u, v, rfl, hrun, hu, hv, hd⟩
      · exact .inl (hkept.trans hall)
      · refine .inr ⟨e :: es₁, d, es₂, u, v, rfl, ?_, hkept.trans hu, hv,
          hd.mono hkept.inFlight_subset⟩
        rw [run_cons, hstep]
        exact hrun
    · exact .inr ⟨[], e, es, t, s, rfl, rfl, .refl hopen hstamped, hstep, hleft⟩

/-- A breaker that a step has opened refuses every call until it is left, and it is left by a probe
after the rest or by the success of a call from before the opening. -/
theorem opened_until_probe_or_late_success {t t₀ t' : Traffic} {e₀ : TrafficEvent β}
    {es : List (TrafficEvent β)} (hshut : t.breaker.state ≠ .open) (hstep : t.step e₀ = some t₀)
    (hopen : t₀.breaker.state = .open) (hrun : t₀.run es = some t') :
    KeptShut t₀ es t' ∨ ∃ es₁ e es₂ u v, es = es₁ ++ e :: es₂ ∧ t₀.run es₁ = some u ∧
      KeptShut t₀ es₁ u ∧ u.step e = some v ∧ Departure t₀.inFlight u e v :=
  run_open hopen (stamped_of_opening hshut hstep hopen) hrun

def hourRest : Breaker := { name := "b", config := ⟨1, .ofSeconds 3600⟩ }

/-- Two calls are in the air. -/
def crossing : Traffic where
  breaker := hourRest
  arrived := 2
  inFlight := [1, 0]

/-- The first of the two has failed. -/
def crossed : Traffic where
  breaker := hourRest.take (.fail 1)
  arrived := 2
  inFlight := [1]

theorem opened_until_probe_or_late_success_crossed :
    let es : List (TrafficEvent Unit) := [.arrive 2, .land 1 3 (.ok ())]
    let t' : Traffic :=
      { breaker := (crossed.breaker.take (.acquire 2)).take .succeed, arrived := 3 }
    KeptShut crossed es t' ∨ ∃ es₁ e es₂ u v, es = es₁ ++ e :: es₂ ∧ crossed.run es₁ = some u ∧
      KeptShut crossed es₁ u ∧ u.step e = some v ∧ Departure crossed.inFlight u e v := by
  have hshut : crossing.breaker.state ≠ .open := by decide
  have hstep : crossing.step (.land 0 1 (.error ⟨.network, "lost", []⟩) : TrafficEvent Unit) =
      some crossed := rfl
  exact opened_until_probe_or_late_success hshut hstep (by decide) rfl

/-- A breaker that would rest for an hour opens, refuses a call, and is closed by one of those that it
had let through, at no time half-open. -/
theorem closed_by_crossing_call :
    let es : List (TrafficEvent Unit) :=
      [.arrive 0, .arrive 0, .land 0 1 (.error ⟨.network, "lost", []⟩), .arrive 2,
        .land 1 3 (.ok ())]
    (List.range 6).map (fun n => ((Traffic.mk hourRest 0 []).run (es.take n)).map
        (·.breaker.state)) =
      [some .closed, some .closed, some .closed, some .open, some .open, some .closed] := by
  decide

end Traffic

end VenueGateway
