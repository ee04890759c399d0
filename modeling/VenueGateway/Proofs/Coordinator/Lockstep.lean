import VenueGateway.Proofs.Coordinator.Apart

namespace VenueGateway

theorem Dialect.isFinal_refusal {α β : Type} {d : Dialect} {v : VenueRequest α} {e : GatewayError}
    (h : d.refusal? v = some e) : isFinal (.error e : Except GatewayError β) = true := by
  rw [isFinal, GatewayError.isRetryable, kind_of_refusal? h]
  rfl

namespace Registry

theorem Concluded.limiters_eq {α β : Type} {r r' : Registry α} {c : GuardedCall α}
    {result : Except GatewayError β} (h : Concluded r c result r') : r'.limiters = r.limiters := by
  cases h <;> rfl

variable {α β : Type} [Factor α] (r : Registry α) (c : GuardedCall α) (clock : Clock) (noise : α)

/-- Attempts do not ask the limiters. -/
theorem limiters_startAttempt :
    (r.startAttempt (β := β) c clock noise).2.1.limiters = r.limiters := by
  have hstarted := r.startAttempt_started (β := β) c clock noise
  generalize r.startAttempt (β := β) c clock noise = o at hstarted
  obtain ⟨next, registry, call, seen⟩ := o
  cases hstarted with
  | invoked breakers => rfl
  | refused e _ h => exact h.limiters_eq

theorem limiters_endAttempt (outcome : Except GatewayError β) :
    (r.endAttempt c clock noise outcome).2.1.limiters = r.limiters := by
  have hended := r.endAttempt_ended c clock noise outcome
  generalize r.endAttempt c clock noise outcome = o at hended
  obtain ⟨next, registry, call, seen⟩ := o
  cases hended with
  | concluded result _ h _ => exact h.limiters_eq
  | again breakers millis _ _ => rfl

end Registry

namespace Passage

section Met

variable {α : Type} {d : Dialect} {p : Passage α} {x : Circumstance α}

theorem met_of_call?_eq_none (h : p.phase.call? = none) : p.met d x = x := by
  cases hphase : p.phase with
  | calling v call =>
    rw [hphase] at h
    cases h
  | _ => simp only [met, hphase]

theorem met_calling {v : VenueRequest α} {call : GuardedCall α} (h : p.phase = .calling v call) :
    p.met d x = { x with outcome := d.reply v x.outcome } := by
  simp only [met, h]

theorem heard?_of_call?_eq_none (h : p.phase.call? = none) : p.heard? d x = none := by
  cases hphase : p.phase with
  | calling v call =>
    rw [hphase] at h
    cases h
  | _ => simp only [heard?, hphase]

theorem heard?_calling {v : VenueRequest α} {call : GuardedCall α} (h : p.phase = .calling v call) :
    p.heard? d x = some (d.heard v x.outcome) := by
  simp only [heard?, h]

end Met

variable {α : Type} [Factor α] [JsonAmount α] {d : Dialect} {p : Passage α} {x : Circumstance α}
  {xs : List (Circumstance α)}

theorem foldl_goVia_of_finished {result : Except GatewayError Unit} (h : p.phase = .finished result)
    (xs : List (Circumstance α)) :
    xs.foldl (goVia d) p = p ∧ p.heardVia d xs = [] := by
  have hcall : p.phase.call? = none := by rw [h]; rfl
  have hgo (x) : p.goVia d x = p := by rw [goVia, met_of_call?_eq_none hcall, go_of_finished h x]
  induction xs with
  | nil => exact ⟨rfl, rfl⟩
  | cons x xs ih =>
    rw [List.foldl_cons, heardVia, hgo, heard?_of_call?_eq_none hcall]
    exact ih

/-- What has been calm in the end was so before. -/
theorem calm_of_foldl (h : Calm (xs.foldl (goVia d) p).emissions) : Calm p.emissions := by
  induction xs generalizing p with
  | nil => exact h
  | cons x xs ih => exact (calm_append.mp (ih (p := p.goVia d x) h)).1

/-- Only the check of the rate asks a limiter. -/
theorem limiters_next (h : ∀ v, p.phase ≠ .limiting v) (x : Circumstance α) :
    (p.next x).2.1.registry.limiters = p.registry.limiters := by
  -- Only the check of the rate asks a limiter: recording, rejecting and waiting touch no resilience
  -- state, and neither end of an attempt looks at the limiters.
  cases hphase : p.phase with
  | limiting v => exact absurd hphase (h v)
  | checking i =>
    simp only [next, hphase, Coordinator.step]
    cases p.coordinator.check i <;> rfl
  | recording r =>
    simp only [next, hphase, Coordinator.step]
    cases p.table.insertNew? (r.toOrder x.clock.epoch) <;> rfl
  | attempting v call =>
    rw [next_attempting hphase, Coordinator.afterAttempt_registry]
    exact p.registry.limiters_startAttempt call x.clock x.noise
  | calling v call =>
    rw [next_calling hphase, Coordinator.afterAttempt_registry]
    exact p.registry.limiters_endAttempt call x.clock x.noise x.outcome
  | waiting v call millis => rw [next_waiting hphase]
  | rejecting r e =>
    obtain ⟨out, hnext⟩ := next_rejecting hphase x
    rw [hnext]
  | finished result => rw [next_finished hphase]

theorem checkRate_ok_of_calm {v : VenueRequest α} (h : p.phase = .limiting v)
    (hcalm : Calm (p.next x).2.2) : (p.registry.checkRate v.service x.clock.elapsed).1 = .ok () := by
  rw [next_limiting_emissions h, calm_observe] at hcalm
  exact Limiter.check_ok_of_calm hcalm

end Passage

namespace Coordinator

variable {α : Type} [Factor α] [JsonAmount α] {d : Dialect} {p : Passage α} {x : Circumstance α}
  {xs : List (Circumstance α)}

theorem Timely.goVia (h : Timely d p.coordinator (x :: xs))
    (hservice : ∀ v, p.phase = .limiting v → v.service = d.service)
    (hcalm : Calm (p.goVia d x).emissions) : Timely d (p.goVia d x).coordinator xs := by
  -- The limiter is asked at one phase only, and its word then stands at the window at hand.
  by_cases hlimiting : ∃ v, p.phase = .limiting v
  · obtain ⟨v, hphase⟩ := hlimiting
    have hmet : p.met d x = x := Passage.met_of_call?_eq_none (by rw [hphase]; rfl)
    rw [Passage.goVia, hmet] at hcalm ⊢
    have hok := Passage.checkRate_ok_of_calm hphase (calm_append.mp hcalm).2
    have hnext := congrArg (fun o => o.2.1.registry) (Passage.next_limiting hphase hok)
    rw [hservice v hphase] at hok hnext
    obtain ⟨l, hl, ht⟩ := h.checkRate hok
    exact ⟨l, (congrArg (·.limiter? d.service) hnext).trans hl, ht⟩
  · rw [not_exists] at hlimiting
    exact h.tail (congrArg (Json.lookup d.service) (Passage.limiters_next hlimiting (p.met d x)))

end Coordinator

/-- A request for the venue of a dialect, which the dialect refuses or not. -/
structure VenueRequest.Judged {α : Type} (d : Dialect) (refused : Bool) (v : VenueRequest α) :
    Prop where
  venue_eq : v.venue = d.venue
  refusal : (d.refusal? v).isSome = refused

theorem VenueRequest.Judged.service_eq {α : Type} {d : Dialect} {refused : Bool}
    {v : VenueRequest α} (h : v.Judged d refused) : v.service = d.service :=
  congrArg (fun venue : Venue => venue.name ++ ".orders") h.venue_eq

/-- The id of a request's own order. -/
def VenueRequest.sent? {α : Type} : VenueRequest α → Option String
  | .send r => some r.id
  | .cancel _ | .modify .. => none

namespace InstructionPhase

variable {α : Type}

/-- The phases of a request that its dialect has words for. -/
inductive Spoken (d : Dialect) : InstructionPhase α → Prop
  | limiting (v : VenueRequest α) (hv : v.Judged d false) : Spoken d (.limiting v)
  | recording (r : OrderRequest α) (hv : (VenueRequest.send r).Judged d false) :
      Spoken d (.recording r)
  | attempting (v : VenueRequest α) (call : GuardedCall α) (hv : v.Judged d false)
      (hservice : call.service = d.service) : Spoken d (.attempting v call)
  | calling (v : VenueRequest α) (call : GuardedCall α) (hv : v.Judged d false)
      (hservice : call.service = d.service) : Spoken d (.calling v call)
  | waiting (v : VenueRequest α) (call : GuardedCall α) (millis : Nat) (hv : v.Judged d false)
      (hservice : call.service = d.service) : Spoken d (.waiting v call millis)
  | rejecting (r : OrderRequest α) (e : GatewayError) (hv : (VenueRequest.send r).Judged d false) :
      Spoken d (.rejecting r e)
  | finished (result : Except GatewayError Unit) : Spoken d (.finished result)

/-- The phases of a refused request: the order of it that is in the table, if any, and the attempts
that were begun. -/
inductive Refused (d : Dialect) : Option String → Nat → InstructionPhase α → Prop
  | limiting (v : VenueRequest α) (hv : v.Judged d true) : Refused d none 0 (.limiting v)
  | recording (r : OrderRequest α) (hv : (VenueRequest.send r).Judged d true) :
      Refused d none 0 (.recording r)
  | attempting (v : VenueRequest α) (call : GuardedCall α) (hv : v.Judged d true)
      (hservice : call.service = d.service) (hattempts : call.attempts = 0) :
      Refused d v.sent? 0 (.attempting v call)
  | calling (v : VenueRequest α) (call : GuardedCall α) (hv : v.Judged d true)
      (hservice : call.service = d.service) (hattempts : call.attempts = 1) :
      Refused d v.sent? 1 (.calling v call)
  | rejecting (r : OrderRequest α) (e : GatewayError) : Refused d (some r.id) 1 (.rejecting r e)
  | finished (k : Nat) (result : Except GatewayError Unit) (hk : k ≤ 1) :
      Refused d none k (.finished result)

variable {d : Dialect} {v : VenueRequest α} {phase : InstructionPhase α}

theorem Spoken.closing (hv : v.Judged d false) (result : Except GatewayError Unit) :
    (Passage.closing v result).Spoken d := by
  rcases Passage.closing_cases v result with h | ⟨r, e, rfl, rfl⟩
  · rw [h]
    exact .finished result
  · exact .rejecting r e hv

theorem Spoken.phaseAllowed [JsonAmount α] (hv : v.Judged d false) (c : Coordinator α) :
    (c.phaseAllowed v).Spoken d := by
  cases v with
  | send r => exact .recording r hv
  | cancel o => exact .attempting _ _ hv hv.service_eq
  | modify o quantity price => exact .attempting _ _ hv hv.service_eq

theorem Spoken.phaseAfter (hv : v.Judged d false) {call : GuardedCall α}
    (hservice : call.service = d.service) (next : NextStep Unit) :
    (Coordinator.phaseAfter v call next).Spoken d := by
  cases next with
  | invoke => exact .calling v call hv hservice
  | wait millis => exact .waiting v call millis hv hservice
  | done result => exact .closing hv result

theorem Spoken.calling_inv {call : GuardedCall α} (h : Spoken d (.calling v call)) :
    v.Judged d false ∧ call.service = d.service := by
  cases h with
  | calling _ _ hv hservice => exact ⟨hv, hservice⟩

theorem Spoken.service_eq (h : phase.Spoken d) (hphase : phase = .limiting v) :
    v.service = d.service := by
  cases h with
  | limiting w hw =>
    cases hphase
    exact hw.service_eq
  | _ => cases hphase

theorem Refused.service_eq {sending : Option String} {k : Nat} (h : phase.Refused d sending k)
    (hphase : phase = .limiting v) : v.service = d.service := by
  cases h with
  | limiting w hw =>
    cases hphase
    exact hw.service_eq
  | _ => cases hphase

theorem Refused.finished_inv {sending : Option String} {k : Nat}
    {result : Except GatewayError Unit} (h : Refused d sending k (.finished (α := α) result)) :
    sending = none ∧ k ≤ 1 := by
  cases h with
  | finished _ _ hk => exact ⟨rfl, hk⟩

theorem Refused.calling_inv {sending : Option String} {k : Nat} {call : GuardedCall α}
    (h : Refused d sending k (.calling v call)) :
    v.Judged d true ∧ call.service = d.service ∧ call.attempts = 1 ∧ k = 1 ∧ sending = v.sent? := by
  cases h with
  | calling _ _ hv hservice hattempts => exact ⟨hv, hservice, hattempts, rfl, rfl⟩

theorem Refused.phaseAllowed [JsonAmount α] (hv : v.Judged d true) (c : Coordinator α) :
    (c.phaseAllowed v).Refused d none 0 := by
  cases v with
  | send r => exact .recording r hv
  | cancel o => exact .attempting _ _ hv hv.service_eq rfl
  | modify o quantity price => exact .attempting _ _ hv hv.service_eq rfl

theorem Refused.refusal_of_mem_call? {sending : Option String} {k : Nat}
    (h : phase.Refused d sending k) (hv : v ∈ phase.call?.toList) :
    (d.refusal? v).isSome = true := by
  cases h with
  | calling w call hw hservice hattempts =>
    obtain rfl : v = w := List.mem_singleton.mp hv
    exact hw.refusal
  | _ => exact absurd hv List.not_mem_nil

/-- A refused order that could not be sent is still to be rejected. -/
theorem Refused.closing (v : VenueRequest α) (e : GatewayError) :
    (Passage.closing v (.error e)).Refused d v.sent? 1 := by
  cases v with
  | send r => exact .rejecting r e
  | cancel o => exact .finished 1 (.error e) (Nat.le_refl 1)
  | modify o quantity price => exact .finished 1 (.error e) (Nat.le_refl 1)

end InstructionPhase

namespace Coordinator

variable {α : Type} {d : Dialect} {sending sending' : Option String} {n m : Nat}
  {c c' : Coordinator α}

/-- Both breakers have heard of an attempt. -/
theorem Apart.hear (h : Apart d sending n c c') {b b' : Breaker} (hb : b.Behind m b')
    {table table' : OrderTable α} (htable : table.Apart d sending' table')
    (letters letters' : DeadLetters) :
    Apart d sending' m
      { c with
        registry := { c.registry.setBreaker d.service b with deadLetters := letters }, table }
      { c' with
        registry := { c'.registry.setBreaker d.service b' with deadLetters := letters' }
        table := table' } where
  venues_eq := h.venues_eq
  known := h.known
  retry_eq := h.retry_eq
  -- Setting a breaker and then looking it up gives it back, so the fields of the two coordinators
  -- agree with `hb` after the registry lemma.
  breaker := by
    have hset := c.registry.breaker_setBreaker d.service b
    have hset' := c'.registry.breaker_setBreaker d.service b'
    change ((c.registry.setBreaker d.service b).breaker d.service).Behind m
      ((c'.registry.setBreaker d.service b').breaker d.service)
    rw [hset, hset']
    exact hb
  limiter := h.limiter
  table := htable

/-- One breaker alone has heard of an attempt. -/
theorem Apart.hear_alone (h : Apart d sending n c c') {b : Breaker}
    (hb : b.Behind m (c'.registry.breaker d.service)) {table : OrderTable α}
    (htable : table.Apart d sending' c'.table) (letters : DeadLetters) :
    Apart d sending' m
      { c with
        registry := { c.registry.setBreaker d.service b with deadLetters := letters }, table }
      c' where
  venues_eq := h.venues_eq
  known := h.known
  retry_eq := h.retry_eq
  breaker := by
    have hset := c.registry.breaker_setBreaker d.service b
    change ((c.registry.setBreaker d.service b).breaker d.service).Behind m _
    rw [hset]
    exact hb
  limiter := h.limiter
  table := htable

theorem Apart.enter {table table' : OrderTable α} (h : Apart d sending n c c')
    (htable : table.Apart d sending' table') :
    Apart d sending' n { c with table } { c' with table := table' } :=
  ⟨h.venues_eq, h.known, h.retry_eq, h.breaker, h.limiter, htable⟩

theorem Apart.enter_alone {table : OrderTable α} (h : Apart d sending n c c')
    (htable : table.Apart d sending' c'.table) : Apart d sending' n { c with table } c' :=
  ⟨h.venues_eq, h.known, h.retry_eq, h.breaker, h.limiter, htable⟩

end Coordinator

namespace Passage

variable {α : Type} [Factor α] [JsonAmount α] {d : Dialect} {n m : Nat} {p p' : Passage α}
  {x : Circumstance α} {xs ys : List (Circumstance α)} {v : VenueRequest α} {call : GuardedCall α}

/-- An instruction that is not refused has come equally far in two runs. -/
structure Paced (d : Dialect) (n : Nat) (p p' : Passage α) : Prop where
  phase_eq : p'.phase = p.phase
  calls_eq : p'.calls = p.calls
  attempts_eq : p'.attempts = p.attempts
  spoken : p.phase.Spoken d
  apart : p.coordinator.Apart d none n p'.coordinator

theorem Paced.go (h : Paced d n p p') {phase : InstructionPhase α} {c c' : Coordinator α}
    {out out' : List (Emission α)} (hnext : p.next x = (phase, c, out))
    (hnext' : p'.next x = (phase, c', out')) (hspoken : phase.Spoken d)
    (hapart : c.Apart d none m c') : Paced d m (p.go x) (p'.go x) where
  phase_eq := by simp only [Passage.go, hnext, hnext']
  calls_eq := by simp only [Passage.go, hnext, hnext', h.calls_eq]
  attempts_eq := by simp only [Passage.go, h.attempts_eq, h.phase_eq]
  spoken := by simpa only [Passage.go, hnext] using hspoken
  apart := by simpa only [Passage.go, hnext, hnext'] using hapart

theorem Paced.go_limiting (h : Paced d n p p') (hphase : p.phase = .limiting v)
    (hv : v.Judged d false) (ht : p.coordinator.Timely d (x :: xs)) (hcalm : Calm (p.next x).2.2) :
    Paced d n (p.go x) (p'.go x) := by
  have hok := checkRate_ok_of_calm hphase hcalm
  have hnext := next_limiting hphase hok
  rw [hv.service_eq] at hok hnext
  -- The limiter that was asked less has room where the other one has.
  obtain ⟨hok', hapart⟩ := h.apart.checkRate ht hok
  have hnext' := next_limiting (h.phase_eq.trans hphase) (hv.service_eq.symm ▸ hok')
  rw [hv.service_eq, h.apart.phaseAllowed_eq] at hnext'
  exact h.go hnext hnext' (.phaseAllowed hv _) hapart

theorem Paced.go_recording (h : Paced d n p p') {r : OrderRequest α}
    (hphase : p.phase = .recording r) (hv : (VenueRequest.send r).Judged d false) :
    Paced d n (p.go x) (p'.go x) := by
  have hid : d.barsId r.id = false := d.isSome_refusal?_send r ▸ hv.refusal
  have hinsert := h.apart.table.insertNew? (o := r.toOrder x.clock.epoch) hid
  rcases hinsert with ⟨hnone, hnone'⟩ | ⟨u, u', hu, hu', htable⟩
  · exact h.go (next_recording_of_none hphase hnone)
      (next_recording_of_none (h.phase_eq.trans hphase) hnone') (.finished _) h.apart
  · obtain ⟨out, hnext⟩ := next_recording_of_some hphase hu
    obtain ⟨out', hnext'⟩ := next_recording_of_some (h.phase_eq.trans hphase) hu'
    rw [h.apart.begin_eq] at hnext'
    exact h.go hnext hnext' (.attempting _ _ hv hv.service_eq) (h.apart.enter htable)

theorem Paced.go_attempting (h : Paced d n p p') (hphase : p.phase = .attempting v call)
    (hv : v.Judged d false) (hservice : call.service = d.service) :
    Paced d n (p.go x) (p'.go x) := by
  have hnext := next_attempting_of_ne_open hphase (hservice ▸ h.apart.breaker.ne_open) x
  have hnext' := next_attempting_of_ne_open (h.phase_eq.trans hphase)
    (hservice ▸ h.apart.breaker.ne_open') x
  rw [hservice] at hnext hnext'
  exact h.go hnext hnext' (.calling _ _ hv hservice)
    (h.apart.hear h.apart.breaker h.apart.table p.registry.deadLetters p'.registry.deadLetters)

theorem Paced.go_calling (h : Paced d n p p') (hphase : p.phase = .calling v call)
    (hv : v.Judged d false) (hservice : call.service = d.service) (hcalm : Calm (p.next x).2.2) :
    Paced d (if x.outcome.isOk then 0 else n) (p.go x) (p'.go x) := by
  -- What comes next is settled by the call and the answer, which are the same in both runs.
  obtain ⟨next, call', hcall, -, hnexts⟩ := exists_next_calling_eq call v x
  obtain ⟨letters, out, hnext⟩ := hnexts p hphase
  obtain ⟨letters', out', hnext'⟩ := hnexts p' (h.phase_eq.trans hphase)
  rw [hservice] at hnext hnext'
  rw [hnext] at hcalm
  have hb := h.apart.breaker.report x.outcome (calm_observe.mp (calm_append.mp hcalm).1)
  have htable : (Coordinator.tableAfter p.table v call' next).Apart d none
      (Coordinator.tableAfter p'.table v call' next) := by
    cases next with
    | invoke => exact h.apart.table
    | wait millis => exact h.apart.table
    | done result => exact h.apart.table.addRetries _ _
  exact h.go hnext hnext' (.phaseAfter hv (hcall.trans hservice) next)
    (h.apart.hear hb htable letters letters')

theorem Paced.go_rejecting (h : Paced d n p p') {r : OrderRequest α} {e : GatewayError}
    (hphase : p.phase = .rejecting r e) (hv : (VenueRequest.send r).Judged d false) :
    Paced d n (p.go x) (p'.go x) := by
  have hid : d.barsId r.id = false := d.isSome_refusal?_send r ▸ hv.refusal
  obtain ⟨out, hnext⟩ := next_rejecting hphase x
  obtain ⟨out', hnext'⟩ := next_rejecting (h.phase_eq.trans hphase) x
  exact h.go hnext hnext' (.finished _)
    (h.apart.enter (h.apart.table.receive (e := r.rejection e x.clock.epoch) hid _))

/-- A step without an answer. -/
theorem Paced.go_silent (h : Paced d n p p') (hcall : p.phase.call? = none)
    (ht : p.coordinator.Timely d (x :: xs)) (hcalm : Calm (p.next x).2.2) :
    Paced d n (p.go x) (p'.go x) := by
  have hspoken := h.spoken
  -- The phases that make no call: the two runs take the same step and nobody hears anything.
  generalize hphase : p.phase = phase at hspoken hcall
  cases hspoken with
  | limiting v hv => exact h.go_limiting hphase hv ht hcalm
  | recording r hv => exact h.go_recording hphase hv
  | attempting v call hv hservice => exact h.go_attempting hphase hv hservice
  | calling v call hv hservice => cases hcall
  | waiting v call millis hv hservice =>
    exact h.go (next_waiting hphase x) (next_waiting (h.phase_eq.trans hphase) x)
      (.attempting v call hv hservice) h.apart
  | rejecting r e hv => exact h.go_rejecting hphase hv
  | finished result =>
    rw [go_of_finished hphase, go_of_finished (h.phase_eq.trans hphase)]
    exact h

/-- The two runs stay in step, whatever the venue answers. -/
theorem Paced.goVia (h : Paced d n p p') (ht : p.coordinator.Timely d (x :: xs))
    (hcalm : Calm (p.goVia d x).emissions) :
    Paced d ((p.heard? d x).toList.foldl Heard.owed n) (p.goVia d x) (p'.goVia d x) := by
  have hmet : p'.met d x = p.met d x := by simp only [met, h.phase_eq]
  have hstep := (calm_append.mp hcalm).2
  rw [Passage.goVia, Passage.goVia, hmet]
  -- A passage is heard of only where a call of it ends, so the case of the call is the only one in
  -- which `n` moves.
  cases hphase : p.phase with
  | calling v call =>
    have hspoken := h.spoken
    rw [hphase] at hspoken
    obtain ⟨hv, hservice⟩ := hspoken.calling_inv
    have hrefusal : d.refusal? v = none := by simpa using hv.refusal
    have hgo := h.go_calling hphase hv hservice hstep
    have howed : [d.heard v x.outcome].foldl Heard.owed n =
        if (p.met d x).outcome.isOk then 0 else n := by
      rw [met_calling hphase]
      cases hok : x.outcome.isOk <;> simp [Dialect.heard, Dialect.reply, hrefusal, hok, Heard.owed]
    rw [heard?_calling hphase]
    exact howed ▸ hgo
  | _ =>
    have hcall : p.phase.call? = none := by rw [hphase]; rfl
    rw [met_of_call?_eq_none hcall] at hstep ⊢
    rw [heard?_of_call?_eq_none hcall]
    exact h.go_silent hcall ht hstep

/-- A refused instruction in a run beside one without it. -/
structure Alone (d : Dialect) (n : Nat) (p : Passage α) (c' : Coordinator α) : Prop where
  refused : ∃ sending, p.phase.Refused d sending p.attempts ∧ p.coordinator.Apart d sending n c'
  calls : ∀ v ∈ p.calls, (d.refusal? v).isSome = true

variable {c' : Coordinator α} {sending : Option String}

theorem Alone.go (h : Alone d n p c') {phase : InstructionPhase α} {c : Coordinator α} {k : Nat}
    {out : List (Emission α)} (hnext : p.next x = (phase, c, out))
    (hattempts : (p.go x).attempts = k) (hphase : phase.Refused d sending k)
    (hapart : c.Apart d sending m c') : Alone d m (p.go x) c' where
  refused := by
    refine ⟨sending, ?_, ?_⟩
    · rwa [hattempts, show (p.go x).phase = phase from congrArg (·.1) hnext]
    · rwa [show (p.go x).coordinator = c from congrArg (·.2.1) hnext]
  calls v hv := by
    rw [calls_go, hnext, List.mem_append] at hv
    exact hv.elim (h.calls v) hphase.refusal_of_mem_call?

theorem Alone.go_limiting (h : Alone d n p c') (hphase : p.phase = .limiting v)
    (hv : v.Judged d true) (hattempts : p.attempts = 0) (hapart : p.coordinator.Apart d none n c')
    (ht : p.coordinator.Timely d (x :: xs)) (hcalm : Calm (p.next x).2.2) :
    Alone d n (p.go x) c' := by
  have hok := checkRate_ok_of_calm hphase hcalm
  have hnext := next_limiting hphase hok
  rw [hv.service_eq] at hok hnext
  have hgo : (p.go x).attempts = 0 := by
    rw [attempts_go, hphase, hattempts]
    rfl
  exact h.go hnext hgo (.phaseAllowed hv p.coordinator) (hapart.checkRate_alone ht hok)

theorem Alone.go_recording (h : Alone d n p c') {r : OrderRequest α}
    (hphase : p.phase = .recording r) (hv : (VenueRequest.send r).Judged d true)
    (hattempts : p.attempts = 0) (hapart : p.coordinator.Apart d none n c') :
    Alone d n (p.go x) c' := by
  have hid : d.barsId r.id = true := d.isSome_refusal?_send r ▸ hv.refusal
  have hgo : (p.go x).attempts = 0 := by
    rw [attempts_go, hphase, hattempts]
    rfl
  -- An id that is in the table already ends the passage; a fresh one is inserted in one table only,
  -- which the refused id allows.
  cases hinsert : p.table.insertNew? (r.toOrder x.clock.epoch) with
  | none =>
    exact h.go (next_recording_of_none hphase hinsert) hgo (.finished 0 _ (Nat.zero_le 1)) hapart
  | some u =>
    obtain ⟨out, hnext⟩ := next_recording_of_some hphase hinsert
    have htable := hapart.table.insert_alone (o := r.toOrder x.clock.epoch) hid hinsert
    have hbegun : (p.coordinator.begin (.send r)).Refused d (some r.id) 0 :=
      .attempting (.send r) _ hv hv.service_eq rfl
    exact h.go hnext hgo hbegun (hapart.enter_alone htable)

theorem Alone.go_attempting (h : Alone d n p c') (hphase : p.phase = .attempting v call)
    (hv : v.Judged d true) (hservice : call.service = d.service) (hcall : call.attempts = 0)
    (hattempts : p.attempts = 0) (hapart : p.coordinator.Apart d v.sent? n c') :
    Alone d n (p.go x) c' := by
  have hnext := next_attempting_of_ne_open hphase (hservice ▸ hapart.breaker.ne_open) x
  rw [hservice] at hnext
  have hgo : (p.go x).attempts = 1 := by
    rw [attempts_go, hphase, hattempts]
    rfl
  have hbegun : call.begun.attempts = 1 := congrArg (· + 1) hcall
  exact h.go hnext hgo (.calling v call.begun hv hservice hbegun)
    (hapart.hear_alone hapart.breaker hapart.table p.registry.deadLetters)

/-- A refusal ends the call: it is a failure to the breaker, and for good. -/
theorem Alone.go_calling (h : Alone d n p c') (hphase : p.phase = .calling v call)
    (hservice : call.service = d.service) (hcall : call.attempts = 1)
    (hattempts : p.attempts = 1) (hapart : p.coordinator.Apart d v.sent? n c') {e : GatewayError}
    (he : d.refusal? v = some e) (houtcome : x.outcome = .error e) (hcalm : Calm (p.next x).2.2) :
    Alone d (n + 1) (p.go x) c' := by
  obtain ⟨next, call', -, hfinal, hnexts⟩ := exists_next_calling_eq call v x
  obtain ⟨letters, out, hnext⟩ := hnexts p hphase
  obtain ⟨hdone, hsame⟩ := hfinal (houtcome ▸ Dialect.isFinal_refusal he)
  rw [hdone, hsame, hservice, houtcome] at hnext
  rw [hnext] at hcalm
  have hb := hapart.breaker.fail_alone (calm_observe.mp (calm_append.mp hcalm).1)
  have htable : (p.table.addRetries v.id (call.attempts - 1)).Apart d v.sent? c'.table := by
    -- There was one attempt, so no retries are counted.
    rw [hcall]
    exact hapart.table.congr_left (OrderTable.find?_addRetries_zero p.table v.id)
  have hgo : (p.go x).attempts = 1 := by
    rw [attempts_go, hphase, hattempts]
    rfl
  exact h.go hnext hgo (.closing v e) (hapart.hear_alone hb htable letters)

theorem Alone.go_rejecting (h : Alone d n p c') {r : OrderRequest α} {e : GatewayError}
    (hphase : p.phase = .rejecting r e) (hattempts : p.attempts = 1)
    (hapart : p.coordinator.Apart d (some r.id) n c') : Alone d n (p.go x) c' := by
  obtain ⟨out, hnext⟩ := next_rejecting hphase x
  have hgo : (p.go x).attempts = 1 := by
    rw [attempts_go, hphase, hattempts]
    rfl
  exact h.go hnext hgo (.finished 1 _ (Nat.le_refl 1))
    (hapart.enter_alone (hapart.table.reject_alone e x.clock.epoch))

theorem Alone.go_silent (h : Alone d n p c') (hcall : p.phase.call? = none)
    (ht : p.coordinator.Timely d (x :: xs)) (hcalm : Calm (p.next x).2.2) :
    Alone d n (p.go x) c' := by
  obtain ⟨sending, hrefused, hapart⟩ := h.refused
  generalize hphase : p.phase = phase at hrefused hcall
  generalize hattempts : p.attempts = k at hrefused
  cases hrefused with
  | limiting v hv => exact h.go_limiting hphase hv hattempts hapart ht hcalm
  | recording r hv => exact h.go_recording hphase hv hattempts hapart
  | attempting v call hv hservice hcount =>
    exact h.go_attempting hphase hv hservice hcount hattempts hapart
  | calling v call hv hservice hcount => cases hcall
  | rejecting r e => exact h.go_rejecting hphase hattempts hapart
  | finished k result hk =>
    rw [go_of_finished hphase]
    exact h

/-- While the other run waits, the breaker of this one hears of a failure at most. -/
theorem Alone.goVia (h : Alone d n p c') (ht : p.coordinator.Timely d (x :: xs))
    (hcalm : Calm (p.goVia d x).emissions) :
    Alone d ((p.heard? d x).toList.foldl Heard.owed n) (p.goVia d x) c' := by
  have hstep := (calm_append.mp hcalm).2
  rw [Passage.goVia]
  cases hphase : p.phase with
  | calling v call =>
    obtain ⟨sending, hrefused, hapart⟩ := h.refused
    rw [hphase] at hrefused
    obtain ⟨hv, hservice, hcount, hattempts, rfl⟩ := hrefused.calling_inv
    obtain ⟨e, he⟩ := Option.isSome_iff_exists.mp hv.refusal
    -- The answer that the dialect gives is a refusal whatever the venue would have said, so the run
    -- that goes alone owes one failure more.
    have howed : [d.heard v x.outcome].foldl Heard.owed n = n + 1 := by
      simp [Dialect.heard, he, Heard.owed]
    have hmet : (p.met d x).outcome = .error e := by
      rw [met_calling hphase]
      simp only [Dialect.reply, he]
    rw [heard?_calling hphase]
    exact howed ▸ h.go_calling hphase hservice hcount hattempts hapart he hmet hstep
  | _ =>
    have hcall : p.phase.call? = none := by rw [hphase]; rfl
    rw [met_of_call?_eq_none hcall] at hstep ⊢
    rw [heard?_of_call?_eq_none hcall]
    exact h.go_silent hcall ht hstep

/-- Its steps bring an instruction equally far in both runs. -/
theorem Paced.run (h : Paced d n p p') (ht : p.coordinator.Timely d (xs ++ ys))
    (hcalm : Calm (xs.foldl (Passage.goVia d) p).emissions) :
    Paced d ((p.heardVia d xs).foldl Heard.owed n) (xs.foldl (Passage.goVia d) p)
        (xs.foldl (Passage.goVia d) p') ∧
      (xs.foldl (Passage.goVia d) p).coordinator.Timely d ys := by
  induction xs generalizing n p p' with
  | nil => exact ⟨h, ht⟩
  | cons x xs ih =>
    have hfirst : Calm (p.goVia d x).emissions := calm_of_foldl hcalm
    rw [heardVia, List.foldl_append]
    exact ih (h.goVia ht hfirst) (ht.goVia (fun v => h.spoken.service_eq) hfirst) hcalm

theorem Alone.run (h : Alone d n p c') (ht : p.coordinator.Timely d (xs ++ ys))
    (hcalm : Calm (xs.foldl (Passage.goVia d) p).emissions) :
    Alone d ((p.heardVia d xs).foldl Heard.owed n) (xs.foldl (Passage.goVia d) p) c' ∧
      (xs.foldl (Passage.goVia d) p).coordinator.Timely d ys := by
  induction xs generalizing n p with
  | nil => exact ⟨h, ht⟩
  | cons x xs ih =>
    have hfirst : Calm (p.goVia d x).emissions := calm_of_foldl hcalm
    obtain ⟨sending, hrefused, -⟩ := h.refused
    rw [heardVia, List.foldl_append]
    exact ih (h.goVia ht hfirst) (ht.goVia (fun v => hrefused.service_eq) hfirst) hcalm

end Passage

end VenueGateway
