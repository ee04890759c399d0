import VenueGateway.Proofs.Coordinator.Announcement
import VenueGateway.Proofs.Coordinator.Passage
import VenueGateway.Proofs.Coordinator.Rejection
import VenueGateway.Proofs.Resilience.Call

namespace VenueGateway

abbrev Coordinator.maxRetries {α : Type} (c : Coordinator α) : Nat :=
  c.registry.defaults.retry.maxRetries

/-- The table when a request goes out: a send has made its entry. -/
def VenueRequest.recorded {α : Type} [Amount α] (v : VenueRequest α) (t : OrderTable α)
    (now : Int) : OrderTable α :=
  match v with
  | .send r => ⟨t.entries ++ [.new (r.toOrder now)]⟩
  | .cancel _ | .modify .. => t

theorem VenueRequest.recorded_send_addRetries {α : Type} [Amount α] {t : OrderTable α}
    {r : OrderRequest α} (h : t.find? r.id = none) (now : Int) (n : Nat) :
    ((VenueRequest.send r).recorded t now).addRetries r.id n =
      ⟨t.entries ++ [{ OrderEntry.new (r.toOrder now) with retries := n }]⟩ := by
  have ha := OrderTable.addRetries_append (x := .new (r.toOrder now)) h n
  have hz : (OrderEntry.new (r.toOrder now)).retries + n = n := Nat.zero_add n
  rw [hz] at ha
  exact ha

/-- The guarded call for a request after some attempts and delays. -/
def Registry.guarded {α : Type} [Factor α] [JsonAmount α] (r : Registry α) (v : VenueRequest α)
    (attempts waits : Nat) : GuardedCall α :=
  { r.begin v.service v.operation (some v.payload) with
    attempts, backoff := ⟨r.defaults.retry, waits⟩ }

namespace Passage

section Phases

variable {α : Type}

/-- The phase after the guarded call: an order that was not sent is still to be rejected. -/
def closing (v : VenueRequest α) (result : Except GatewayError Unit) : InstructionPhase α :=
  match v, result with
  | .send r, .error e => .rejecting r e
  | _, _ => .finished result

theorem closing_cases (v : VenueRequest α) (result : Except GatewayError Unit) :
    closing v result = .finished result ∨ ∃ r e, v = .send r ∧ result = .error e := by
  cases v with
  | send r =>
    cases result with
    | ok u => exact Or.inl rfl
    | error e => exact Or.inr ⟨r, e, rfl, rfl⟩
  | cancel o => exact Or.inl rfl
  | modify o quantity price => exact Or.inl rfl

theorem afterAttempt_done (c : Coordinator α) (v : VenueRequest α)
    (result : Except GatewayError Unit) (registry : Registry α) (call : GuardedCall α)
    (seen : List Observation) :
    ∃ os : List Observation, c.afterAttempt v (.done result, registry, call, seen) =
      (closing v result,
        { c with table := c.table.addRetries v.id (call.attempts - 1), registry },
        os.map .observe) := by
  refine ⟨seen ++ [.orderRequest v.venue.name v.operation (if result.isOk then "ok" else "error")],
    ?_⟩
  rw [List.map_append]
  cases v <;> cases result <;> rfl

end Phases

variable {α : Type} [Factor α] {c : Coordinator α} {v : VenueRequest α} {p : Passage α}

/-- A request whose attempts are not over: all that has changed is its own entry, if it is a send,
and the breakers and limiters. -/
structure Trying (c : Coordinator α) (v : VenueRequest α) (p : Passage α) : Prop where
  table : ∃ now, p.table = v.recorded c.table now
  venues : p.coordinator.venues = c.venues
  registry : ∃ breakers limiters, p.registry = { c.registry with breakers, limiters }
  published : p.published = []
  calls : p.calls = List.replicate p.attempts v

/-- What a request has done to the orders when it is over, and what was published of it. -/
inductive Outcome (c : Coordinator α) : VenueRequest α → Except GatewayError Unit → Passage α → Prop
  | placed (r : OrderRequest α) (opened : Int) (p : Passage α)
      (table : p.table =
        ⟨c.table.entries ++ [{ OrderEntry.new (r.toOrder opened) with retries := p.attempts - 1 }]⟩)
      (published : p.published = []) : Outcome c (.send r) (.ok ()) p
  | rejected (r : OrderRequest α) (e : GatewayError) (opened closed : Int) (p : Passage α)
      (table : p.table = ⟨c.table.entries ++ [OrderEntry.touch
        { OrderEntry.new (r.toOrder opened) with
          state := .rejected
          reason := some e.text
          retries := p.attempts - 1 } closed]⟩)
      (published : p.published = [.order (r.rejection e closed)]) :
      Outcome c (.send r) (.error e) p
  | changed (v : VenueRequest α) (result : Except GatewayError Unit) (p : Passage α)
      (hv : ∀ r, v ≠ .send r) (ids : p.table.ids = c.table.ids)
      (table : ∀ id, p.table.find? id = (c.table.find? id).map fun entry =>
        if id = v.id then { entry with retries := entry.retries + (p.attempts - 1) } else entry)
      (published : p.published = []) : Outcome c v result p

theorem Outcome.of_addRetries {result : Except GatewayError Unit} (hv : ∀ r, v ≠ .send r)
    (h : p.table = c.table.addRetries v.id (p.attempts - 1)) (hpublished : p.published = []) :
    Outcome c v result p := by
  refine .changed v result p hv ?_ (fun id => ?_) hpublished
  · rw [h, OrderTable.addRetries_ids]
  · rw [h, OrderTable.find?_addRetries]

variable [JsonAmount α]

/-- What the guarded call of a request has done when it is over. Each attempt has called the venue,
but for a last one that the breaker has refused; and a failure has become one dead letter. -/
structure Called (c : Coordinator α) (v : VenueRequest α) (result : Except GatewayError Unit)
    (p : Passage α) : Prop where
  venues : p.coordinator.venues = c.venues
  registry : p.registry =
    { c.registry with
      breakers := p.registry.breakers
      limiters := p.registry.limiters
      deadLetters := p.registry.deadLetters }
  deadLetters : match result with
    | .ok _ => p.registry.deadLetters = c.registry.deadLetters
    | .error e => ∃ now, p.registry.deadLetters =
        (c.registry.deadLetters.push v.service v.operation (some v.payload) e p.attempts now).2.1
  attempts_pos : 0 < p.attempts
  attempts_le : p.attempts ≤ c.maxRetries + 1
  calls : p.calls = List.replicate p.attempts v ∨
    result.isOk = false ∧ p.calls = List.replicate (p.attempts - 1) v

/-- The instruction is over but for the rejection of an order that could not be sent. -/
structure Closed (c : Coordinator α) (v : VenueRequest α) (result : Except GatewayError Unit)
    (p : Passage α) : Prop where
  phase : p.phase = closing v result
  called : Called c v result p
  table : ∃ now, p.table = (v.recorded c.table now).addRetries v.id (p.attempts - 1)
  published : p.published = []

/-- An instruction that was let through, with a bound on the steps that it still takes. -/
inductive Stage (c : Coordinator α) (v : VenueRequest α) : Nat → Passage α → Prop
  | recording (r : OrderRequest α) (limiters : List (String × Limiter)) (os : List Observation)
      (n : Nat) (hv : v = .send r) (hn : 3 * c.maxRetries + 4 ≤ n) :
      Stage c v n ⟨.recording r, { c with registry := { c.registry with limiters } },
        os.map .observe, [], 0⟩
  | attempting (k n : Nat) (p : Passage α) (h : Trying c v p)
      (hphase : p.phase = .attempting v (c.registry.guarded v k k)) (hattempts : p.attempts = k)
      (hk : k ≤ c.maxRetries) (hn : 3 * (c.maxRetries - k) + 3 ≤ n) : Stage c v n p
  | calling (k n : Nat) (p : Passage α) (h : Trying c v p)
      (hphase : p.phase = .calling v (c.registry.guarded v (k + 1) k))
      (hattempts : p.attempts = k + 1) (hk : k ≤ c.maxRetries)
      (hn : 3 * (c.maxRetries - k) + 2 ≤ n) : Stage c v n p
  | waiting (k n millis : Nat) (p : Passage α) (h : Trying c v p)
      (hphase : p.phase = .waiting v (c.registry.guarded v k k) millis) (hattempts : p.attempts = k)
      (hk : k ≤ c.maxRetries) (hn : 3 * (c.maxRetries - k) + 4 ≤ n) : Stage c v n p
  | closed (result : Except GatewayError Unit) (n : Nat) (p : Passage α)
      (h : Closed c v result p) (hn : 1 ≤ n) : Stage c v n p
  | finished (result : Except GatewayError Unit) (n : Nat) (p : Passage α)
      (hphase : p.phase = .finished result) (h : Called c v result p)
      (ho : Outcome c v result p) : Stage c v n p

/-- The last attempt is over. -/
theorem Trying.closed (h : Trying c v p) {x : Circumstance α} {result : Except GatewayError Unit}
    {registry : Registry α} {k : Nat} {seen : List Observation}
    (hnext : p.next x = p.coordinator.afterAttempt v
      (.done result, registry, c.registry.guarded v (k + 1) k, seen))
    (hr : Registry.Concluded p.registry (c.registry.guarded v (k + 1) k) result registry)
    (hattempts : (p.go x).attempts = k + 1) (hk : k ≤ c.maxRetries)
    (hcalls : p.calls = List.replicate (k + 1) v ∨
      result.isOk = false ∧ p.calls = List.replicate k v) : Closed c v result (p.go x) := by
  obtain ⟨⟨now, htable⟩, hvenues, ⟨breakers, limiters, hregistry⟩, hpublished, -⟩ := h
  obtain ⟨os, hdone⟩ := afterAttempt_done p.coordinator v result registry
    (c.registry.guarded v (k + 1) k) seen
  rw [hdone] at hnext
  -- The last step of a call, field by field: the registry has heard the result, and the table has
  -- counted the retries.
  have hphase : (p.go x).phase = closing v result := congrArg (·.1) hnext
  have hcoord : (p.go x).coordinator =
      { p.coordinator with table := p.table.addRetries v.id k, registry } :=
    congrArg (·.2.1) hnext
  have hreg : (p.go x).registry = registry := congrArg (·.registry) hcoord
  have hcall : (p.go x).calls = p.calls := by
    have hnone : (closing v result).call? = none := by cases v <;> cases result <;> rfl
    rw [calls_go, hnext, hnone]
    exact List.append_nil _
  have hpub : (p.go x).published = [] := by
    rw [published_go, hpublished, hnext]
    exact Emission.published?_observe os
  rw [hregistry] at hr
  refine ⟨hphase, ⟨?_, ?_, ?_, ?_, ?_, ?_⟩, ⟨now, ?_⟩, hpub⟩
  · exact (congrArg (·.venues) hcoord).trans hvenues
  · rw [hreg]
    cases hr <;> rfl
  · rw [hattempts, hreg]
    cases hr with
    | succeeded b breakers => rfl
    | failed e breakers now => exact ⟨now, rfl⟩
  · omega
  · omega
  · rw [hattempts, hcall]
    exact hcalls
  · rw [hattempts, Nat.add_sub_cancel, ← htable]
    exact congrArg (·.table) hcoord

/-- A step between attempts, or the start of one. -/
theorem Trying.go (h : Trying c v p) {x : Circumstance α} {phase : InstructionPhase α}
    {breakers : List (String × Breaker)} (os : List Observation)
    (hnext : p.next x = (phase,
      { p.coordinator with registry := { p.registry with breakers } }, os.map .observe))
    (hcalls : p.calls ++ phase.call?.toList = List.replicate (p.go x).attempts v) :
    Trying c v (p.go x) := by
  obtain ⟨⟨now, htable⟩, hvenues, ⟨_, limiters, hregistry⟩, hpublished, -⟩ := h
  have hcoord : (p.go x).coordinator =
      { p.coordinator with registry := { p.registry with breakers } } := congrArg (·.2.1) hnext
  refine ⟨⟨now, ?_⟩, ?_, ⟨breakers, limiters, ?_⟩, ?_, ?_⟩
  · exact (congrArg (·.table) hcoord).trans htable
  · exact (congrArg (·.venues) hcoord).trans hvenues
  · rw [hregistry] at hcoord
    exact congrArg (·.registry) hcoord
  · rw [published_go, hpublished, hnext]
    exact Emission.published?_observe os
  · rw [← hcalls, calls_go, hnext]

theorem Closed.outcome {result : Except GatewayError Unit} (h : Closed c v result p)
    (hf : ∀ r, v = .send r → c.table.find? r.id = none) (hphase : p.phase = .finished result) :
    Outcome c v result p := by
  obtain ⟨hclosing, -, ⟨now, htable⟩, hpublished⟩ := h
  cases v with
  | send r =>
    cases result with
    | ok u =>
      rw [VenueRequest.id, VenueRequest.recorded_send_addRetries (hf r rfl)] at htable
      exact .placed r now p htable hpublished
    | error e =>
      rw [hphase] at hclosing
      cases hclosing
  | cancel o => exact .of_addRetries (fun r h => by cases h) htable hpublished
  | modify o quantity price => exact .of_addRetries (fun r h => by cases h) htable hpublished

namespace Stage

variable {k n : Nat}

/-- Requests that need no entry of their own go straight on to their calls. -/
theorem begin_of_ne_send (hv : ∀ r, v ≠ .send r) (limiters : List (String × Limiter))
    (os : List Observation) (hn : 3 * c.maxRetries + 3 ≤ n) :
    Stage c v n ⟨Coordinator.begin { c with registry := { c.registry with limiters } } v,
      { c with registry := { c.registry with limiters } }, os.map .observe, [], 0⟩ := by
  have hrecorded : c.table = v.recorded c.table 0 := by
    cases v with
    | send r => exact absurd rfl (hv r)
    | cancel o => rfl
    | modify o quantity price => rfl
  exact .attempting 0 n _ ⟨⟨0, hrecorded⟩, rfl, ⟨_, limiters, rfl⟩,
    Emission.published?_observe os, rfl⟩ rfl rfl (Nat.zero_le _) hn

theorem go_recording {r : OrderRequest α} {limiters : List (String × Limiter)}
    {os : List Observation} (hf : c.table.find? r.id = none)
    (hn : 3 * c.maxRetries + 3 ≤ n) (x : Circumstance α) :
    Stage c (.send r) n (go ⟨.recording r, { c with registry := { c.registry with limiters } },
      os.map .observe, [], 0⟩ x) := by
  have hins : c.table.insertNew? (r.toOrder x.clock.epoch) =
      some ((VenueRequest.send r).recorded c.table x.clock.epoch) :=
    OrderTable.insertNew?_of_find? hf
  simp only [go, next, Coordinator.step, hins]
  refine .attempting 0 n _ ⟨⟨_, rfl⟩, rfl, ⟨_, limiters, rfl⟩, ?_, rfl⟩ rfl rfl (Nat.zero_le _) hn
  rw [published, List.filterMap_append, Emission.published?_observe]
  rfl

theorem go_attempting (h : Trying c v p)
    (hphase : p.phase = .attempting v (c.registry.guarded v k k)) (hattempts : p.attempts = k)
    (hk : k ≤ c.maxRetries) (hn : 3 * (c.maxRetries - k) + 2 ≤ n) (x : Circumstance α) :
    Stage c v n (p.go x) := by
  have ha : (p.go x).attempts = k + 1 := by rw [attempts_go, hphase, hattempts]; rfl
  have hcalls : p.calls = List.replicate k v := by rw [h.calls, hattempts]
  have hstart := p.registry.startAttempt_started (β := Unit) (c.registry.guarded v k k) x.clock
    x.noise
  have hnext := next_attempting hphase x
  generalize p.registry.startAttempt (c.registry.guarded v k k) x.clock x.noise = o at hstart hnext
  obtain ⟨next, registry, call, seen⟩ := o
  cases hstart with
  | invoked breakers =>
    refine .calling k n _ (h.go seen hnext ?_) (congrArg (·.1) hnext) ha hk hn
    rw [ha, hcalls, List.replicate_succ']
    rfl
  | refused e _ hr =>
    -- The last attempt has begun, but the venue was not called for it.
    exact .closed (.error e) n _ (h.closed hnext hr ha hk (Or.inr ⟨rfl, hcalls⟩)) (by omega)

theorem go_calling (h : Trying c v p)
    (hphase : p.phase = .calling v (c.registry.guarded v (k + 1) k))
    (hattempts : p.attempts = k + 1) (hk : k ≤ c.maxRetries)
    (hn : 3 * (c.maxRetries - k) + 1 ≤ n) (x : Circumstance α) :
    Stage c v n (p.go x) := by
  have ha : (p.go x).attempts = k + 1 := by rw [attempts_go, hphase, hattempts]; rfl
  have hcalls : p.calls = List.replicate (k + 1) v := by rw [h.calls, hattempts]
  have hend := p.registry.endAttempt_ended (c.registry.guarded v (k + 1) k) x.clock x.noise
    x.outcome
  have hnext := next_calling hphase x
  generalize p.registry.endAttempt (c.registry.guarded v (k + 1) k) x.clock x.noise x.outcome = o
    at hend hnext
  obtain ⟨next, registry, call, seen⟩ := o
  -- The answer ends the call, or a delay begins, and one retry less is left.
  cases hend with
  | concluded result _ hr _ =>
    exact .closed result n _ (h.closed hnext hr ha hk (Or.inl hcalls)) (by omega)
  | again breakers millis _ hlt =>
    have hlt : k < c.maxRetries := hlt
    refine .waiting (k + 1) n millis _ (h.go seen hnext ?_) (congrArg (·.1) hnext) ha hlt (by omega)
    rw [ha, hcalls]
    exact List.append_nil _

theorem go_waiting {millis : Nat} (h : Trying c v p)
    (hphase : p.phase = .waiting v (c.registry.guarded v k k) millis) (hattempts : p.attempts = k)
    (hk : k ≤ c.maxRetries) (hn : 3 * (c.maxRetries - k) + 3 ≤ n) (x : Circumstance α) :
    Stage c v n (p.go x) := by
  have ha : (p.go x).attempts = k := by rw [attempts_go, hphase, hattempts]; rfl
  have hnext := next_waiting hphase x
  refine .attempting k n _ (h.go [] hnext ?_) (congrArg (·.1) hnext) ha hk hn
  rw [ha, h.calls, hattempts]
  exact List.append_nil _

/-- An order that could not be sent is rejected, and the rejection published. -/
theorem go_rejecting {r : OrderRequest α} {e : GatewayError}
    (h : Closed c (.send r) (.error e) p) (hf : c.table.find? r.id = none) (x : Circumstance α) :
    Stage c (.send r) n (p.go x) := by
  obtain ⟨phase, coordinator, emissions, calls, attempts⟩ := p
  obtain ⟨hphase, hcalled, ⟨now, htable⟩, hpublished⟩ := h
  obtain rfl : phase = .rejecting r e := hphase
  -- The order stands last in the table, where it was put, so that its rejection rewrites it there.
  have hsent := htable.trans (VenueRequest.recorded_send_addRetries hf now (attempts - 1))
  have hgo : go ⟨.rejecting r e, coordinator, emissions, calls, attempts⟩ x =
      ⟨.finished (.error e),
        (coordinator.receive (r.rejection e x.clock.epoch) x.clock.epoch).2.1,
        emissions ++ (coordinator.receive (r.rejection e x.clock.epoch) x.clock.epoch).2.2,
        calls, attempts⟩ := by
    simp only [go, next, Coordinator.step, InstructionPhase.call?, InstructionPhase.isAttempting,
      Option.toList_none, List.append_nil, Bool.false_eq_true, if_false, Nat.add_zero]
  rw [hgo]
  refine .finished (.error e) n _ rfl
    ⟨hcalled.venues, hcalled.registry, hcalled.deadLetters, hcalled.attempts_pos,
      hcalled.attempts_le, hcalled.calls⟩ (.rejected r e now x.clock.epoch _ ?_ ?_)
  · change (coordinator.table.receive (r.rejection e x.clock.epoch) x.clock.epoch).1 = _
    rw [show coordinator.table = _ from hsent]
    have hreceive := OrderTable.receive_append (e := r.rejection e x.clock.epoch)
      (x := { OrderEntry.new (r.toOrder now) with retries := attempts - 1 }) x.clock.epoch hf rfl
    rw [OrderEntry.receive_rejection_new] at hreceive
    exact hreceive
  · have hbefore : emissions.filterMap Emission.published? = [] := hpublished
    rw [published, List.filterMap_append, hbefore, Coordinator.receive_published]
    rfl

theorem go_closed {result : Except GatewayError Unit} (h : Closed c v result p)
    (hf : ∀ r, v = .send r → c.table.find? r.id = none) (x : Circumstance α) :
    Stage c v n (p.go x) := by
  rcases closing_cases v result with hc | ⟨r, e, rfl, rfl⟩
  · have hphase : p.phase = .finished result := h.phase.trans hc
    rw [go_of_finished hphase x]
    exact .finished result n p hphase h.called (h.outcome hf hphase)
  · exact go_rejecting h (hf r rfl) x

end Stage

/-- Each step brings the end nearer. -/
theorem Stage.go (hf : ∀ r, v = .send r → c.table.find? r.id = none) {n : Nat}
    (h : Stage c v n p) (x : Circumstance α) : Stage c v (n - 1) (p.go x) := by
  -- At every stage but the last, the step comes closer to the end.
  cases h with
  | recording r limiters os _ hv hn =>
    subst hv
    exact go_recording (hf r rfl) (by omega) x
  | attempting k _ _ h hphase hattempts hk hn =>
    exact go_attempting h hphase hattempts hk (by omega) x
  | calling k _ _ h hphase hattempts hk hn =>
    exact go_calling h hphase hattempts hk (by omega) x
  | waiting k _ millis _ h hphase hattempts hk hn =>
    exact go_waiting h hphase hattempts hk (by omega) x
  | closed result _ _ h hn => exact go_closed h hf x
  | finished result _ _ hphase h ho =>
    rw [go_of_finished hphase x]
    exact .finished result _ p hphase h ho

theorem Stage.run (hf : ∀ r, v = .send r → c.table.find? r.id = none) {n : Nat}
    (h : Stage c v n p) (xs : List (Circumstance α)) :
    Stage c v (n - xs.length) (xs.foldl Passage.go p) := by
  induction xs generalizing n p with
  | nil => exact h
  | cons x xs ih =>
    have hrun := ih (h.go hf x)
    rw [Nat.sub_sub, Nat.add_comm] at hrun
    exact hrun

/-- An instruction that is let through comes to its end. -/
theorem Stage.finish (hf : ∀ r, v = .send r → c.table.find? r.id = none) {n : Nat}
    (h : Stage c v n p) {xs : List (Circumstance α)} (hn : n ≤ xs.length) :
    ∃ result, (xs.foldl Passage.go p).phase = .finished result ∧
      Called c v result (xs.foldl Passage.go p) ∧ Outcome c v result (xs.foldl Passage.go p) := by
  have hrun := h.run hf xs
  rw [Nat.sub_eq_zero_of_le hn] at hrun
  generalize xs.foldl Passage.go p = q at hrun
  cases hrun with
  | finished result _ _ hphase h ho => exact ⟨result, hphase, h, ho⟩
  | recording | attempting | calling | waiting | closed => omega

end Passage

end VenueGateway
