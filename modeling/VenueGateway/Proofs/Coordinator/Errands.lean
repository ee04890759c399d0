import VenueGateway.Proofs.Coordinator.Attempts
import VenueGateway.Proofs.Dialect.Refusal
import VenueGateway.Proofs.Resilience.Allowance
import VenueGateway.Proofs.Resilience.Scripted

namespace VenueGateway

/-- An instruction, and what its steps meet. -/
structure Errand (α : Type) where
  instruction : Instruction α
  circumstances : List (Circumstance α)

/-- What a call is answered, and by whom. -/
inductive Heard where
  | refused
  | failed
  | succeeded
deriving DecidableEq, Repr

/-- Refusals since the last success. -/
def Heard.owed (n : Nat) : Heard → Nat
  | .refused => n + 1
  | .failed => n
  | .succeeded => 0

namespace Dialect

variable {α : Type}

/-- The service of the calls with orders. -/
def service (d : Dialect) : String := d.venue.name ++ ".orders"

/-- The gateway's answer where the venue's would be another one. -/
def reply (d : Dialect) (v : VenueRequest α) (outcome : Except GatewayError Unit) :
    Except GatewayError Unit :=
  match d.refusal? v with
  | some e => .error e
  | none => outcome

def heard (d : Dialect) (v : VenueRequest α) (outcome : Except GatewayError Unit) : Heard :=
  if (d.refusal? v).isSome then .refused else if outcome.isOk then .succeeded else .failed

/-- An instruction that the dialect refuses, if it comes so far. -/
def refuses (d : Dialect) (t : OrderTable α) : Instruction α → Bool
  | .send r => d.barsId r.id
  | .cancel _ => false
  | .modify id quantity price =>
    match t.find? id with
    | some entry => (d.refusal? (.modify entry.order quantity price)).isSome
    | none => false

end Dialect

namespace Passage

section Definitions

variable {α : Type}

def met (d : Dialect) (p : Passage α) (x : Circumstance α) : Circumstance α :=
  match p.phase with
  | .calling v _ => { x with outcome := d.reply v x.outcome }
  | _ => x

def heard? (d : Dialect) (p : Passage α) (x : Circumstance α) : Option Heard :=
  match p.phase with
  | .calling v _ => some (d.heard v x.outcome)
  | _ => none

variable [Factor α] [JsonAmount α]

/-- A step with the gateway of a venue. -/
def goVia (d : Dialect) (p : Passage α) (x : Circumstance α) : Passage α := p.go (p.met d x)

def heardVia (d : Dialect) (p : Passage α) : List (Circumstance α) → List Heard
  | [] => []
  | x :: xs => (p.heard? d x).toList ++ (p.goVia d x).heardVia d xs

end Definitions

end Passage

namespace Coordinator

variable {α : Type} [Factor α] [JsonAmount α]

def carryVia (d : Dialect) (c : Coordinator α) (e : Errand α) : Passage α :=
  e.circumstances.foldl (Passage.goVia d) { phase := .checking e.instruction, coordinator := c }

/-- The passages of errands that follow one another. -/
def carryAll (d : Dialect) (c : Coordinator α) : List (Errand α) → List (Passage α)
  | [] => []
  | e :: es => c.carryVia d e :: carryAll d (c.carryVia d e).coordinator es

def afterAll (d : Dialect) (c : Coordinator α) (es : List (Errand α)) : Coordinator α :=
  es.foldl (fun c e => (c.carryVia d e).coordinator) c

def heardAll (d : Dialect) (c : Coordinator α) : List (Errand α) → List Heard
  | [] => []
  | e :: es =>
    Passage.heardVia d { phase := .checking e.instruction, coordinator := c } e.circumstances ++
      heardAll d (c.carryVia d e).coordinator es

/-- The errands that the dialect does not refuse. -/
def unrefused (d : Dialect) (c : Coordinator α) : List (Errand α) → List (Errand α)
  | [] => []
  | e :: es =>
    let rest := unrefused d (c.carryVia d e).coordinator es
    if d.refuses c.table e.instruction then rest else e :: rest

/-- The passages of the errands that the dialect refuses, or of the others. -/
def passagesOf (d : Dialect) (refused : Bool) (c : Coordinator α) :
    List (Errand α) → List (Passage α)
  | [] => []
  | e :: es =>
    let rest := passagesOf d refused (c.carryVia d e).coordinator es
    if d.refuses c.table e.instruction = refused then c.carryVia d e :: rest else rest

end Coordinator

/-- Neither has a breaker changed its state, nor has a limiter refused a call. -/
def Observation.isCalm : Observation → Bool
  | .breakerTransition .. | .rateLimited _ => false
  | _ => true

def Calm {α : Type} (out : List (Emission α)) : Prop :=
  ∀ o ∈ out.filterMap Emission.observed?, o.isCalm = true

instance {α : Type} (out : List (Emission α)) : Decidable (Calm out) :=
  inferInstanceAs (Decidable (∀ o ∈ out.filterMap Emission.observed?, o.isCalm = true))

section Calm

variable {α : Type} {out out' : List (Emission α)}

theorem calm_append : Calm (out ++ out') ↔ Calm out ∧ Calm out' := by
  simp only [Calm, List.filterMap_append, List.mem_append, or_imp, forall_and]

theorem calm_observe {os : List Observation} :
    Calm (os.map (Emission.observe (α := α))) ↔ ∀ o ∈ os, o.isCalm = true := by
  have hall : (os.map (Emission.observe (α := α))).filterMap Emission.observed? = os := by
    induction os with
    | nil => rfl
    | cons o os ih => exact congrArg (o :: ·) ih
  rw [Calm, hall]

end Calm

namespace InstructionPhase

def isFinished {α : Type} : InstructionPhase α → Bool
  | .finished _ => true
  | _ => false

theorem exists_of_isFinished {α : Type} {phase : InstructionPhase α} (h : phase.isFinished = true) :
    ∃ result, phase = .finished result := by
  cases phase with
  | finished result => exact ⟨result, rfl⟩
  | _ => cases h

end InstructionPhase

/-- A passage that is over, and has been calm. -/
structure Passage.Smooth {α : Type} (p : Passage α) : Prop where
  finished : p.phase.isFinished = true
  calm : Calm p.emissions

instance {α : Type} (p : Passage α) : Decidable p.Smooth :=
  decidable_of_iff (p.phase.isFinished = true ∧ Calm p.emissions)
    ⟨fun h => ⟨h.1, h.2⟩, fun h => ⟨h.1, h.2⟩⟩

namespace Registry

variable {α β : Type}

theorem limiter?_setLimiter (r : Registry α) (service : String) (l : Limiter) :
    (r.setLimiter service l).limiter? service = some l :=
  Json.lookup_insertField_self service l r.limiters

variable [Factor α]

/-- How a call goes on after an answer does not depend on the registry, in which nothing but a dead
letter is written. -/
theorem exists_settle_eq (c : GuardedCall α) (noise : α) (outcome : Except GatewayError β) :
    ∃ (next : NextStep β) (call : GuardedCall α), call.service = c.service ∧
      (isFinal outcome = true → next = .done outcome ∧ call = c) ∧
      ∀ (r : Registry α) (clock : Clock), ∃ deadLetters seen,
        r.settle c clock noise outcome = (next, { r with deadLetters }, call, seen) := by
  have hconclude (result : Except GatewayError β) (r : Registry α) (clock : Clock) :
      ∃ deadLetters seen,
        r.conclude c clock result = (.done result, { r with deadLetters }, c, seen) := by
    cases result <;> exact ⟨_, _, rfl⟩
  -- An answer that is final is concluded; another one asks the delays of the call itself.
  cases hfinal : isFinal outcome with
  | true =>
    refine ⟨.done outcome, c, rfl, fun _ => ⟨rfl, rfl⟩, fun r clock => ?_⟩
    rw [settle_final r c clock noise hfinal]
    exact hconclude outcome r clock
  | false =>
    obtain ⟨e, rfl, he⟩ := exists_of_not_isFinal hfinal
    cases hnext : c.backoff.next noise with
    | mk delay backoff =>
      cases delay with
      | some millis =>
        refine ⟨.wait millis, { c with backoff }, rfl, fun h => absurd h Bool.false_ne_true,
          fun r clock => ⟨r.deadLetters, [.retried c.service], ?_⟩⟩
        simp only [settle, he, if_true, hnext]
      | none =>
        refine ⟨.done (.error (e.withContext "attempts" (Text.ofNat (backoff.attempt + 1)))), c,
          rfl, fun h => absurd h Bool.false_ne_true, fun r clock => ?_⟩
        simp only [settle, he, if_true, hnext]
        exact hconclude _ r clock

end Registry

namespace Coordinator

variable {α : Type}

/-- The phase after a rate check: an order that is sent is to be recorded. -/
def phaseAllowed [JsonAmount α] (c : Coordinator α) : VenueRequest α → InstructionPhase α
  | .send r => .recording r
  | v => c.begin v

/-- The phase after an attempt. -/
def phaseAfter (v : VenueRequest α) (call : GuardedCall α) : NextStep Unit → InstructionPhase α
  | .invoke => .calling v call
  | .wait millis => .waiting v call millis
  | .done result => Passage.closing v result

/-- The table after an attempt: a call that is over has its retries counted. -/
def tableAfter (t : OrderTable α) (v : VenueRequest α) (call : GuardedCall α) :
    NextStep Unit → OrderTable α
  | .invoke | .wait _ => t
  | .done _ => t.addRetries v.id (call.attempts - 1)

theorem afterAttempt_eq (c : Coordinator α) (v : VenueRequest α) (next : NextStep Unit)
    (registry : Registry α) (call : GuardedCall α) (seen : List Observation) :
    ∃ os : List Observation, c.afterAttempt v (next, registry, call, seen) =
      (phaseAfter v call next, { c with registry, table := tableAfter c.table v call next },
        seen.map .observe ++ os.map .observe) := by
  cases next with
  | invoke => exact ⟨[], by simp [afterAttempt, phaseAfter, tableAfter]⟩
  | wait millis => exact ⟨[], by simp [afterAttempt, phaseAfter, tableAfter]⟩
  | done result =>
    refine ⟨[.orderRequest v.venue.name v.operation (if result.isOk then "ok" else "error")], ?_⟩
    cases v <;> cases result <;> rfl

theorem afterAttempt_registry (c : Coordinator α) (v : VenueRequest α)
    (outcome : NextStep Unit × Registry α × GuardedCall α × List Observation) :
    (c.afterAttempt v outcome).2.1.registry = outcome.2.1 := by
  obtain ⟨next, registry, call, seen⟩ := outcome
  obtain ⟨os, hafter⟩ := c.afterAttempt_eq v next registry call seen
  rw [hafter]

end Coordinator

namespace Passage

variable {α : Type} [Factor α] [JsonAmount α] {p : Passage α} {v : VenueRequest α}

theorem next_limiting (h : p.phase = .limiting v) {x : Circumstance α}
    (hok : (p.registry.checkRate v.service x.clock.elapsed).1 = .ok ()) :
    p.next x =
      (p.coordinator.phaseAllowed v,
        { p.coordinator with registry := (p.registry.checkRate v.service x.clock.elapsed).2.1 },
        (p.registry.checkRate v.service x.clock.elapsed).2.2.map .observe) := by
  simp only [next, h, Coordinator.step, hok]
  cases v <;> rfl

theorem next_limiting_emissions (h : p.phase = .limiting v) (x : Circumstance α) :
    (p.next x).2.2 = (p.registry.checkRate v.service x.clock.elapsed).2.2.map .observe := by
  simp only [next, h, Coordinator.step]

theorem next_recording_of_none {r : OrderRequest α} (h : p.phase = .recording r)
    {x : Circumstance α} (hnew : p.table.insertNew? (r.toOrder x.clock.epoch) = none) :
    p.next x =
      (.finished (.error (OrderError.duplicate r.id).toGatewayError), p.coordinator, []) := by
  simp only [next, h, Coordinator.step, hnew]

theorem next_recording_of_some {r : OrderRequest α} (h : p.phase = .recording r)
    {x : Circumstance α} {table : OrderTable α}
    (hnew : p.table.insertNew? (r.toOrder x.clock.epoch) = some table) :
    ∃ out, p.next x = (p.coordinator.begin (.send r), { p.coordinator with table }, out) := by
  simp only [next, h, Coordinator.step, hnew]
  exact ⟨_, rfl⟩

/-- A breaker that is not open lets the attempt through. -/
theorem next_attempting_of_ne_open {call : GuardedCall α} (h : p.phase = .attempting v call)
    (hpass : (p.registry.breaker call.service).state ≠ .open) (x : Circumstance α) :
    p.next x =
      (.calling v call.begun,
        { p.coordinator with
          registry := p.registry.setBreaker call.service (p.registry.breaker call.service) },
        []) := by
  rw [next_attempting h, Registry.startAttempt_of_ne_open _ _ _ _ hpass]
  rfl

/-- An attempt that is answered: the breaker hears of it, and the call goes on or is over. -/
theorem exists_next_calling_eq (call : GuardedCall α) (v : VenueRequest α) (x : Circumstance α) :
    ∃ (next : NextStep Unit) (call' : GuardedCall α), call'.service = call.service ∧
      (isFinal x.outcome = true → next = .done x.outcome ∧ call' = call) ∧
      ∀ p : Passage α, p.phase = .calling v call →
        ∃ deadLetters out, p.next x =
          (Coordinator.phaseAfter v call' next,
            { p.coordinator with
              registry :=
                { p.registry.setBreaker call.service
                    ((p.registry.breaker call.service).report x.clock.elapsed x.outcome).1 with
                  deadLetters }
              table := Coordinator.tableAfter p.table v call' next },
            ((p.registry.breaker call.service).report x.clock.elapsed x.outcome).2.map .observe ++
              out) := by
  obtain ⟨next, call', hservice, hfinal, hsettle⟩ :=
    Registry.exists_settle_eq call x.noise x.outcome
  refine ⟨next, call', hservice, hfinal, fun p hphase => ?_⟩
  -- The breaker hears of the answer first, and the registry that it leaves is the one that settles
  -- it.
  set report := (p.registry.breaker call.service).report x.clock.elapsed x.outcome with hreport
  obtain ⟨deadLetters, seen, heq⟩ := hsettle (p.registry.setBreaker call.service report.1) x.clock
  have hend : p.registry.endAttempt call x.clock x.noise x.outcome =
      (next, { p.registry.setBreaker call.service report.1 with deadLetters }, call',
        report.2 ++ seen) := by
    simp only [Registry.endAttempt, ← hreport, heq]
  obtain ⟨os, hafter⟩ := p.coordinator.afterAttempt_eq v next
    { p.registry.setBreaker call.service report.1 with deadLetters } call' (report.2 ++ seen)
  refine ⟨deadLetters, seen.map .observe ++ os.map .observe, ?_⟩
  rw [next_calling hphase, hend, hafter, List.map_append, List.append_assoc]

theorem next_rejecting {r : OrderRequest α} {e : GatewayError} (h : p.phase = .rejecting r e)
    (x : Circumstance α) :
    ∃ out, p.next x =
      (.finished (.error e),
        { p.coordinator with
          table := (p.table.receive (r.rejection e x.clock.epoch) x.clock.epoch).1 }, out) := by
  simp only [next, h]
  exact ⟨_, rfl⟩

theorem next_finished {result : Except GatewayError Unit} (h : p.phase = .finished result)
    (x : Circumstance α) : p.next x = (.finished result, p.coordinator, []) := by
  simp only [next, h]
  rfl

end Passage

end VenueGateway
