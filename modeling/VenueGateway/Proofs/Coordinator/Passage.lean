import VenueGateway.Proofs.Coordinator.Invocation

namespace VenueGateway

/-- What an instruction meets at a step. -/
structure Circumstance (α : Type) where
  clock : Clock
  noise : α
  outcome : Except GatewayError Unit

/-- An instruction under way, with all that it has brought about. -/
structure Passage (α : Type) where
  phase : InstructionPhase α
  coordinator : Coordinator α
  emissions : List (Emission α) := []
  calls : List (VenueRequest α) := []
  /-- How many attempts were begun, also those that the breaker refused. -/
  attempts : Nat := 0

def InstructionPhase.isAttempting {α : Type} : InstructionPhase α → Bool
  | .attempting .. => true
  | _ => false

namespace Passage

section Definitions

variable {α : Type}

abbrev table (p : Passage α) : OrderTable α := p.coordinator.table

abbrev registry (p : Passage α) : Registry α := p.coordinator.registry

def published (p : Passage α) : List (Record α) := p.emissions.filterMap Emission.published?

variable [Factor α] [JsonAmount α]

/-- Delays pass, and venues answer. -/
def next (p : Passage α) (x : Circumstance α) :
    InstructionPhase α × Coordinator α × List (Emission α) :=
  match p.phase with
  | .calling .. => p.coordinator.answer x.clock x.noise x.outcome p.phase
  | .waiting .. => (p.phase.resume, p.coordinator, [])
  | _ => p.coordinator.step x.clock x.noise p.phase

def go (p : Passage α) (x : Circumstance α) : Passage α where
  phase := (p.next x).1
  coordinator := (p.next x).2.1
  emissions := p.emissions ++ (p.next x).2.2
  calls := p.calls ++ (p.next x).1.call?.toList
  attempts := p.attempts + if p.phase.isAttempting then 1 else 0

end Definitions

end Passage

/-- Carries an instruction out, with the circumstances of its steps given in order. -/
def Coordinator.carryOut {α : Type} [Factor α] [JsonAmount α] (c : Coordinator α)
    (i : Instruction α) (xs : List (Circumstance α)) : Passage α :=
  xs.foldl Passage.go { phase := .checking i, coordinator := c }

namespace Passage

variable {α : Type} [Factor α] [JsonAmount α] {p : Passage α} {v : VenueRequest α}

theorem published_go (p : Passage α) (x : Circumstance α) :
    (p.go x).published = p.published ++ (p.next x).2.2.filterMap Emission.published? :=
  List.filterMap_append

theorem calls_go (p : Passage α) (x : Circumstance α) :
    (p.go x).calls = p.calls ++ (p.next x).1.call?.toList := rfl

theorem attempts_go (p : Passage α) (x : Circumstance α) :
    (p.go x).attempts = p.attempts + if p.phase.isAttempting then 1 else 0 := rfl

theorem next_attempting {call : GuardedCall α} (h : p.phase = .attempting v call)
    (x : Circumstance α) : p.next x =
      p.coordinator.afterAttempt v (p.registry.startAttempt call x.clock x.noise) := by
  simp only [next, h]
  rfl

theorem next_calling {call : GuardedCall α} (h : p.phase = .calling v call) (x : Circumstance α) :
    p.next x =
      p.coordinator.afterAttempt v (p.registry.endAttempt call x.clock x.noise x.outcome) := by
  simp only [next, h]
  rfl

theorem next_waiting {call : GuardedCall α} {millis : Nat} (h : p.phase = .waiting v call millis)
    (x : Circumstance α) : p.next x = (.attempting v call, p.coordinator, []) := by
  simp only [next, h]
  rfl

/-- Nothing happens after the end. -/
theorem go_of_finished {result : Except GatewayError Unit} (h : p.phase = .finished result)
    (x : Circumstance α) : p.go x = p := by
  obtain ⟨phase, coordinator, emissions, calls, attempts⟩ := p
  cases h
  simp [go, next, Coordinator.step, InstructionPhase.call?, InstructionPhase.isAttempting]

theorem foldl_go_of_finished {result : Except GatewayError Unit} (h : p.phase = .finished result)
    (xs : List (Circumstance α)) : xs.foldl go p = p := by
  induction xs with
  | nil => rfl
  | cons x xs ih => rw [List.foldl_cons, go_of_finished h x, ih]

def action (p : Passage α) (x : Circumstance α) : DeskAction α :=
  match p.phase with
  | .calling .. => .answer 0 x.clock x.noise x.outcome
  | .waiting .. => .resume 0
  | _ => .step 0 x.clock x.noise

theorem act_action (p : Passage α) (x : Circumstance α) :
    (Desk.mk p.coordinator [p.phase]).act (p.action x) =
      (⟨(p.go x).coordinator, [(p.go x).phase]⟩, (p.next x).2.2) := by
  obtain ⟨phase, coordinator, emissions, calls, attempts⟩ := p
  cases phase <;> rfl

theorem exists_run (p : Passage α) (xs : List (Circumstance α)) :
    ∃ as : List (DeskAction α), (∀ a ∈ as, a.number? = some 0) ∧
      (Desk.mk p.coordinator [p.phase]).run as =
        ⟨(xs.foldl go p).coordinator, [(xs.foldl go p).phase]⟩ := by
  induction xs generalizing p with
  | nil => exact ⟨[], fun a h => (by cases h), rfl⟩
  | cons x xs ih =>
    obtain ⟨as, has, hrun⟩ := ih (p.go x)
    have hn : (p.action x).number? = some 0 := by
      unfold action
      split <;> rfl
    refine ⟨p.action x :: as, List.forall_mem_cons.mpr ⟨hn, has⟩, ?_⟩
    rw [List.foldl_cons, ← hrun]
    exact congrArg (Desk.run · as) (congrArg (·.1) (p.act_action x))

end Passage

/-- To carry out an instruction is to run a desk at which nothing else is under way. -/
theorem Coordinator.exists_run_carryOut {α : Type} [Factor α] [JsonAmount α] (c : Coordinator α)
    (i : Instruction α) (xs : List (Circumstance α)) :
    ∃ as : List (DeskAction α), (∀ a ∈ as, a.number? = some 0) ∧
      (Desk.mk c []).run (.instruct i :: as) =
        ⟨(c.carryOut i xs).coordinator, [(c.carryOut i xs).phase]⟩ :=
  Passage.exists_run { phase := .checking i, coordinator := c } xs

end VenueGateway
