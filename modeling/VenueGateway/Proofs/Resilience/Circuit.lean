import VenueGateway.Resilience.Breaker

namespace VenueGateway

/-- The atomic steps of a breaker. -/
inductive BreakerStep where
  | acquire (now : Nat)
  | succeed
  | fail (now : Nat)
  | forceOpen (now : Nat)
  | forceClose
deriving DecidableEq, Repr

/-- The step by which a breaker hears of an answer. -/
def BreakerStep.answer {β : Type} (now : Nat) : Except GatewayError β → BreakerStep
  | .ok _ => .succeed
  | .error _ => .fail now

namespace Breaker

theorem moveTo_fst (b : Breaker) (s : BreakerState) :
    (b.moveTo s).1 =
      { b with state := s, transitions := b.transitions + if b.state = s then 0 else 1 } := by
  unfold moveTo
  by_cases h : b.state = s
  · simp only [h, if_true, Nat.add_zero]
    rw [← h]
  · simp only [h, if_false]

theorem succeed_fst (b : Breaker) :
    b.succeed.1 = { b with
      totalCalls := b.totalCalls + 1
      failures := 0
      state := .closed
      transitions := b.transitions + if b.state = .closed then 0 else 1 } :=
  moveTo_fst _ _

theorem forceOpen_fst (b : Breaker) (now : Nat) :
    (b.forceOpen now).1 = { b with
      failures := max b.failures b.config.threshold
      lastFailure := some now
      state := .open
      transitions := b.transitions + if b.state = .open then 0 else 1 } :=
  moveTo_fst _ _

theorem forceClose_fst (b : Breaker) :
    b.forceClose.1 = { b with
      failures := 0
      state := .closed
      transitions := b.transitions + if b.state = .closed then 0 else 1 } :=
  moveTo_fst _ _

/-- The breaker after a failure, but for the step to another state. -/
def failed (b : Breaker) (now : Nat) : Breaker :=
  { b with
    totalCalls := b.totalCalls + 1
    totalFailures := b.totalFailures + 1
    failures := (b.failures + 1) % Text.bound32
    lastFailure := some now }

theorem failed_failures (b : Breaker) (now : Nat) (h : b.failures + 1 < Text.bound32) :
    (b.failed now).failures = b.failures + 1 := Nat.mod_eq_of_lt h

/-- A failure opens a breaker that probes, and one that has failed too often. -/
def Trips (b : Breaker) : Prop :=
  b.state = .halfOpen ∨ b.config.threshold ≤ (b.failures + 1) % Text.bound32

instance (b : Breaker) : Decidable b.Trips := inferInstanceAs (Decidable (_ ∨ _))

theorem fail_eq (b : Breaker) (now : Nat) :
    b.fail now = if b.Trips then (b.failed now).moveTo .open else (b.failed now, []) := rfl

theorem fail_fst_of_trips {b : Breaker} (h : b.Trips) (now : Nat) :
    (b.fail now).1 = { b.failed now with
      state := .open
      transitions := b.transitions + if b.state = .open then 0 else 1 } := by
  rw [fail_eq, if_pos h]
  exact moveTo_fst _ _

theorem fail_fst_of_not_trips {b : Breaker} (h : ¬ b.Trips) (now : Nat) :
    (b.fail now).1 = b.failed now := by
  rw [fail_eq, if_neg h]

/-- A failure is recorded whether it trips or not. -/
theorem fail_fst (b : Breaker) (now : Nat) :
    ∃ s n, (b.fail now).1 = { b.failed now with state := s, transitions := n } := by
  by_cases h : b.Trips
  · exact ⟨_, _, fail_fst_of_trips h now⟩
  · exact ⟨_, _, fail_fst_of_not_trips h now⟩

/-- A failure leaves an open breaker open, whether it trips once more or not. -/
theorem fail_fst_of_open {b : Breaker} (h : b.state = .open) (now : Nat) :
    (b.fail now).1 = b.failed now := by
  by_cases htrips : b.Trips
  · rw [fail_fst_of_trips htrips, if_pos h, ← h]
    rfl
  · exact fail_fst_of_not_trips htrips now

theorem acquire_of_ne_open {b : Breaker} (h : b.state ≠ .open) (now : Nat) :
    b.acquire now = (true, b, []) := by
  unfold acquire
  cases hs : b.state with
  | closed | halfOpen => rfl
  | «open» => exact absurd hs h

theorem acquire_of_rested {b : Breaker} {now : Nat} (h : b.state = .open)
    (hrest : b.isRested now = true) : b.acquire now = (true, b.moveTo .halfOpen) := by
  unfold acquire
  simp only [h, hrest, if_true]

theorem acquire_of_not_rested {b : Breaker} {now : Nat} (h : b.state = .open)
    (hrest : b.isRested now = false) : b.acquire now = (false, b, []) := by
  unfold acquire
  simp only [h, hrest, Bool.false_eq_true, if_false]

theorem acquire_fst_iff (b : Breaker) (now : Nat) :
    (b.acquire now).1 = true ↔ b.state ≠ .open ∨ b.isRested now = true := by
  by_cases hopen : b.state = .open
  · cases hrest : b.isRested now with
    | true => simp [acquire_of_rested hopen hrest]
    | false => simp [acquire_of_not_rested hopen hrest, hopen]
  · simp [acquire_of_ne_open hopen, hopen]

/-- A refusal is counted together with the step that it comes from. -/
def take (b : Breaker) : BreakerStep → Breaker
  | .acquire now =>
    if (b.acquire now).1 then (b.acquire now).2.1 else (b.acquire now).2.1.reject.2.1
  | .succeed => b.succeed.1
  | .fail now => (b.fail now).1
  | .forceOpen now => (b.forceOpen now).1
  | .forceClose => b.forceClose.1

theorem take_answer {β : Type} (b : Breaker) (now : Nat) (outcome : Except GatewayError β) :
    b.take (.answer now outcome) = (b.report now outcome).1 := by
  cases outcome <;> rfl

@[simp] theorem take_config (b : Breaker) (s : BreakerStep) : (b.take s).config = b.config := by
  cases s with
  | acquire now =>
    by_cases h : b.state = .open
    · cases hrest : b.isRested now with
      | true => simp [take, acquire_of_rested h hrest, moveTo_fst]
      | false => simp [take, acquire_of_not_rested h hrest, reject]
    · simp [take, acquire_of_ne_open h]
  | succeed => simp [take, succeed_fst]
  | fail now =>
    obtain ⟨s, n, h⟩ := fail_fst b now
    rw [take, h, failed]
  | forceOpen now => simp [take, forceOpen_fst]
  | forceClose => simp [take, forceClose_fst]

end Breaker

end VenueGateway
