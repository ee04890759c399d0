import VenueGateway.Proofs.Coordinator.Admission
import VenueGateway.Proofs.Coordinator.Attempts

namespace VenueGateway.Coordinator

open Passage (Called Outcome Stage)

variable {α : Type} [Factor α] [JsonAmount α]

theorem carryOut_of_error {c : Coordinator α} {i : Instruction α} {e : GatewayError}
    (h : c.check i = .error e) (x : Circumstance α) (xs : List (Circumstance α)) :
    c.carryOut i (x :: xs) = ⟨.finished (.error e), c, [], [], 0⟩ := by
  have hgo : Passage.go ⟨.checking i, c, [], [], 0⟩ x = ⟨.finished (.error e), c, [], [], 0⟩ := by
    simp [Passage.go, Passage.next, step, h, InstructionPhase.call?, InstructionPhase.isAttempting]
  rw [carryOut, List.foldl_cons, hgo]
  exact Passage.foldl_go_of_finished rfl xs

theorem carryOut_of_ok {c : Coordinator α} {i : Instruction α} {v : VenueRequest α}
    (h : c.check i = .ok v) (x : Circumstance α) (xs : List (Circumstance α)) :
    c.carryOut i (x :: xs) = xs.foldl Passage.go ⟨.limiting v, c, [], [], 0⟩ := by
  have hgo : Passage.go ⟨.checking i, c, [], [], 0⟩ x = ⟨.limiting v, c, [], [], 0⟩ := by
    simp [Passage.go, Passage.next, step, h, InstructionPhase.call?, InstructionPhase.isAttempting]
  rw [carryOut, List.foldl_cons, hgo]

theorem go_limiting (c : Coordinator α) (v : VenueRequest α) (x : Circumstance α)
    (h : (c.step x.clock x.noise (.limiting v)).1.call? = none) :
    ∃ limiters, ∃ os : List Observation, Passage.go ⟨.limiting v, c, [], [], 0⟩ x =
      ⟨(c.step x.clock x.noise (.limiting v)).1,
        { c with registry := { c.registry with limiters } }, os.map .observe, [], 0⟩ := by
  obtain ⟨limiters, hl⟩ := c.registry.checkRate_limiters v.service x.clock.elapsed
  have hc : (c.step x.clock x.noise (.limiting v)).2.1 =
      { c with registry := { c.registry with limiters } } := by simp only [step, hl]
  refine ⟨limiters, (c.registry.checkRate v.service x.clock.elapsed).2.2, ?_⟩
  simp only [Passage.go, Passage.next, hc, h]
  rfl

theorem go_limiting_of_error {c : Coordinator α} {v : VenueRequest α} {x : Circumstance α}
    {e : GatewayError} (h : (c.registry.checkRate v.service x.clock.elapsed).1 = .error e) :
    ∃ limiters, ∃ os : List Observation, Passage.go ⟨.limiting v, c, [], [], 0⟩ x =
      ⟨.finished (.error e), { c with registry := { c.registry with limiters } },
        os.map .observe, [], 0⟩ := by
  have hstep : (c.step x.clock x.noise (.limiting v)).1 = .finished (.error e) := by
    simp only [step, h]
  have hgo := c.go_limiting v x (by rw [hstep]; rfl)
  rw [hstep] at hgo
  exact hgo

theorem step_limiting_of_ne_send {c : Coordinator α} {v : VenueRequest α} {clock : Clock}
    (noise : α) (hv : ∀ r, v ≠ .send r)
    (h : (c.registry.checkRate v.service clock.elapsed).1 = .ok ()) :
    (c.step clock noise (.limiting v)).1 = c.begin v := by
  cases v with
  | send r => exact absurd rfl (hv r)
  | cancel o =>
    simp only [step, h]
    rfl
  | modify o quantity price =>
    simp only [step, h]
    rfl

theorem go_limiting_of_ok {c : Coordinator α} {v : VenueRequest α} {x : Circumstance α}
    (h : (c.registry.checkRate v.service x.clock.elapsed).1 = .ok ()) :
    Stage c v (3 * c.maxRetries + 4) (Passage.go ⟨.limiting v, c, [], [], 0⟩ x) := by
  by_cases hv : ∀ r, v ≠ .send r
  · have hstep := step_limiting_of_ne_send x.noise hv h
    obtain ⟨limiters, os, hgo⟩ := c.go_limiting v x (by rw [hstep]; rfl)
    rw [hgo, hstep]
    exact .begin_of_ne_send hv limiters os (by omega)
  · obtain ⟨r, rfl⟩ : ∃ r, v = .send r := by simpa using hv
    have hstep : (c.step x.clock x.noise (.limiting (.send r))).1 = .recording r := by
      simp only [step, h]
    obtain ⟨limiters, os, hgo⟩ := c.go_limiting (.send r) x (by rw [hstep]; rfl)
    rw [hgo, hstep]
    exact .recording r limiters os _ rfl le_rfl

/-- A coordinator that has no allowance for its venue. -/
def barred : Coordinator Rat :=
  { (Desk.single .deribit).coordinator with
    registry := .ofConfig ⟨{}, ⟨0, .zero, .zero, 1, 0⟩, 0, 5⟩ }

def refusal : Circumstance Rat := ⟨⟨0, 1⟩, 0, .error ⟨.api, "insufficient margin", []⟩⟩

end VenueGateway.Coordinator
