import VenueGateway.Resilience.Call

namespace VenueGateway.Registry

section Parts

variable {α β : Type}

/-- A call taken of an allowance touches the limiters only. -/
theorem checkRate_limiters (r : Registry α) (service : String) (elapsed : Nat) :
    ∃ limiters, (r.checkRate service elapsed).2.1 = { r with limiters } := ⟨_, rfl⟩

/-- A call is over: a failure has become a dead letter. -/
inductive Concluded (r : Registry α) (c : GuardedCall α) :
    Except GatewayError β → Registry α → Prop
  | succeeded (b : β) (breakers : List (String × Breaker)) :
      Concluded r c (.ok b) { r with breakers }
  | failed (e : GatewayError) (breakers : List (String × Breaker)) (now : Int) :
      Concluded r c (.error e)
        { r with
          breakers
          deadLetters :=
            (r.deadLetters.push c.service c.operation c.payload e c.attempts now).2.1 }

/-- The start of an attempt: the operation is invoked, or the breaker refuses it. That is nothing
transient, so the call is over then. -/
inductive Started (r : Registry α) (c : GuardedCall α) :
    NextStep β → Registry α → GuardedCall α → Prop
  | invoked (breakers : List (String × Breaker)) : Started r c .invoke { r with breakers } c
  | refused (e : GatewayError) (r' : Registry α)
      (h : Concluded r c (.error e : Except GatewayError β) r') :
      Started r c (.done (.error e)) r' c

/-- The end of an attempt: the call is over, or waits for another attempt. -/
inductive Ended (r : Registry α) (c : GuardedCall α) (outcome : Except GatewayError β) :
    NextStep β → Registry α → GuardedCall α → Prop
  | concluded (result : Except GatewayError β) (r' : Registry α) (h : Concluded r c result r')
      (hresult : result.isOk = outcome.isOk) : Ended r c outcome (.done result) r' c
  | again (breakers : List (String × Breaker)) (millis : Nat) (hresult : outcome.isOk = false)
      (hlt : c.backoff.attempt < c.backoff.policy.maxRetries) :
      Ended r c outcome (.wait millis) { r with breakers }
        { c with backoff := { c.backoff with attempt := c.backoff.attempt + 1 } }

end Parts

variable {α β : Type} [Factor α]

theorem startAttempt_started (r : Registry α) (c : GuardedCall α) (clock : Clock) (noise : α) :
    Started r { c with attempts := c.attempts + 1 }
      (r.startAttempt (β := β) c clock noise).1 (r.startAttempt (β := β) c clock noise).2.1
      (r.startAttempt (β := β) c clock noise).2.2.1 := by
  unfold startAttempt
  cases h : ((r.breaker c.service).acquire clock.elapsed).1 with
  | true =>
    simp only [h, if_true]
    exact .invoked _
  | false =>
    simp only [h, Bool.false_eq_true, if_false]
    exact .refused _ _ (.failed _ _ clock.epoch)

theorem endAttempt_ended (r : Registry α) (c : GuardedCall α) (clock : Clock) (noise : α)
    (outcome : Except GatewayError β) :
    Ended r c outcome (r.endAttempt c clock noise outcome).1
      (r.endAttempt c clock noise outcome).2.1 (r.endAttempt c clock noise outcome).2.2.1 := by
  -- An answer concludes the call; an error does when it is not worth a retry or none is left.
  cases outcome with
  | ok b => exact .concluded (.ok b) _ (.succeeded b _) rfl
  | error e =>
    unfold endAttempt settle
    by_cases he : e.isRetryable = true
    · unfold Backoff.next
      by_cases hlt : c.backoff.policy.maxRetries ≤ c.backoff.attempt
      · simp only [he, hlt, if_true]
        exact .concluded _ _ (.failed _ _ clock.epoch) rfl
      · simp only [he, hlt, if_true, if_false]
        exact .again _ _ rfl (Nat.lt_of_not_le hlt)
    · simp only [he, Bool.false_eq_true, if_false]
      exact .concluded (.error e) _ (.failed e _ clock.epoch) rfl

end VenueGateway.Registry
