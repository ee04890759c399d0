import VenueGateway.Proofs.Resilience.Circuit
import VenueGateway.Proofs.Resilience.Retry

namespace VenueGateway

/-- An answer that no retry follows. -/
def isFinal {β : Type} : Except GatewayError β → Bool
  | .ok _ => true
  | .error e => !e.isRetryable

theorem exists_of_not_isFinal {β : Type} {outcome : Except GatewayError β}
    (h : isFinal outcome = false) : ∃ e, outcome = .error e ∧ e.isRetryable = true := by
  cases outcome with
  | ok x => cases h
  | error e => exact ⟨e, rfl, by simpa [isFinal] using h⟩

theorem isOk_of_not_isFinal {β : Type} {outcome : Except GatewayError β}
    (h : isFinal outcome = false) : outcome.isOk = false := by
  obtain ⟨e, rfl, -⟩ := exists_of_not_isFinal h
  rfl

/-- The times of one attempt, and the noise of the delay after it. -/
structure Moment (α : Type) where
  begun : Clock
  answered : Clock
  noise : α

/-- What a guarded call has come to. -/
structure Settled (α β : Type) where
  result : Except GatewayError β
  attempts : Nat
  invocations : Nat
  registry : Registry α

namespace Registry

section Conclusion

variable {α β : Type} (r : Registry α) (c : GuardedCall α) (clock : Clock)

theorem conclude_fst (result : Except GatewayError β) :
    (r.conclude c clock result).1 = .done result := by cases result <;> rfl

theorem conclude_call (result : Except GatewayError β) :
    (r.conclude c clock result).2.2.1 = c := by cases result <;> rfl

/-- The dead letters after a call: one more, with its error and its attempts, if it failed. -/
def lettersAfter (q : DeadLetters) (service operation : String) (payload : Option String)
    (attempts : Nat) (now : Int) : Except GatewayError β → DeadLetters
  | .ok _ => q
  | .error e => (q.push service operation payload e attempts now).2.1

theorem conclude_deadLetters (result : Except GatewayError β) :
    (r.conclude c clock result).2.1.deadLetters =
      lettersAfter r.deadLetters c.service c.operation c.payload c.attempts clock.epoch result := by
  cases result <;> rfl

theorem conclude_breaker (result : Except GatewayError β) (service : String) :
    (r.conclude c clock result).2.1.breaker service = r.breaker service := by
  cases result <;> rfl

/-- The registry once the breaker has let a call through and heard of its answer. -/
def hearing (outcome : Except GatewayError β) : Registry α :=
  (r.setBreaker c.service (r.breaker c.service)).setBreaker c.service
    ((r.breaker c.service).report clock.elapsed outcome).1

theorem hearing_breaker (outcome : Except GatewayError β) :
    (r.hearing c clock outcome).breaker c.service =
      (r.breaker c.service).take (.answer clock.elapsed outcome) := by
  rw [hearing, breaker_setBreaker, Breaker.take_answer]

end Conclusion

variable {α β : Type} [Factor α]

/-- The attempts of a call that has invoked its operation some times before. -/
def attemptOver (m : Nat → Moment α) (o : Nat → Except GatewayError β) :
    Nat → Nat → Registry α → GuardedCall α → Option (Settled α β)
  | 0, _, _, _ => none
  | rounds + 1, i, r, c =>
    let now := m c.attempts
    let (next, r, c, _) := r.startAttempt (β := β) c now.begun now.noise
    match next with
    | .invoke =>
      let (next, r, c, _) := r.endAttempt c now.answered now.noise (o i)
      match next with
      | .done result => some ⟨result, c.attempts, i + 1, r⟩
      | .wait _ => attemptOver m o rounds (i + 1) r c
      | .invoke => none
    | .done result => some ⟨result, c.attempts, i, r⟩
    | .wait _ => attemptOver m o rounds i r c

/-- A guarded call, attempt by attempt at given times, with answers in the order of a script. -/
def executeOver (r : Registry α) (service operation : String) (payload : Option String)
    (m : Nat → Moment α) (o : Nat → Except GatewayError β) : Option (Settled α β) :=
  let r := r.setBreaker service (r.breaker service)
  attemptOver m o (r.defaults.retry.maxRetries + 1) 0 r (r.begin service operation payload)

/-- What a call that runs alone did, without its delays and observations. -/
def ofRun (run : CallRun α β) : Settled α β :=
  ⟨run.result, run.attempts, run.invokedAt.length, run.registry⟩

theorem ofRun_attemptAll {clock : Clock} {noise : α} {o : Nat → Except GatewayError β}
    {rounds : Nat} {r : Registry α} {c : GuardedCall α} {invokedAt : List Nat} {waited : Nat}
    {seen : List Observation} {s : Settled α β}
    (h : attemptOver (fun _ => ⟨clock, clock, noise⟩) o rounds invokedAt.length r c = some s) :
    ofRun (attemptAll clock noise o rounds r c invokedAt waited seen) = s := by
  -- Both loops take the same rounds, and this one also writes down when it called and how long it
  -- waited.
  induction rounds generalizing r c invokedAt waited seen with
  | zero => cases h
  | succ rounds ih =>
    simp only [attemptOver] at h
    simp only [attemptAll]
    generalize r.startAttempt (β := β) c clock noise = start at h ⊢
    obtain ⟨next, r, c, more⟩ := start
    cases next with
    | done result =>
      cases h
      simp [ofRun]
    | wait millis => exact ih h
    | invoke =>
      simp only at h ⊢
      generalize r.endAttempt c clock noise (o invokedAt.length) = finish at h ⊢
      obtain ⟨next, r, c, more⟩ := finish
      cases next with
      | done result =>
        cases h
        simp [ofRun]
      | wait millis => exact ih h
      | invoke => cases h

/-- A call that runs alone is one whose clock stands still. -/
theorem ofRun_executeAlone {r : Registry α} {service operation : String} {payload : Option String}
    {clock : Clock} {noise : α} {o : Nat → Except GatewayError β} {s : Settled α β}
    (h : r.executeOver service operation payload (fun _ => ⟨clock, clock, noise⟩) o = some s) :
    ofRun (r.executeAlone service operation payload clock noise o) = s :=
  ofRun_attemptAll h

section Attempt

variable (r : Registry α) (c : GuardedCall α) (clock : Clock) (noise : α)

theorem settle_final {outcome : Except GatewayError β} (h : isFinal outcome = true) :
    r.settle c clock noise outcome = r.conclude c clock outcome := by
  cases outcome with
  | ok x => rfl
  | error e =>
    have he : e.isRetryable = false := by simpa [isFinal] using h
    simp only [settle, he, Bool.false_eq_true, if_false]

theorem settle_exhausted {e : GatewayError} (he : e.isRetryable = true)
    (hle : c.backoff.policy.maxRetries ≤ c.backoff.attempt) :
    r.settle c clock noise (.error e : Except GatewayError β) =
      r.conclude c clock
        (.error (e.withContext "attempts" (Text.ofNat (c.backoff.attempt + 1)))) := by
  simp only [settle, he, if_true, Backoff.next, hle]

theorem settle_again {e : GatewayError} (he : e.isRetryable = true)
    (hlt : c.backoff.attempt < c.backoff.policy.maxRetries) :
    ∃ millis, r.settle c clock noise (.error e : Except GatewayError β) =
      (.wait millis, r, c.delayed, [.retried c.service]) := by
  simp only [settle, he, if_true, Backoff.next, Nat.not_le.mpr hlt, if_false]
  exact ⟨_, rfl⟩

theorem startAttempt_of_ne_open (h : (r.breaker c.service).state ≠ .open) :
    r.startAttempt (β := β) c clock noise =
      (.invoke, r.setBreaker c.service (r.breaker c.service), c.begun, []) := by
  simp only [startAttempt, Breaker.acquire_of_ne_open h, if_true]
  rfl

theorem startAttempt_of_not_rested (hopen : (r.breaker c.service).state = .open)
    (hrest : (r.breaker c.service).isRested clock.elapsed = false) :
    ∃ seen, r.startAttempt (β := β) c clock noise =
      (.done (.error (r.breaker c.service).reject.1),
        ((r.setBreaker c.service (r.breaker c.service).reject.2.1).conclude c.begun clock
          (.error (r.breaker c.service).reject.1 : Except GatewayError β)).2.1,
        c.begun, seen) := by
  simp only [startAttempt, Breaker.acquire_of_not_rested hopen hrest, Bool.false_eq_true, if_false]
  exact ⟨_, rfl⟩

end Attempt

section Over

variable {m : Nat → Moment α} {o : Nat → Except GatewayError β} {rounds i : Nat} {r : Registry α}
  {c : GuardedCall α}

/-- The settling of an attempt that was let through and answered. -/
def settling (m : Nat → Moment α) (o : Nat → Except GatewayError β) (i : Nat) (r : Registry α)
    (c : GuardedCall α) : NextStep β × Registry α × GuardedCall α × List Observation :=
  (r.hearing c (m c.attempts).answered (o i)).settle c.begun (m c.attempts).answered
    (m c.attempts).noise (o i)

theorem attemptOver_answered (hpass : (r.breaker c.service).state ≠ .open) :
    attemptOver m o (rounds + 1) i r c =
      match (settling m o i r c).1 with
      | .done result =>
        some ⟨result, (settling m o i r c).2.2.1.attempts, i + 1, (settling m o i r c).2.1⟩
      | .wait _ =>
        attemptOver m o rounds (i + 1) (settling m o i r c).2.1 (settling m o i r c).2.2.1
      | .invoke => none := by
  simp only [attemptOver, startAttempt_of_ne_open r c _ _ hpass, endAttempt]
  simp only [GuardedCall.begun, breaker_setBreaker]
  rfl

theorem attemptOver_final (hpass : (r.breaker c.service).state ≠ .open)
    (h : isFinal (o i) = true) :
    attemptOver m o (rounds + 1) i r c = some ⟨o i, c.attempts + 1, i + 1,
      ((r.hearing c (m c.attempts).answered (o i)).conclude c.begun (m c.attempts).answered
        (o i)).2.1⟩ := by
  rw [attemptOver_answered hpass, settling, settle_final _ _ _ _ h]
  simp only [conclude_fst, conclude_call, GuardedCall.begun]

theorem attemptOver_exhausted (hpass : (r.breaker c.service).state ≠ .open) {e : GatewayError}
    (h : o i = .error e) (he : e.isRetryable = true)
    (hle : c.backoff.policy.maxRetries ≤ c.backoff.attempt) :
    let result : Except GatewayError β :=
      .error (e.withContext "attempts" (Text.ofNat (c.backoff.attempt + 1)))
    attemptOver m o (rounds + 1) i r c = some ⟨result, c.attempts + 1, i + 1,
      ((r.hearing c (m c.attempts).answered (o i)).conclude c.begun (m c.attempts).answered
        result).2.1⟩ := by
  rw [attemptOver_answered hpass, settling, h, settle_exhausted _ c.begun _ _ he hle]
  simp only [conclude_fst, conclude_call, GuardedCall.begun]

theorem attemptOver_again (hpass : (r.breaker c.service).state ≠ .open) {e : GatewayError}
    (h : o i = .error e) (he : e.isRetryable = true)
    (hlt : c.backoff.attempt < c.backoff.policy.maxRetries) :
    attemptOver m o (rounds + 1) i r c =
      attemptOver m o rounds (i + 1) (r.hearing c (m c.attempts).answered (o i))
        c.begun.delayed := by
  obtain ⟨millis, hsettle⟩ := settle_again (β := β)
    (r.hearing c (m c.attempts).answered (.error e : Except GatewayError β)) c.begun
    (m c.attempts).answered (m c.attempts).noise he hlt
  rw [attemptOver_answered hpass, settling, h, hsettle]

theorem attemptOver_refused (hopen : (r.breaker c.service).state = .open)
    (hrest : (r.breaker c.service).isRested (m c.attempts).begun.elapsed = false) :
    let result : Except GatewayError β := .error (r.breaker c.service).reject.1
    attemptOver m o (rounds + 1) i r c = some ⟨result, c.attempts + 1, i,
      ((r.setBreaker c.service (r.breaker c.service).reject.2.1).conclude c.begun
        (m c.attempts).begun result).2.1⟩ := by
  obtain ⟨seen, hstart⟩ := startAttempt_of_not_rested (β := β) r c (m c.attempts).begun
    (m c.attempts).noise hopen hrest
  simp only [attemptOver, hstart]
  rfl

end Over

end Registry

end VenueGateway
