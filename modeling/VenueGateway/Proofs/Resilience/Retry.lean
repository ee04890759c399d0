import VenueGateway.Proofs.Json.Fields
import VenueGateway.Resilience.Call

namespace VenueGateway

section Lookup

variable {α : Type}

theorem Json.lookup_insertField_self (key : String) (value : α) (fields : List (String × α)) :
    Json.lookup key (Json.insertField key value fields) = some value := by
  rw [Json.lookup_insertField, if_pos rfl]

theorem Registry.breaker_setBreaker (r : Registry α) (service : String) (b : Breaker) :
    (r.setBreaker service b).breaker service = b := by
  have hlookup : Json.lookup service (r.setBreaker service b).breakers = some b :=
    Json.lookup_insertField_self service b r.breakers
  rw [breaker, hlookup]
  rfl

end Lookup

namespace Breaker

/-- The breaker after a call that it let through at one time was answered at another. -/
def heard {β : Type} (b : Breaker) (now later : Nat) (outcome : Except GatewayError β) : Breaker :=
  ((b.acquire now).2.1.report later outcome).1

/-- Only an open breaker refuses a call, and it stays as it is. -/
theorem acquire_of_refused {b : Breaker} {now : Nat} (h : (b.acquire now).1 = false) :
    b.state = .open ∧ b.acquire now = (false, b, []) := by
  unfold acquire at h ⊢
  cases hs : b.state with
  | closed | halfOpen => simp [hs] at h
  | «open» =>
    cases hr : b.isRested now with
    | true => simp [hs, hr] at h
    | false => exact ⟨rfl, by simp⟩

end Breaker

namespace GuardedCall

variable {α : Type}

/-- A call with one more attempt begun. -/
def begun (c : GuardedCall α) : GuardedCall α := { c with attempts := c.attempts + 1 }

/-- A call with one more delay taken. -/
def delayed (c : GuardedCall α) : GuardedCall α :=
  { c with backoff := { c.backoff with attempt := c.backoff.attempt + 1 } }

end GuardedCall

/-- What a guarded call did: how many attempts it began, what was answered to those that were let
through, its result, and the breaker that it left. -/
structure Attempts (β : Type) where
  count : Nat
  answers : List (Except GatewayError β)
  result : Except GatewayError β
  breaker : Breaker

/-- The attempts that a call makes when it finds a breaker and has a number of retries left. -/
inductive Attempts.Made {β : Type} (maxRetries : Nat) : Nat → Breaker → Attempts β → Prop
  | refused (left : Nat) (b : Breaker) (now : Nat) (h : (b.acquire now).1 = false) :
      Made maxRetries left b ⟨1, [], .error b.reject.1, b.reject.2.1⟩
  | answered (left : Nat) (b : Breaker) (now later : Nat) (h : (b.acquire now).1 = true)
      (outcome : Except GatewayError β)
      (hfinal : ∀ e, outcome = .error e → e.isRetryable = false) :
      Made maxRetries left b ⟨1, [outcome], outcome, b.heard now later outcome⟩
  | exhausted (b : Breaker) (now later : Nat) (h : (b.acquire now).1 = true) (e : GatewayError)
      (he : e.isRetryable = true) :
      Made maxRetries 0 b
        ⟨1, [.error e], .error (e.withContext "attempts" (Text.ofNat (maxRetries + 1))),
          b.heard now later (.error e : Except GatewayError β)⟩
  | again (left : Nat) (b : Breaker) (now later : Nat) (h : (b.acquire now).1 = true)
      (e : GatewayError) (he : e.isRetryable = true) (a : Attempts β)
      (rest : Made maxRetries left (b.heard now later (.error e : Except GatewayError β)) a) :
      Made maxRetries (left + 1) b ⟨a.count + 1, .error e :: a.answers, a.result, a.breaker⟩

namespace Attempts.Made

variable {β : Type} {maxRetries left : Nat} {b : Breaker} {a : Attempts β}

theorem count_pos (h : Made maxRetries left b a) : 0 < a.count := by
  cases h with
  | refused | answered | exhausted => exact Nat.one_pos
  | again => exact Nat.succ_pos _

end Attempts.Made

namespace Registry

variable {α β : Type}

/-- A registry in which a service has another breaker; the defaults are the same. -/
structure Left (r : Registry α) (service : String) (b : Breaker) (r' : Registry α) : Prop where
  defaults : r'.defaults = r.defaults
  breaker : r'.breaker service = b

theorem setBreaker_left (r : Registry α) (service : String) (b : Breaker) :
    Left r service b (r.setBreaker service b) := ⟨rfl, breaker_setBreaker r service b⟩

theorem Left.trans {r r' r'' : Registry α} {service : String} {b b' : Breaker}
    (h : Left r service b r') (h' : Left r' service b' r'') : Left r service b' r'' :=
  ⟨h'.defaults.trans h.defaults, h'.breaker⟩

theorem Left.heard {r r' r'' : Registry α} {service : String} {now later : Nat}
    {outcome : Except GatewayError β}
    (h : Left r service ((r.breaker service).acquire now).2.1 r')
    (h' : Left r' service ((r'.breaker service).report later outcome).1 r'') :
    Left r service ((r.breaker service).heard now later outcome) r'' := by
  rw [h.breaker] at h'
  exact h.trans h'

/-- A call that is over may have left a dead letter, which is nothing to the breakers. -/
theorem conclude_left {r r' : Registry α} {service : String} {b : Breaker}
    (h : Left r service b r') (c : GuardedCall α) (clock : Clock)
    (result : Except GatewayError β) :
    Left r service b (r'.conclude c clock result).2.1 := by
  cases result with
  | ok body => exact h
  | error e => exact ⟨h.defaults, h.breaker⟩

/-- The start of an attempt at some time, as the breaker sees it. -/
inductive AttemptStart (r : Registry α) (c : GuardedCall α) (now : Nat) :
    NextStep β → Registry α → GuardedCall α → Prop
  | passed (h : ((r.breaker c.service).acquire now).1 = true) (r' : Registry α)
      (left : Left r c.service ((r.breaker c.service).acquire now).2.1 r') :
      AttemptStart r c now .invoke r' c.begun
  | refused (h : ((r.breaker c.service).acquire now).1 = false) (r' : Registry α)
      (c' : GuardedCall α) (left : Left r c.service (r.breaker c.service).reject.2.1 r') :
      AttemptStart r c now (.done (.error (r.breaker c.service).reject.1)) r' c'

/-- The end of an attempt with an answer at some time, of which the breaker has heard. -/
inductive AttemptEnd (r : Registry α) (c : GuardedCall α) (now : Nat)
    (outcome : Except GatewayError β) : NextStep β → Registry α → GuardedCall α → Prop
  | final (h : ∀ e, outcome = .error e → e.isRetryable = false) (r' : Registry α)
      (c' : GuardedCall α)
      (left : Left r c.service ((r.breaker c.service).report now outcome).1 r') :
      AttemptEnd r c now outcome (.done outcome) r' c'
  | exhausted (e : GatewayError) (h : outcome = .error e) (he : e.isRetryable = true)
      (hle : c.backoff.policy.maxRetries ≤ c.backoff.attempt) (r' : Registry α)
      (c' : GuardedCall α)
      (left : Left r c.service ((r.breaker c.service).report now outcome).1 r') :
      AttemptEnd r c now outcome
        (.done (.error (e.withContext "attempts" (Text.ofNat (c.backoff.attempt + 1))))) r' c'
  | again (e : GatewayError) (h : outcome = .error e) (he : e.isRetryable = true)
      (hlt : c.backoff.attempt < c.backoff.policy.maxRetries) (millis : Nat) (r' : Registry α)
      (left : Left r c.service ((r.breaker c.service).report now outcome).1 r') :
      AttemptEnd r c now outcome (.wait millis) r' c.delayed

variable [Factor α]

theorem startAttempt_start (r : Registry α) (c : GuardedCall α) (clock : Clock) (noise : α) :
    AttemptStart r c clock.elapsed (r.startAttempt (β := β) c clock noise).1
      (r.startAttempt (β := β) c clock noise).2.1
      (r.startAttempt (β := β) c clock noise).2.2.1 := by
  unfold startAttempt
  cases h : ((r.breaker c.service).acquire clock.elapsed).1 with
  | true =>
    simp only [h, if_true]
    exact .passed h _ (setBreaker_left r c.service _)
  | false =>
    have hacquire := (Breaker.acquire_of_refused h).2
    simp only [hacquire, Bool.false_eq_true, if_false]
    -- A refusal is nothing transient, so the call is over.
    exact .refused h _ _ (conclude_left (setBreaker_left r c.service _)
      c.begun clock (.error (r.breaker c.service).reject.1 : Except GatewayError β))

theorem endAttempt_end (r : Registry α) (c : GuardedCall α) (clock : Clock) (noise : α)
    (outcome : Except GatewayError β) :
    AttemptEnd r c clock.elapsed outcome (r.endAttempt c clock noise outcome).1
      (r.endAttempt c clock noise outcome).2.1 (r.endAttempt c clock noise outcome).2.2.1 := by
  have hset := setBreaker_left r c.service ((r.breaker c.service).report clock.elapsed outcome).1
  cases outcome with
  | ok body => exact .final (fun e h => by cases h) _ _ hset
  | error e =>
    unfold endAttempt settle
    -- An error that is not retryable ends the call with itself; a retryable one ends it only after
    -- the last attempt, with the count added.
    by_cases he : e.isRetryable = true
    · unfold Backoff.next
      by_cases hle : c.backoff.policy.maxRetries ≤ c.backoff.attempt
      · simp only [he, hle, if_true]
        exact .exhausted e rfl he hle _ _ (conclude_left hset c clock
          (.error (e.withContext "attempts" (Text.ofNat (c.backoff.attempt + 1))) :
            Except GatewayError β))
      · simp only [he, hle, if_true, if_false]
        exact .again e rfl he (Nat.lt_of_not_le hle) _ _ hset
    · simp only [he, Bool.false_eq_true, if_false]
      refine .final ?_ _ _ (conclude_left hset c clock (.error e : Except GatewayError β))
      intro e' h
      cases h
      exact Bool.eq_false_iff.mpr he

end Registry

end VenueGateway
