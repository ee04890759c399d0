import Mathlib.Data.ENat.Lattice
import VenueGateway.Proofs.Resilience.Scripted

namespace VenueGateway

/-- The number of the first answer that is final. -/
noncomputable def firstFinal {β : Type} (o : Nat → Except GatewayError β) : ℕ∞ :=
  open Classical in if h : ∃ i, isFinal (o i) = true then ((Nat.find h + 1 : ℕ) : ℕ∞) else ⊤

section FirstFinal

variable {β : Type} {o : Nat → Except GatewayError β}

theorem firstFinal_le {i : Nat} (h : isFinal (o i) = true) : firstFinal o ≤ ((i + 1 : ℕ) : ℕ∞) := by
  have hex : ∃ i, isFinal (o i) = true := ⟨i, h⟩
  rw [firstFinal, dif_pos hex, Nat.cast_le]
  exact Nat.succ_le_succ (Nat.find_min' hex h)

theorem isFinal_of_eq_firstFinal {k : Nat} (h : (k : ℕ∞) = firstFinal o) :
    isFinal (o (k - 1)) = true := by
  by_cases hex : ∃ i, isFinal (o i) = true
  · rw [firstFinal, dif_pos hex, Nat.cast_inj] at h
    rw [h, Nat.add_sub_cancel]
    exact Nat.find_spec hex
  · rw [firstFinal, dif_neg hex] at h
    exact absurd h (ENat.natCast_ne_top k)

theorem firstFinal_pos : 0 < firstFinal o := by
  by_cases hex : ∃ i, isFinal (o i) = true
  · rw [firstFinal, dif_pos hex]
    exact_mod_cast Nat.succ_pos _
  · rw [firstFinal, dif_neg hex]
    exact ENat.top_pos

theorem not_isFinal_of_lt {i : Nat} (h : ((i + 1 : ℕ) : ℕ∞) < firstFinal o) :
    isFinal (o i) = false :=
  Bool.eq_false_iff.mpr fun hfinal => (firstFinal_le hfinal).not_gt h

end FirstFinal

/-- How many of the first answers are failures. -/
def failedAmong {β : Type} (o : Nat → Except GatewayError β) (k : Nat) : Nat :=
  (List.range k).countP fun i => !(o i).isOk

theorem failedAmong_eq {β : Type} {o : Nat → Except GatewayError β} {k : Nat}
    (h : ∀ i < k, (o i).isOk = false) : failedAmong o k = k := by
  unfold failedAmong
  rw [List.countP_eq_length.mpr, List.length_range]
  intro i hi
  rw [h i (List.mem_range.mp hi)]
  rfl

namespace Breaker

/-- The breaker after a number of failures at given times. -/
def afterFailures (b : Breaker) (times : Nat → Nat) : Nat → Breaker
  | 0 => b
  | i + 1 => (b.afterFailures times i).take (.fail (times i))

@[simp] theorem afterFailures_config (b : Breaker) (times : Nat → Nat) (i : Nat) :
    (b.afterFailures times i).config = b.config := by
  induction i with
  | zero => rfl
  | succ i ih => rw [afterFailures, take_config, ih]

theorem take_fail_name (b : Breaker) (now : Nat) : (b.take (.fail now)).name = b.name := by
  obtain ⟨s, n, h⟩ := fail_fst b now
  rw [take, h, failed]

@[simp] theorem afterFailures_name (b : Breaker) (times : Nat → Nat) (i : Nat) :
    (b.afterFailures times i).name = b.name := by
  induction i with
  | zero => rfl
  | succ i ih => rw [afterFailures, take_fail_name, ih]

theorem take_fail_failures (b : Breaker) (now : Nat) :
    (b.take (.fail now)).failures = (b.failures + 1) % Text.bound32 := by
  obtain ⟨s, n, h⟩ := fail_fst b now
  rw [take, h, failed]

theorem take_fail_lastFailure (b : Breaker) (now : Nat) :
    (b.take (.fail now)).lastFailure = some now := by
  obtain ⟨s, n, h⟩ := fail_fst b now
  rw [take, h, failed]

/-- The state of a closed breaker after a failure. -/
theorem take_fail_state {b : Breaker} (h : b.state = .closed)
    (hword : b.failures + 1 < Text.bound32) (now : Nat) :
    (b.take (.fail now)).state =
      if b.failures + 1 < b.config.threshold then .closed else .open := by
  have htrips : b.Trips ↔ b.config.threshold ≤ b.failures + 1 := by
    simp [Trips, h, Nat.mod_eq_of_lt hword]
  by_cases hmany : b.config.threshold ≤ b.failures + 1
  · rw [if_neg (Nat.not_lt.mpr hmany), take, fail_fst_of_trips (htrips.mpr hmany)]
  · rw [if_pos (Nat.lt_of_not_le hmany), take, fail_fst_of_not_trips (mt htrips.mp hmany)]
    exact h

section Room

variable {b : Breaker} (times : Nat → Nat) (hclosed : b.state = .closed)
  (hroom : b.failures < b.config.threshold) (hword : b.config.threshold < Text.bound32)
include hclosed hroom hword

/-- A closed breaker counts failures until it opens, at the threshold. -/
theorem afterFailures_of_le {i : Nat} (hi : b.failures + i ≤ b.config.threshold) :
    (b.afterFailures times i).failures = b.failures + i ∧
      (b.afterFailures times i).state =
        if b.failures + i < b.config.threshold then .closed else .open := by
  induction i with
  | zero => exact ⟨rfl, hclosed.trans (if_pos hroom).symm⟩
  | succ i ih =>
    obtain ⟨hfailures, hstate⟩ := ih (by omega)
    rw [if_pos (by omega)] at hstate
    refine ⟨?_, ?_⟩
    · rw [afterFailures, take_fail_failures, hfailures, Nat.mod_eq_of_lt (by omega), Nat.add_assoc]
    · rw [afterFailures, take_fail_state hstate (by omega), hfailures, afterFailures_config,
        Nat.add_assoc]

/-- The count and the state after an answer that follows failures only. -/
theorem afterFailures_answer {β : Type} {i : Nat} (hi : b.failures + i < b.config.threshold)
    (outcome : Except GatewayError β) :
    ((b.afterFailures times i).take (.answer (times i) outcome)).failures =
        (if outcome.isOk then 0 else b.failures + (i + 1)) ∧
      ((b.afterFailures times i).take (.answer (times i) outcome)).state =
        if outcome.isOk = false ∧ b.failures + (i + 1) = b.config.threshold then .open
        else .closed := by
  cases outcome with
  | ok x => simp [BreakerStep.answer, take, succeed_fst, Except.isOk, Except.toBool]
  | error e =>
    have hafter := afterFailures_of_le times hclosed hroom hword
      (show b.failures + (i + 1) ≤ b.config.threshold from hi)
    refine ⟨hafter.1, hafter.2.trans ?_⟩
    by_cases heq : b.failures + (i + 1) = b.config.threshold
    · rw [if_neg (by omega), if_pos ⟨rfl, heq⟩]
    · rw [if_pos (by omega), if_neg (by simp [heq])]

end Room

end Breaker

namespace Registry

variable {α β : Type} [Factor α]

/-- A call that has begun some attempts, all of them answered. -/
def callAt (r : Registry α) (service operation : String) (payload : Option String) (i : Nat) :
    GuardedCall α :=
  { service, operation, payload, backoff := ⟨r.defaults.retry, i⟩, attempts := i }

/-- A registry left by some failures in a row at one service. -/
structure Underway (r₀ r : Registry α) (service : String) (times : Nat → Nat) (i : Nat) : Prop where
  breaker : r.breaker service = (r₀.breaker service).afterFailures times i
  deadLetters : r.deadLetters = r₀.deadLetters

omit [Factor α] in
theorem Underway.fail {r₀ r : Registry α} {service : String} {times : Nat → Nat} {i : Nat}
    (h : Underway r₀ r service times i) (c : GuardedCall α) (hc : c.service = service) (clock : Clock)
    (hclock : clock.elapsed = times i) {outcome : Except GatewayError β} {e : GatewayError}
    (ho : outcome = .error e) :
    Underway r₀ (r.hearing c clock outcome) service times (i + 1) where
  breaker := by
    subst hc ho
    rw [hearing_breaker, hclock, h.breaker]
    rfl
  deadLetters := h.deadLetters

section Run

variable {r : Registry α} {service operation : String} {payload : Option String}
  {m : Nat → Moment α} {o : Nat → Except GatewayError β}

/-- As long as all answers are transient failures that leave the breaker closed, the call goes on. -/
theorem exists_underway (operation : String) (payload : Option String) {i : Nat}
    (hi : i ≤ r.defaults.retry.maxRetries)
    (hpass : ∀ j < i,
      ((r.breaker service).afterFailures (fun j => (m j).answered.elapsed) j).state ≠ .open)
    (hretry : ∀ j < i, isFinal (o j) = false) :
    ∃ r', Underway r r' service (fun j => (m j).answered.elapsed) i ∧
      r.executeOver service operation payload m o =
        attemptOver m o (r.defaults.retry.maxRetries - i + 1) i r'
          (r.callAt service operation payload i) := by
  -- Induction on the attempts made: each was let through, failed and was worth a retry.
  induction i with
  | zero => exact ⟨_, ⟨breaker_setBreaker r service _, rfl⟩, rfl⟩
  | succ i ih =>
    obtain ⟨r', hr', hrun⟩ := ih (by omega) (fun j hj => hpass j (by omega))
      fun j hj => hretry j (by omega)
    obtain ⟨e, ho, he⟩ := exists_of_not_isFinal (hretry i (Nat.lt_succ_self i))
    refine ⟨_, hr'.fail (r.callAt service operation payload i) rfl (m i).answered rfl ho, ?_⟩
    have hstate : (r'.breaker (r.callAt service operation payload i).service).state ≠ .open := by
      have hi := hpass i (Nat.lt_succ_self i)
      rw [← hr'.breaker] at hi
      exact hi
    rw [hrun, attemptOver_again hstate ho he (Nat.lt_of_succ_le hi)]
    rw [show r.defaults.retry.maxRetries - i = r.defaults.retry.maxRetries - (i + 1) + 1 by omega]
    rfl

/-- What a call leaves behind after a number of answers: failures are counted, and one that is its
result becomes a dead letter. -/
structure Recorded (r : Registry α) (service operation : String) (payload : Option String)
    (o : Nat → Except GatewayError β) (k : Nat) (s : Settled α β) : Prop where
  failures : (s.registry.breaker service).failures =
    if s.result.isOk then 0 else (r.breaker service).failures + failedAmong o k
  state : (s.registry.breaker service).state =
    if s.result.isOk = false ∧
      (r.breaker service).failures + failedAmong o k = (r.breaker service).config.threshold
    then .open else .closed
  deadLetters : ∃ now, s.registry.deadLetters =
    lettersAfter r.deadLetters service operation payload s.attempts now s.result

/-- What a call has come to after a number of answers, at the first final one, at the last attempt, or
at the breaker that has opened. -/
structure StoppedAfter (r : Registry α) (service operation : String) (payload : Option String)
    (o : Nat → Except GatewayError β) (k : Nat) (s : Settled α β) : Prop
    extends Recorded r service operation payload o k s where
  invocations : s.invocations = k
  of_final : (k : ℕ∞) = firstFinal o → s.result = o (k - 1) ∧ s.attempts = k
  of_exhausted : (k : ℕ∞) ≠ firstFinal o → k = r.defaults.retry.maxRetries + 1 →
    ∃ e, o (k - 1) = .error e ∧
      s.result = .error (e.withContext "attempts" (Text.ofNat (r.defaults.retry.maxRetries + 1))) ∧
      s.attempts = k
  of_opened : (k : ℕ∞) ≠ firstFinal o → k ≠ r.defaults.retry.maxRetries + 1 →
    s.result = .error (r.breaker service).reject.1 ∧ s.attempts = k + 1

section Room

variable (hclosed : (r.breaker service).state = .closed)
  (hroom : (r.breaker service).failures < (r.breaker service).config.threshold)
  (hword : (r.breaker service).config.threshold < Text.bound32)
include hclosed hroom hword

omit [Factor α] in
/-- A call that ends with an answer, after failures only. -/
theorem recorded_of_answer {r' : Registry α} {i : Nat}
    (hi : (r.breaker service).failures + i < (r.breaker service).config.threshold)
    (hr' : Underway r r' service (fun j => (m j).answered.elapsed) i)
    (hbefore : ∀ j < i, (o j).isOk = false) {result : Except GatewayError β}
    (hresult : result.isOk = (o i).isOk) :
    Recorded r service operation payload o (i + 1)
      ⟨result, i + 1, i + 1,
        ((r'.hearing (r.callAt service operation payload i) (m i).answered (o i)).conclude
          (r.callAt service operation payload i).begun (m i).answered result).2.1⟩ := by
  -- All the attempts before this one failed, so the failures are as many as the attempts, this one
  -- included when it failed too.
  have hcount (hfailed : result.isOk = false) : failedAmong o (i + 1) = i + 1 := by
    refine failedAmong_eq fun j hj => ?_
    rcases Nat.lt_succ_iff_lt_or_eq.mp hj with hlt | rfl
    · exact hbefore j hlt
    · exact hresult ▸ hfailed
  have hbreaker := hearing_breaker r' (r.callAt service operation payload i) (m i).answered (o i)
  have hanswer := Breaker.afterFailures_answer (fun j => (m j).answered.elapsed) hclosed
    hroom hword hi (o i)
  rw [show (r.callAt service operation payload i).service = service from rfl, hr'.breaker]
    at hbreaker
  rw [← hbreaker, ← hresult] at hanswer
  constructor
  · rw [conclude_breaker, hanswer.1]
    cases hok : result.isOk with
    | true => rfl
    | false => simp only [hcount hok, Bool.false_eq_true, if_false]
  · rw [conclude_breaker, hanswer.2]
    cases hok : result.isOk with
    | true => rfl
    | false => rw [hcount hok]
  · refine ⟨(m i).answered.epoch, ?_⟩
    rw [conclude_deadLetters]
    exact congrArg (lettersAfter · _ _ _ _ _ _) hr'.deadLetters

omit [Factor α] in
theorem state_of_lt {j : Nat}
    (hj : (r.breaker service).failures + j < (r.breaker service).config.threshold)
    (times : Nat → Nat) : ((r.breaker service).afterFailures times j).state ≠ .open := by
  rw [(Breaker.afterFailures_of_le times hclosed hroom hword hj.le).2, if_pos hj]
  nofun

/-- The first final answer ends a call. -/
theorem stops_at_final {i : Nat} (hretries : i ≤ r.defaults.retry.maxRetries)
    (hi : (r.breaker service).failures + i < (r.breaker service).config.threshold)
    (hfirst : ((i + 1 : ℕ) : ℕ∞) = firstFinal o) :
    ∃ s, r.executeOver service operation payload m o = some s ∧
      StoppedAfter r service operation payload o (i + 1) s := by
  have hbefore (j) (hj : j < i) : isFinal (o j) = false :=
    not_isFinal_of_lt (hfirst ▸ Nat.cast_lt.mpr (Nat.succ_lt_succ hj))
  obtain ⟨r', hr', hrun⟩ := exists_underway operation payload hretries
    (fun j hj => state_of_lt hclosed hroom hword (by omega) _) hbefore
  have hpass : (r'.breaker service).state ≠ .open := by
    rw [hr'.breaker]
    exact state_of_lt hclosed hroom hword hi _
  have hfinal : isFinal (o i) = true := isFinal_of_eq_firstFinal hfirst
  refine ⟨_, hrun.trans (attemptOver_final hpass hfinal), ?_⟩
  exact
    { recorded_of_answer hclosed hroom hword hi hr'
        (fun j hj => isOk_of_not_isFinal (hbefore j hj)) rfl with
      invocations := rfl
      of_final := fun _ => ⟨rfl, rfl⟩
      of_exhausted := fun hne => absurd hfirst hne
      of_opened := fun hne => absurd hfirst hne }

/-- The last attempt ends a call. -/
theorem stops_at_last
    (hi : (r.breaker service).failures + r.defaults.retry.maxRetries <
      (r.breaker service).config.threshold)
    (hnone : ((r.defaults.retry.maxRetries + 1 : ℕ) : ℕ∞) < firstFinal o) :
    ∃ s, r.executeOver service operation payload m o = some s ∧
      StoppedAfter r service operation payload o (r.defaults.retry.maxRetries + 1) s := by
  have hretry (j) (hj : j < r.defaults.retry.maxRetries + 1) : isFinal (o j) = false :=
    not_isFinal_of_lt ((Nat.cast_le.mpr hj).trans_lt hnone)
  obtain ⟨r', hr', hrun⟩ := exists_underway operation payload le_rfl
    (fun j hj => state_of_lt hclosed hroom hword (by omega) _) fun j hj => hretry j (by omega)
  have hpass : (r'.breaker service).state ≠ .open := by
    rw [hr'.breaker]
    exact state_of_lt hclosed hroom hword hi _
  obtain ⟨e, ho, he⟩ := exists_of_not_isFinal (hretry _ (Nat.lt_succ_self _))
  refine ⟨_, hrun.trans (attemptOver_exhausted hpass ho he le_rfl), ?_⟩
  exact
    { recorded_of_answer hclosed hroom hword hi hr'
        (fun j hj => isOk_of_not_isFinal (hretry j (by omega))) (by rw [ho]; rfl) with
      invocations := rfl
      of_final := fun heq => absurd heq hnone.ne
      of_exhausted := fun _ _ => ⟨e, ho, rfl, rfl⟩
      of_opened := fun _ hne => absurd rfl hne }

/-- The breaker ends a call, once its failures have opened it. -/
theorem stops_at_opened {k : Nat} (hpos : 0 < k) (hretries : k ≤ r.defaults.retry.maxRetries)
    (hk : (r.breaker service).failures + k = (r.breaker service).config.threshold)
    (hnone : (k : ℕ∞) < firstFinal o)
    (hrest : ∀ i, (m (i + 1)).begun.elapsed - (m i).answered.elapsed <
      (r.breaker service).config.retryTimeout.nanos) :
    ∃ s, r.executeOver service operation payload m o = some s ∧
      StoppedAfter r service operation payload o k s := by
  have hretry (j) (hj : j < k) : isFinal (o j) = false :=
    not_isFinal_of_lt ((Nat.cast_le.mpr hj).trans_lt hnone)
  obtain ⟨r', hr', hrun⟩ := exists_underway operation payload hretries
    (fun j hj => state_of_lt hclosed hroom hword (by omega) _) hretry
  set times := fun j => (m j).answered.elapsed with htimes
  obtain ⟨hfailures, hstate⟩ :=
    Breaker.afterFailures_of_le times hclosed hroom hword hk.le
  rw [if_neg (by omega)] at hstate
  have hopen : (r'.breaker service).state = .open := hr'.breaker ▸ hstate
  -- The last failure opened the breaker at its own time, and the next attempt comes before the rest
  -- is over.
  have hunrested : (r'.breaker service).isRested (m k).begun.elapsed = false := by
    obtain ⟨i, rfl⟩ := Nat.exists_eq_succ_of_ne_zero hpos.ne'
    have hlast : (r'.breaker service).lastFailure = some (times i) :=
      hr'.breaker ▸ Breaker.take_fail_lastFailure _ _
    have hconfig : (r'.breaker service).config = (r.breaker service).config :=
      hr'.breaker ▸ Breaker.afterFailures_config _ _ _
    simp only [Breaker.isRested, hlast, hconfig, decide_eq_false_iff_not, Nat.not_le]
    exact hrest i
  have hreject : (r'.breaker service).reject.1 = (r.breaker service).reject.1 := by
    rw [hr'.breaker]
    simp [Breaker.reject]
  have hcount : failedAmong o k = k := failedAmong_eq fun j hj => isOk_of_not_isFinal (hretry j hj)
  refine ⟨_, hrun.trans (attemptOver_refused hopen hunrested), ?_⟩
  exact
    { failures := by
        rw [conclude_breaker]
        exact (congrArg Breaker.failures (breaker_setBreaker ..)).trans
          ((congrArg Breaker.failures hr'.breaker).trans (hcount.symm ▸ hfailures))
      state := by
        rw [conclude_breaker, hcount, if_pos ⟨rfl, hk⟩]
        exact (congrArg Breaker.state (breaker_setBreaker ..)).trans hopen
      deadLetters := by
        refine ⟨(m k).begun.epoch, ?_⟩
        rw [conclude_deadLetters]
        exact congrArg (lettersAfter · _ _ _ _ _ _) hr'.deadLetters
      invocations := rfl
      of_final := fun heq => absurd heq hnone.ne
      of_exhausted := fun _ hlast => absurd hlast (by omega)
      of_opened := fun _ _ => ⟨congrArg Except.error hreject, rfl⟩ }

theorem stops_of_closed (hrest : ∀ i, (m (i + 1)).begun.elapsed - (m i).answered.elapsed <
      (r.breaker service).config.retryTimeout.nanos) :
    ∃ (k : ℕ) (s : Settled α β), (k : ℕ∞) = min (firstFinal o)
        (min ((r.defaults.retry.maxRetries + 1 : ℕ) : ℕ∞)
          (((r.breaker service).config.threshold - (r.breaker service).failures : ℕ) : ℕ∞)) ∧
      r.executeOver service operation payload m o = some s ∧
      StoppedAfter r service operation payload o k s := by
  set R := r.defaults.retry.maxRetries with hR
  set room := (r.breaker service).config.threshold - (r.breaker service).failures with hroomEq
  -- The least of the three is a number, as the last attempt has one.
  obtain ⟨k, hk⟩ : ∃ k : ℕ, (k : ℕ∞) =
      min (firstFinal o) (min ((R + 1 : ℕ) : ℕ∞) ((room : ℕ) : ℕ∞)) :=
    ENat.ne_top_iff_exists.mp
      (((min_le_right _ _).trans (min_le_left _ _)).trans_lt (ENat.natCast_lt_top (R + 1))).ne
  have hfirst : (k : ℕ∞) ≤ firstFinal o := hk ▸ min_le_left _ _
  have hlast : k ≤ R + 1 := Nat.cast_le.mp (hk ▸ (min_le_right _ _).trans (min_le_left _ _))
  have hopened : k ≤ room := Nat.cast_le.mp (hk ▸ (min_le_right _ _).trans (min_le_right _ _))
  have hleast : (k : ℕ∞) = firstFinal o ∨ k = R + 1 ∨ k = room := by
    rcases min_choice (firstFinal o) (min ((R + 1 : ℕ) : ℕ∞) ((room : ℕ) : ℕ∞)) with h | h
    · exact .inl (hk.trans h)
    · rcases min_choice ((R + 1 : ℕ) : ℕ∞) ((room : ℕ) : ℕ∞) with h' | h'
      · exact .inr (.inl (Nat.cast_inj.mp (hk.trans (h.trans h'))))
      · exact .inr (.inr (Nat.cast_inj.mp (hk.trans (h.trans h'))))
  have hpos : 0 < k := by
    rcases hleast with h | h | h
    · exact Nat.cast_lt.mp (h ▸ firstFinal_pos)
    · omega
    · omega
  refine ⟨k, ?_⟩
  simp only [hk, true_and]
  rcases hfirst.eq_or_lt with heq | hlt
  · obtain ⟨i, rfl⟩ := Nat.exists_eq_succ_of_ne_zero hpos.ne'
    exact stops_at_final hclosed hroom hword (by omega) (by omega) heq
  · rcases hlast.eq_or_lt with rfl | hlast
    · exact stops_at_last hclosed hroom hword (by omega) hlt
    · have hk : k = room := by
        rcases hleast with h | h | h
        · exact absurd h hlt.ne
        · omega
        · exact h
      exact stops_at_opened hclosed hroom hword hpos (by omega) (by omega) hlt hrest

end Room

/-- What has come of a call that an open breaker has refused at once. -/
structure RefusedAtOnce (r : Registry α) (service operation : String) (payload : Option String)
    (s : Settled α β) : Prop where
  invocations : s.invocations = 0
  attempts : s.attempts = 1
  result : s.result = .error (r.breaker service).reject.1
  failures : (s.registry.breaker service).failures = (r.breaker service).failures
  state : (s.registry.breaker service).state = .open
  deadLetters : ∃ now, s.registry.deadLetters =
    lettersAfter r.deadLetters service operation payload s.attempts now s.result

theorem stops_of_open (hopen : (r.breaker service).state = .open)
    (hrest : (r.breaker service).isRested (m 0).begun.elapsed = false) :
    ∃ s : Settled α β, r.executeOver service operation payload m o = some s ∧
      RefusedAtOnce r service operation payload s := by
  set r' := r.setBreaker service (r.breaker service) with hr'
  have hsame : r'.breaker service = r.breaker service := breaker_setBreaker ..
  refine ⟨_, attemptOver_refused (r := r') (c := r'.begin service operation payload)
    (hsame ▸ hopen) (hsame ▸ hrest), rfl, rfl, ?_, ?_, ?_, (m 0).begun.epoch,
    conclude_deadLetters ..⟩
  · exact congrArg (fun b : Breaker => (.error b.reject.1 : Except GatewayError β)) hsame
  · rw [conclude_breaker]
    exact (congrArg Breaker.failures (breaker_setBreaker ..)).trans
      (congrArg (fun b : Breaker => b.reject.2.1.failures) hsame)
  · rw [conclude_breaker]
    exact (congrArg Breaker.state (breaker_setBreaker ..)).trans (hsame ▸ hopen)

/-- A service that may fail three times, two retries, and a clock that stands still. -/
def smallRegistry : Registry Rat :=
  .ofConfig
    { breaker := ⟨3, .ofSeconds 60⟩
      retry := ⟨2, .ofMillis 1, .ofMillis 2, 2, 0⟩
      ratePerSecond := 2
      deadLetterCapacity := 10 }

end Run

end Registry

end VenueGateway
