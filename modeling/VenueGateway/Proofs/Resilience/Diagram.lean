import Mathlib.Data.List.Infix
import VenueGateway.Proofs.Resilience.Circuit

namespace VenueGateway

/-- The state diagram of a breaker that has failed some times in a row and was last in trouble at
some time. Failures open it, after a rest it probes, and the probe decides. -/
inductive Turn (config : BreakerConfig) (failures : Nat) (trouble : Option Nat) :
    BreakerState → BreakerStep → BreakerState → Prop
  | trip (now : Nat) (h : config.threshold ≤ failures + 1) :
      Turn config failures trouble .closed (.fail now) .open
  | probe (since now : Nat) (h : trouble = some since)
      (hrest : since + config.retryTimeout.nanos ≤ now) :
      Turn config failures trouble .open (.acquire now) .halfOpen
  | recover : Turn config failures trouble .halfOpen .succeed .closed
  | relapse (now : Nat) : Turn config failures trouble .halfOpen (.fail now) .open
  | forceOpen (s : BreakerState) (now : Nat) (h : s ≠ .open) :
      Turn config failures trouble s (.forceOpen now) .open
  | forceClose (s : BreakerState) (h : s ≠ .closed) :
      Turn config failures trouble s .forceClose .closed

/-- The state changes where the diagram has a turn for the step, and only there. -/
def Follows (config : BreakerConfig) (failures : Nat) (trouble : Option Nat)
    (p : BreakerState × BreakerStep × BreakerState) : Prop :=
  Turn config failures trouble p.1 p.2.1 p.2.2 ∨
    p.2.2 = p.1 ∧ ∀ s, ¬ Turn config failures trouble p.1 p.2.1 s

/-- What is done with a breaker, one thing after the other. -/
inductive BreakerUse (β : Type) where
  | call (start finish : Nat) (outcome : Except GatewayError β)
  | forceOpen (now : Nat)
  | forceClose (now : Nat)

def BreakerUse.times {β : Type} : BreakerUse β → List Nat
  | .call start finish _ => [start, finish]
  | .forceOpen now | .forceClose now => [now]

/-- What has come of a use. -/
inductive BreakerEvent where
  | succeeded
  | failed (now : Nat)
  | refused
  | opened (now : Nat)
  | closed
deriving DecidableEq, Repr

namespace BreakerEvent

/-- A call that was let through. -/
def isCall : BreakerEvent → Bool
  | .succeeded | .failed _ => true
  | .refused | .opened _ | .closed => false

def isFailure : BreakerEvent → Bool
  | .failed _ => true
  | _ => false

def trouble? : BreakerEvent → Option Nat
  | .failed now | .opened now => some now
  | _ => none

/-- Failures in a row; a breaker that is forced open has failed often enough. -/
def count (threshold n : Nat) : BreakerEvent → Nat
  | .succeeded | .closed => 0
  | .failed _ => n + 1
  | .refused => n
  | .opened _ => max n threshold

def answer {β : Type} (now : Nat) : Except GatewayError β → BreakerEvent
  | .ok _ => .succeeded
  | .error _ => .failed now

end BreakerEvent

def failureCount (threshold : Nat) (es : List BreakerEvent) : Nat :=
  es.foldl (BreakerEvent.count threshold) 0

def lastTrouble (es : List BreakerEvent) : Option Nat :=
  (es.filterMap BreakerEvent.trouble?).getLast?

@[simp] theorem failureCount_concat (threshold : Nat) (es : List BreakerEvent) (e : BreakerEvent) :
    failureCount threshold (es ++ [e]) = e.count threshold (failureCount threshold es) :=
  List.foldl_concat ..

@[simp] theorem lastTrouble_concat (es : List BreakerEvent) (e : BreakerEvent) :
    lastTrouble (es ++ [e]) = e.trouble?.or (lastTrouble es) := by
  unfold lastTrouble
  cases h : e.trouble? <;> simp [h]

namespace Breaker

section Uses

variable {β : Type}

def event (b : Breaker) : BreakerUse β → BreakerEvent
  | .call start finish outcome =>
    if (b.acquire start).1 then .answer finish outcome else .refused
  | .forceOpen now => .opened now
  | .forceClose _ => .closed

def steps (b : Breaker) : BreakerUse β → List BreakerStep
  | .call start finish outcome =>
    if (b.acquire start).1 then [.acquire start, .answer finish outcome] else [.acquire start]
  | .forceOpen now => [.forceOpen now]
  | .forceClose _ => [.forceClose]

def use (b : Breaker) (u : BreakerUse β) : Breaker := (b.steps u).foldl take b

/-- The states before and after each step. -/
def trail (b : Breaker) : List BreakerStep → List (BreakerState × BreakerStep × BreakerState)
  | [] => []
  | s :: ss => (b.state, s, (b.take s).state) :: (b.take s).trail ss

def useAll (b : Breaker) (us : List (BreakerUse β)) : Breaker := us.foldl use b

def history (b : Breaker) : List (BreakerUse β) → List BreakerEvent
  | [] => []
  | u :: us => b.event u :: (b.use u).history us

theorem useAll_concat (b : Breaker) (us : List (BreakerUse β)) (u : BreakerUse β) :
    b.useAll (us ++ [u]) = (b.useAll us).use u := List.foldl_concat ..

theorem history_concat (b : Breaker) (us : List (BreakerUse β)) (u : BreakerUse β) :
    b.history (us ++ [u]) = b.history us ++ [(b.useAll us).event u] := by
  induction us generalizing b with
  | nil => rfl
  | cons v us ih => exact congrArg (b.event v :: ·) (ih (b.use v))

/-- A call that takes no time. -/
theorem execute_eq_use (b : Breaker) (now : Nat) (outcome : Except GatewayError β) :
    (b.execute now outcome).2.2.1 = b.use (.call now now outcome) ∧
      (b.execute now outcome).2.1.isSome = (b.event (.call now now outcome)).isCall := by
  unfold execute use steps event
  cases h : (b.acquire now).1 with
  | true =>
    simp only [h, if_true, List.foldl_cons, List.foldl_nil, take_answer]
    refine ⟨?_, by cases outcome <;> rfl⟩
    simp only [take, h, if_true]
  | false =>
    simp only [h, Bool.false_eq_true, if_false, List.foldl_cons, List.foldl_nil]
    exact ⟨by simp only [take, h, Bool.false_eq_true, if_false], rfl⟩

end Uses

/-- The counters and the state of a breaker say what has come of the uses before. -/
structure Tallied (b : Breaker) (es : List BreakerEvent) : Prop where
  failures : b.failures = failureCount b.config.threshold es
  lastFailure : b.lastFailure = lastTrouble es
  totalCalls : b.totalCalls = es.countP (·.isCall)
  totalFailures : b.totalFailures = es.countP (·.isFailure)
  rejectedCalls : b.rejectedCalls = es.countP (· == .refused)
  closed_iff : b.state = .closed ↔ b.failures < b.config.threshold

/-- A breaker between two uses. It does not probe, as every probe is answered. -/
structure Idle (b : Breaker) (es : List BreakerEvent) : Prop extends Tallied b es where
  not_probing : b.state ≠ .halfOpen
  stamped : b.lastFailure = none → b.state = .closed

/-- A breaker that has let a call through. It is closed, or it probes. -/
structure Waiting (b : Breaker) (es : List BreakerEvent) : Prop extends Tallied b es where
  not_open : b.state ≠ .open

variable {b : Breaker} {es : List BreakerEvent}

theorem Idle.of_closed (h : Tallied b es) (hs : b.state = .closed) : Idle b es :=
  ⟨h, by simp [hs], fun _ => hs⟩

theorem Idle.of_open (h : Tallied b es) (hs : b.state = .open) (hlast : b.lastFailure ≠ none) :
    Idle b es := ⟨h, by simp [hs], fun hnone => absurd hnone hlast⟩

theorem Idle.acquire (h : Idle b es) {now : Nat} (hpass : (b.acquire now).1 = true) :
    Waiting (b.take (.acquire now)) es := by
  -- A breaker that is not open lets the call through as it is; an open one does after its rest, and
  -- is half open then.
  by_cases hopen : b.state = .open
  · have hrest : b.isRested now = true := by
      by_contra hno
      rw [acquire_of_not_rested hopen (Bool.eq_false_iff.mpr hno)] at hpass
      cases hpass
    have hmany : ¬ b.failures < b.config.threshold := by
      rw [← h.closed_iff, hopen]
      simp
    simp only [take, acquire_of_rested hopen hrest, if_true, moveTo_fst]
    exact
      { h.toTallied with
        closed_iff := by simp [hmany]
        not_open := by simp }
  · simp only [take, acquire_of_ne_open hopen, if_true]
    exact ⟨h.toTallied, hopen⟩

theorem Idle.refuse (h : Idle b es) {now : Nat} (hpass : (b.acquire now).1 = false) :
    Idle (b.take (.acquire now)) (es ++ [.refused]) := by
  -- Only an open breaker that has not rested refuses, and refusing changes the count of rejected
  -- calls alone.
  have hstay : (b.acquire now).2.1 = b := by
    by_cases hopen : b.state = .open
    · cases hrest : b.isRested now with
      | true => simp [acquire_of_rested hopen hrest] at hpass
      | false => rw [acquire_of_not_rested hopen hrest]
    · rw [acquire_of_ne_open hopen]
  obtain ⟨⟨hfailures, hlast, hcalls, hfailed, hrejected, hclosed⟩, hprobe, hstamped⟩ := h
  simp only [take, hpass, Bool.false_eq_true, if_false, hstay, reject]
  exact
    { failures := by simp [hfailures, BreakerEvent.count]
      lastFailure := by simp [hlast, BreakerEvent.trouble?]
      totalCalls := by simp [hcalls, BreakerEvent.isCall]
      totalFailures := by simp [hfailed, BreakerEvent.isFailure]
      rejectedCalls := by simp [hrejected]
      closed_iff := hclosed
      not_probing := hprobe
      stamped := hstamped }

theorem Waiting.succeed (h : Waiting b es) (hthreshold : 0 < b.config.threshold) :
    Idle (b.take .succeed) (es ++ [.succeeded]) := by
  rw [take, succeed_fst]
  exact .of_closed
    { failures := by simp [BreakerEvent.count]
      lastFailure := by simp [h.lastFailure, BreakerEvent.trouble?]
      totalCalls := by simp [h.totalCalls, BreakerEvent.isCall]
      totalFailures := by simp [h.totalFailures, BreakerEvent.isFailure]
      rejectedCalls := by simp [h.rejectedCalls]
      closed_iff := by simp [hthreshold] } rfl

/-- Whether a failure trips is said by the count alone. -/
theorem Waiting.trips_iff (h : Waiting b es) (hword : b.failures + 1 < Text.bound32) :
    b.Trips ↔ b.config.threshold ≤ b.failures + 1 := by
  rw [Trips, Nat.mod_eq_of_lt hword]
  constructor
  · rintro (hprobe | hmany)
    · have hmany : ¬ b.failures < b.config.threshold := by
        rw [← h.closed_iff, hprobe]
        simp
      omega
    · exact hmany
  · exact Or.inr

theorem Waiting.fail (h : Waiting b es) (now : Nat) (hword : b.failures + 1 < Text.bound32) :
    Idle (b.take (.fail now)) (es ++ [.failed now]) := by
  have hcount := b.failed_failures now hword
  have hfailures : (b.failed now).failures =
      failureCount b.config.threshold (es ++ [.failed now]) := by
    rw [hcount, failureCount_concat, h.failures, BreakerEvent.count]
  have htrips := h.trips_iff hword
  -- The failure reaches the threshold and opens the breaker, or it does not, and then the breaker
  -- was closed and stays so.
  by_cases hmany : b.config.threshold ≤ b.failures + 1
  · rw [take, fail_fst_of_trips (htrips.mpr hmany)]
    exact .of_open
      { failures := hfailures
        lastFailure := by simp [failed, BreakerEvent.trouble?]
        totalCalls := by simp [failed, h.totalCalls, BreakerEvent.isCall]
        totalFailures := by simp [failed, h.totalFailures, BreakerEvent.isFailure]
        rejectedCalls := by simp [failed, h.rejectedCalls]
        closed_iff := iff_of_false (by simp) (hcount ▸ Nat.not_lt.mpr hmany) } rfl
      (by simp [failed])
  · have hshut : b.state = .closed := h.closed_iff.mpr (by omega)
    rw [take, fail_fst_of_not_trips (mt htrips.mp hmany)]
    exact .of_closed
      { failures := hfailures
        lastFailure := by simp [failed, BreakerEvent.trouble?]
        totalCalls := by simp [failed, h.totalCalls, BreakerEvent.isCall]
        totalFailures := by simp [failed, h.totalFailures, BreakerEvent.isFailure]
        rejectedCalls := by simp [failed, h.rejectedCalls]
        closed_iff := iff_of_true hshut (hcount ▸ Nat.lt_of_not_le hmany) } hshut

theorem Idle.forceOpen (h : Idle b es) (now : Nat) :
    Idle (b.take (.forceOpen now)) (es ++ [.opened now]) := by
  rw [take, forceOpen_fst]
  exact .of_open
    { failures := by simp [h.failures, BreakerEvent.count]
      lastFailure := by simp [BreakerEvent.trouble?]
      totalCalls := by simp [h.totalCalls, BreakerEvent.isCall]
      totalFailures := by simp [h.totalFailures, BreakerEvent.isFailure]
      rejectedCalls := by simp [h.rejectedCalls]
      closed_iff := iff_of_false (by simp) (Nat.not_lt.mpr (Nat.le_max_right _ _)) } rfl (by simp)

theorem Idle.forceClose (h : Idle b es) (hthreshold : 0 < b.config.threshold) :
    Idle (b.take .forceClose) (es ++ [.closed]) := by
  rw [take, forceClose_fst]
  exact .of_closed
    { failures := by simp [BreakerEvent.count]
      lastFailure := by simp [h.lastFailure, BreakerEvent.trouble?]
      totalCalls := by simp [h.totalCalls, BreakerEvent.isCall]
      totalFailures := by simp [h.totalFailures, BreakerEvent.isFailure]
      rejectedCalls := by simp [h.rejectedCalls]
      closed_iff := by simp [hthreshold] } rfl

variable {β : Type}

/-- The count that a failure makes fits its word. -/
theorem Tallied.word (h : Tallied b es) {now : Nat}
    (hword : failureCount b.config.threshold (es ++ [.failed now]) < Text.bound32) :
    b.failures + 1 < Text.bound32 := by
  rw [failureCount_concat, ← h.failures] at hword
  exact hword

theorem Waiting.answer (h : Waiting b es) (hthreshold : 0 < b.config.threshold) (now : Nat)
    (outcome : Except GatewayError β)
    (hword : failureCount b.config.threshold (es ++ [.answer now outcome]) < Text.bound32) :
    Idle (b.take (.answer now outcome)) (es ++ [.answer now outcome]) := by
  cases outcome with
  | ok x => exact h.succeed hthreshold
  | error e => exact h.fail now (h.word hword)

theorem Idle.use (h : Idle b es) (hthreshold : 0 < b.config.threshold) (u : BreakerUse β)
    (hword : failureCount b.config.threshold (es ++ [b.event u]) < Text.bound32) :
    Idle (b.use u) (es ++ [b.event u]) := by
  cases u with
  | call start finish outcome =>
    cases hpass : (b.acquire start).1 with
    | true =>
      simp only [event, hpass, if_true] at hword
      simp only [Breaker.use, steps, event, hpass, if_true]
      rw [← take_config b (.acquire start)] at hthreshold hword
      exact (h.acquire hpass).answer hthreshold finish outcome hword
    | false =>
      simp only [Breaker.use, steps, event, hpass, Bool.false_eq_true, if_false]
      exact h.refuse hpass
  | forceOpen now => exact h.forceOpen now
  | forceClose now => exact h.forceClose hthreshold

/-- What a use of a breaker may do after the uses before. A call is let through unless the breaker
is open and has not rested since it was last in trouble. -/
structure Lawful (b : Breaker) (es : List BreakerEvent) (u : BreakerUse β) : Prop where
  invoked_iff {start finish : Nat} {outcome : Except GatewayError β}
    (h : u = .call start finish outcome) :
    (b.event u).isCall ↔ b.state ≠ .open ∨
      ∃ since, lastTrouble es = some since ∧ since + b.config.retryTimeout.nanos ≤ start
  follows : ∀ p ∈ b.trail (b.steps u),
    Follows b.config (failureCount b.config.threshold es) (lastTrouble es) p

theorem isCall_event_call (b : Breaker) (start finish : Nat) (outcome : Except GatewayError β) :
    (b.event (.call start finish outcome)).isCall = (b.acquire start).1 := by
  cases hpass : (b.acquire start).1 with
  | true =>
    simp only [event, hpass, if_true]
    cases outcome <;> rfl
  | false =>
    simp only [event, hpass, Bool.false_eq_true, if_false]
    rfl

theorem Idle.isRested_iff (h : Idle b es) (hopen : b.state = .open) {now : Nat}
    (hpast : ∀ since, lastTrouble es = some since → since ≤ now) :
    b.isRested now = true ↔
      ∃ since, lastTrouble es = some since ∧ since + b.config.retryTimeout.nanos ≤ now := by
  cases hlast : b.lastFailure with
  | none => simp [h.stamped hlast] at hopen
  | some since =>
    have hsince : lastTrouble es = some since := h.lastFailure ▸ hlast
    have hle := hpast since hsince
    simp only [isRested, hlast, hsince, decide_eq_true_eq, Option.some.injEq, exists_eq_left']
    omega

theorem Idle.follows_acquire (h : Idle b es) {now : Nat}
    (hpast : ∀ since, lastTrouble es = some since → since ≤ now) :
    Follows b.config (failureCount b.config.threshold es) (lastTrouble es)
      (b.state, .acquire now, (b.take (.acquire now)).state) := by
  -- Asking for a call moves the breaker only from open to half open, and only after the rest; from
  -- anywhere else the law knows no move on it.
  by_cases hopen : b.state = .open
  · have hiff := h.isRested_iff hopen hpast
    cases hrest : b.isRested now with
    | true =>
      obtain ⟨since, hsince, hle⟩ := hiff.mp hrest
      refine .inl ?_
      simp only [take, acquire_of_rested hopen hrest, if_true, moveTo_fst, hopen]
      exact .probe since now hsince hle
    | false =>
      refine .inr ⟨by simp [take, acquire_of_not_rested hopen hrest, reject], fun s hturn => ?_⟩
      rw [hopen] at hturn
      cases hturn with
      | probe since _ hsince hle =>
        exact absurd (hiff.mpr ⟨since, hsince, hle⟩) (by simp [hrest])
  · refine .inr ⟨by simp [take, acquire_of_ne_open hopen], fun s hturn => ?_⟩
    cases hs : b.state with
    | closed | halfOpen =>
      rw [hs] at hturn
      cases hturn
    | «open» => exact hopen hs

theorem Waiting.follows_answer (h : Waiting b es) (now : Nat) (outcome : Except GatewayError β)
    (hword : failureCount b.config.threshold (es ++ [.answer now outcome]) < Text.bound32) :
    Follows b.config (failureCount b.config.threshold es) (lastTrouble es)
      (b.state, .answer now outcome, (b.take (.answer now outcome)).state) := by
  -- While a call waits for its answer the breaker is closed or half open, which leaves one row of
  -- the law for each answer.
  cases outcome with
  | ok x =>
    simp only [BreakerStep.answer, take, succeed_fst]
    cases hs : b.state with
    | closed =>
      refine .inr ⟨rfl, fun s hturn => ?_⟩
      cases hturn
    | halfOpen => exact .inl .recover
    | «open» => exact absurd hs h.not_open
  | error e =>
    have htrips := h.trips_iff (h.word hword)
    rw [← h.failures]
    simp only [BreakerStep.answer, take]
    by_cases hmany : b.config.threshold ≤ b.failures + 1
    · rw [fail_fst_of_trips (htrips.mpr hmany)]
      cases hs : b.state with
      | closed => exact .inl (.trip now hmany)
      | halfOpen => exact .inl (.relapse now)
      | «open» => exact absurd hs h.not_open
    · rw [fail_fst_of_not_trips (mt htrips.mp hmany)]
      refine .inr ⟨rfl, fun s hturn => ?_⟩
      have hshut : b.state = .closed := h.closed_iff.mpr (by omega)
      rw [hshut] at hturn
      cases hturn with
      | trip _ hle => exact hmany hle

theorem Idle.lawful (h : Idle b es) (u : BreakerUse β)
    (hpast : ∀ since, lastTrouble es = some since → ∀ now ∈ u.times, since ≤ now)
    (hword : failureCount b.config.threshold (es ++ [b.event u]) < Text.bound32) :
    Lawful b es u where
  invoked_iff := by
    rintro start finish outcome rfl
    rw [isCall_event_call, acquire_fst_iff]
    refine or_congr_right' fun hopen => ?_
    exact h.isRested_iff (not_not.mp hopen) fun since hsince =>
      hpast since hsince start (by simp [BreakerUse.times])
  follows := by
    cases u with
    | call start finish outcome =>
      have hacquire := h.follows_acquire fun since hsince =>
        hpast since hsince start (by simp [BreakerUse.times])
      cases hpass : (b.acquire start).1 with
      | true =>
        simp only [event, hpass, if_true] at hword
        simp only [steps, hpass, if_true, trail, List.forall_mem_cons]
        rw [← take_config b (.acquire start)] at hword
        have hanswer := (h.acquire hpass).follows_answer finish outcome hword
        rw [take_config] at hanswer
        exact ⟨hacquire, hanswer, List.forall_mem_nil _⟩
      | false =>
        simp only [steps, hpass, Bool.false_eq_true, if_false, trail, List.forall_mem_cons]
        exact ⟨hacquire, List.forall_mem_nil _⟩
    | forceOpen now =>
      simp only [steps, trail, List.forall_mem_singleton, take, forceOpen_fst]
      by_cases hopen : b.state = .open
      · refine .inr ⟨hopen.symm, fun s hturn => ?_⟩
        rw [hopen] at hturn
        cases hturn with
        | forceOpen _ _ hne => exact hne rfl
      · exact .inl (.forceOpen _ now hopen)
    | forceClose now =>
      simp only [steps, trail, List.forall_mem_singleton, take, forceClose_fst]
      by_cases hshut : b.state = .closed
      · refine .inr ⟨hshut.symm, fun s hturn => ?_⟩
        rw [hshut] at hturn
        cases hturn with
        | forceClose _ hne => exact hne rfl
      · exact .inl (.forceClose _ hshut)

theorem trouble?_event {b : Breaker} {u : BreakerUse β} {since : Nat}
    (h : (b.event u).trouble? = some since) : since ∈ u.times := by
  cases u with
  | call start finish outcome =>
    unfold event at h
    cases hpass : (b.acquire start).1 <;> cases outcome <;>
      simp_all [BreakerEvent.answer, BreakerEvent.trouble?, BreakerUse.times]
  | forceOpen now => simp_all [event, BreakerEvent.trouble?, BreakerUse.times]
  | forceClose now => cases h

theorem lastTrouble_mem_times {b : Breaker} {us : List (BreakerUse β)} {since : Nat}
    (h : lastTrouble (b.history us) = some since) : since ∈ us.flatMap (·.times) := by
  induction us using List.reverseRecOn with
  | nil => cases h
  | append_singleton us u ih =>
    rw [history_concat, lastTrouble_concat, Option.or_eq_some_iff] at h
    rw [List.flatMap_append, List.mem_append, List.flatMap_singleton]
    rcases h with hnow | ⟨-, hbefore⟩
    · exact .inr (trouble?_event hnow)
    · exact .inl (ih hbefore)

@[simp] theorem use_config (b : Breaker) (u : BreakerUse β) : (b.use u).config = b.config := by
  suffices ∀ ss : List BreakerStep, (ss.foldl take b).config = b.config from this _
  intro ss
  induction ss generalizing b with
  | nil => rfl
  | cons s ss ih => exact (ih (b.take s)).trans (take_config b s)

@[simp] theorem useAll_config (b : Breaker) (us : List (BreakerUse β)) :
    (b.useAll us).config = b.config := by
  induction us generalizing b with
  | nil => rfl
  | cons u us ih => exact (ih (b.use u)).trans (use_config b u)

theorem idle_new (name : String) {config : BreakerConfig} (h : 0 < config.threshold) :
    Idle { name, config } [] := .of_closed ⟨rfl, rfl, rfl, rfl, rfl, iff_of_true rfl h⟩ rfl

theorem idle_useAll {b : Breaker} (hidle : Idle b []) (hthreshold : 0 < b.config.threshold)
    (us : List (BreakerUse β))
    (hword : ∀ vs, vs <+: us → failureCount b.config.threshold (b.history vs) < Text.bound32) :
    Idle (b.useAll us) (b.history us) := by
  induction us using List.reverseRecOn with
  | nil => exact hidle
  | append_singleton us u ih =>
    have hus := ih fun vs hvs => hword vs (hvs.trans (List.prefix_append us [u]))
    have hnow := hword _ (List.prefix_refl _)
    rw [useAll_concat, history_concat] at *
    rw [← useAll_config b us] at hthreshold hnow
    exact hus.use hthreshold u hnow

/-- In a run without overlapping calls every use is lawful, and after each one the counters say what
has been done. -/
theorem diagram_kept (name : String) (config : BreakerConfig) (hthreshold : 0 < config.threshold)
    (us : List (BreakerUse β)) (htimes : (us.flatMap (·.times)).Pairwise (· ≤ ·))
    (hword : ∀ vs, vs <+: us →
      failureCount config.threshold (history { name, config } vs) < Text.bound32) :
    (∀ vs, vs <+: us → Tallied (useAll { name, config } vs) (history { name, config } vs)) ∧
      ∀ vs u, vs ++ [u] <+: us →
        Lawful (useAll { name, config } vs) (history { name, config } vs) u := by
  -- Between two uses no call is out, so the invariant of an idle breaker holds behind every prefix.
  have hidle (vs) (hvs : vs <+: us) :
      Idle (useAll { name, config } vs) (history { name, config } vs) :=
    idle_useAll (idle_new name hthreshold) hthreshold vs fun ws hws => hword ws (hws.trans hvs)
  refine ⟨fun vs hvs => (hidle vs hvs).toTallied, fun vs u hvs => ?_⟩
  have hnow := hword _ hvs
  rw [history_concat] at hnow
  refine (hidle vs ((List.prefix_append vs [u]).trans hvs)).lawful u ?_ ?_
  · intro since hsince now hmem
    obtain ⟨ws, rfl⟩ := hvs
    rw [List.append_assoc, List.flatMap_append, List.pairwise_append] at htimes
    refine htimes.2.2 since (lastTrouble_mem_times hsince) now ?_
    simp only [List.singleton_append, List.flatMap_cons, List.mem_append]
    exact .inl hmem
  · rw [useAll_config]
    exact hnow

/-- Two failures open a breaker, a call is refused, a probe fails, and the operator steps in. -/
def stormyUses : List (BreakerUse Unit) :=
  [.call 0 1 (.error ⟨.network, "lost", []⟩), .call 2 3 (.error ⟨.network, "lost", []⟩), .call 5 6 (.ok ()),
    .call 13 14 (.error ⟨.network, "lost", []⟩), .forceClose 20, .forceOpen 21, .call 31 32 (.ok ())]

theorem diagram_kept_stormyUses :
    let b : Breaker := { name := "b", config := ⟨2, ⟨10⟩⟩ }
    Tallied (b.useAll stormyUses) (b.history stormyUses) ∧
      b.history stormyUses =
        [.failed 1, .failed 3, .refused, .failed 14, .closed, .opened 21, .succeeded] ∧
      Lawful (b.useAll (stormyUses.take 3)) (b.history (stormyUses.take 3))
        (.call 13 14 (.error ⟨.network, "lost", []⟩) : BreakerUse Unit) := by
  have h := diagram_kept "b" ⟨2, ⟨10⟩⟩ (by decide) stormyUses (by decide) fun vs hvs => by
    rw [← List.mem_inits] at hvs
    revert vs
    decide
  exact ⟨h.1 _ (List.prefix_refl _), by decide, h.2 _ _ ⟨stormyUses.drop 4, rfl⟩⟩

end Breaker
end VenueGateway
