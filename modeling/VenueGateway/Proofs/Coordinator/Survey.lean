import VenueGateway.Proofs.Coordinator.Attempts
import VenueGateway.Proofs.Coordinator.Snapshot
import VenueGateway.Proofs.Resilience.Retry

namespace VenueGateway

/-- How the body of a snapshot is read at some time. -/
abbrev SnapshotReader (α β : Type) := Int → SnapshotKind → β → Except GatewayError (List (Record α))

/-- What a reconciliation meets at a step. -/
structure FetchCircumstance (α β : Type) where
  clock : Clock
  noise : α
  outcome : Except GatewayError β

namespace ReconciliationPhase

variable {α : Type}

def attempting? : ReconciliationPhase α → Option SnapshotKind
  | .attempting kind _ => some kind
  | _ => none

def calling? : ReconciliationPhase α → Option SnapshotKind
  | .calling kind _ => some kind
  | _ => none

end ReconciliationPhase

/-- A reconciliation under way, with what it has asked the venue for. -/
structure Survey (α β : Type) where
  reconciliation : Reconciliation α
  coordinator : Coordinator α
  /-- The snapshots of the attempts that were begun, also of those that the breaker refused. -/
  attempts : List SnapshotKind := []
  answers : List (SnapshotKind × Except GatewayError β) := []

/-- How a snapshot was fetched, and when it was taken in. -/
structure Fetch (β : Type) extends Attempts β where
  now : Int

def Fetch.records {α β : Type} (f : Fetch β) (read : SnapshotReader α β) (kind : SnapshotKind) :
    Except GatewayError (List (Record α)) :=
  f.result.bind (read f.now kind)

namespace Survey

section Definitions

variable {α β : Type} [Factor α]

/-- Delays pass, and venues answer. -/
def next (read : SnapshotReader α β) (s : Survey α β) (x : FetchCircumstance α β) :
    Reconciliation α × Coordinator α × List (Emission α) :=
  match s.reconciliation.phase with
  | .attempting .. =>
    s.coordinator.startFetch x.clock x.noise (read x.clock.epoch) s.reconciliation
  | .calling .. =>
    s.coordinator.endFetch x.clock x.noise (read x.clock.epoch) x.outcome s.reconciliation
  | .waiting .. | .finished => (s.reconciliation.resume, s.coordinator, [])

def go (read : SnapshotReader α β) (s : Survey α β) (x : FetchCircumstance α β) : Survey α β where
  reconciliation := (s.next read x).1
  coordinator := (s.next read x).2.1
  attempts := s.attempts ++ s.reconciliation.phase.attempting?.toList
  answers := s.answers ++ (s.reconciliation.phase.calling?.map (·, x.outcome)).toList

/-- A survey with a list of snapshots before it. -/
def ahead (c : Coordinator α) (report : ReconciliationReport) (kinds : List SnapshotKind)
    (attempts : List SnapshotKind) (answers : List (SnapshotKind × Except GatewayError β)) :
    Survey α β :=
  ⟨(c.nextSnapshot report kinds).1, c, attempts, answers⟩

end Definitions

end Survey

/-- Reconciles with a venue, with the circumstances of the steps given in order. -/
def Coordinator.survey {α β : Type} [Factor α] (c : Coordinator α) (venue : Venue)
    (read : SnapshotReader α β) (xs : List (FetchCircumstance α β)) :
    Except GatewayError (Survey α β) :=
  (c.reconcile venue).map fun r => xs.foldl (Survey.go read) ⟨r, c, [], []⟩

/-- All that a reconciliation with a list of snapshots before it does: each of them is fetched,
whatever came of the others, and taken in with the breaker that the fetch has left. -/
inductive Surveyed {α β : Type} [Factor α] (read : SnapshotReader α β) :
    Coordinator α → ReconciliationReport → List SnapshotKind → List (Fetch β) →
      Coordinator α → ReconciliationReport → Prop
  | nil (c : Coordinator α) (report : ReconciliationReport) : Surveyed read c report [] [] c report
  | cons (c c' : Coordinator α) (report report' : ReconciliationReport) (kind : SnapshotKind)
      (kinds : List SnapshotKind) (f : Fetch β) (fs : List (Fetch β)) (registry : Registry α)
      (made : f.Made c.maxRetries c.maxRetries (c.registry.breaker (report.venue.name ++ ".rest")))
      (left : c.registry.Left (report.venue.name ++ ".rest") f.breaker registry)
      (rest : Surveyed read
        ({ c with registry }.takeSnapshot kind f.now (f.records read kind) report).2.1
        ({ c with registry }.takeSnapshot kind f.now (f.records read kind) report).1
        kinds fs c' report') :
      Surveyed read c report (kind :: kinds) (f :: fs) c' report'

namespace Survey

variable {α β : Type} [Factor α] {read : SnapshotReader α β} {s : Survey α β}
  {kind : SnapshotKind} {call : GuardedCall α} {left : Nat}

abbrev breakerOf (s : Survey α β) (call : GuardedCall α) : Breaker :=
  s.coordinator.registry.breaker call.service

/-- A survey that goes on with the same snapshot. -/
def onward (s : Survey α β) (phase : ReconciliationPhase α) (registry : Registry α)
    (attempts : List SnapshotKind) (answers : List (SnapshotKind × Except GatewayError β)) :
    Survey α β :=
  ⟨{ s.reconciliation with phase }, { s.coordinator with registry }, s.attempts ++ attempts,
    s.answers ++ answers⟩

/-- A survey that has fetched a snapshot, taken it in and goes on to the next one. -/
def taken (s : Survey α β) (read : SnapshotReader α β) (registry : Registry α)
    (kind : SnapshotKind) (f : Fetch β) : Survey α β :=
  let o := { s.coordinator with registry }.takeSnapshot kind f.now (f.records read kind)
    s.reconciliation.report
  ahead o.2.1 o.1 s.reconciliation.rest (s.attempts ++ .replicate f.count kind)
    (s.answers ++ f.answers.map (kind, ·))

/-- What a survey becomes when the snapshot at hand was fetched with some retries left, and taken in
at some time. -/
def Fetched (read : SnapshotReader α β) (s : Survey α β) (kind : SnapshotKind)
    (call : GuardedCall α) (left : Nat) (now : Int) (s' : Survey α β) : Prop :=
  ∃ (a : Attempts β) (registry : Registry α),
    a.Made call.backoff.policy.maxRetries left (s.breakerOf call) ∧
    s.coordinator.registry.Left call.service a.breaker registry ∧
    s' = s.taken read registry kind ⟨a, now⟩

theorem go_of_finished (h : s.reconciliation.phase = .finished) (x : FetchCircumstance α β) :
    s.go read x = s := by
  obtain ⟨⟨report, rest, phase⟩, c, attempts, answers⟩ := s
  cases h
  simp [go, next, Reconciliation.resume, ReconciliationPhase.attempting?,
    ReconciliationPhase.calling?]

theorem foldl_go_of_finished (h : s.reconciliation.phase = .finished)
    (xs : List (FetchCircumstance α β)) : xs.foldl (go read) s = s := by
  induction xs with
  | nil => rfl
  | cons x xs ih => rw [List.foldl_cons, go_of_finished h x, ih]

theorem go_of_waiting {millis : Nat} (h : s.reconciliation.phase = .waiting kind call millis)
    (x : FetchCircumstance α β) :
    s.go read x = s.onward (.attempting kind call) s.coordinator.registry [] [] := by
  obtain ⟨⟨report, rest, phase⟩, c, attempts, answers⟩ := s
  cases h
  simp [go, next, onward, Reconciliation.resume, ReconciliationPhase.attempting?,
    ReconciliationPhase.calling?]

/-- An attempt is let through, or it is refused and the snapshot taken for failed. -/
theorem go_of_attempting (read : SnapshotReader α β) (left : Nat)
    (h : s.reconciliation.phase = .attempting kind call) (x : FetchCircumstance α β) :
    Fetched read s kind call left x.clock.epoch (s.go read x) ∨
    ∃ registry,
      ((s.breakerOf call).acquire x.clock.elapsed).1 = true ∧
      s.coordinator.registry.Left call.service ((s.breakerOf call).acquire x.clock.elapsed).2.1
        registry ∧
      s.go read x = s.onward (.calling kind call.begun) registry [kind] [] := by
  obtain ⟨⟨report, rest, phase⟩, c, attempts, answers⟩ := s
  cases h
  have hgo : go read ⟨⟨report, rest, .attempting kind call⟩, c, attempts, answers⟩ x =
      let o := c.afterFetch x.clock (read x.clock.epoch) ⟨report, rest, .attempting kind call⟩ kind
        (c.registry.startAttempt call x.clock x.noise)
      ⟨o.1, o.2.1, attempts ++ [kind], answers ++ []⟩ := rfl
  -- The breaker lets the attempt start or refuses it, and a refusal ends the fetch.
  have hstart := c.registry.startAttempt_start (β := β) call x.clock x.noise
  generalize c.registry.startAttempt call x.clock x.noise = o at hstart hgo
  obtain ⟨next, registry, call', seen⟩ := o
  cases hstart with
  | passed h _ hleft => exact Or.inr ⟨registry, h, hleft, hgo⟩
  | refused h _ _ hleft =>
    exact Or.inl ⟨_, registry, .refused left _ x.clock.elapsed h, hleft, hgo⟩

/-- A call that was let through is answered: the snapshot is fetched then, or the call waits for
another attempt. -/
theorem go_of_calling (read : SnapshotReader α β) (kind : SnapshotKind) {registry : Registry α}
    {now : Nat} (hpass : ((s.breakerOf call).acquire now).1 = true)
    (hleft : s.coordinator.registry.Left call.service ((s.breakerOf call).acquire now).2.1 registry)
    (hcount : call.backoff.attempt + left = call.backoff.policy.maxRetries)
    (x : FetchCircumstance α β) :
    Fetched read s kind call left x.clock.epoch
      ((s.onward (.calling kind call.begun) registry [kind] []).go read x) ∨
    ∃ (e : GatewayError) (millis : Nat) (registry' : Registry α),
      e.isRetryable = true ∧ 0 < left ∧
      s.coordinator.registry.Left call.service
        ((s.breakerOf call).heard now x.clock.elapsed (.error e : Except GatewayError β))
        registry' ∧
      (s.onward (.calling kind call.begun) registry [kind] []).go read x =
        s.onward (.waiting kind call.begun.delayed millis) registry' [kind] [(kind, .error e)] := by
  have hgo : (s.onward (.calling kind call.begun) registry [kind] []).go read x =
      let o := { s.coordinator with registry }.afterFetch x.clock (read x.clock.epoch)
        { s.reconciliation with phase := .calling kind call.begun } kind
        (registry.endAttempt call.begun x.clock x.noise x.outcome)
      ⟨o.1, o.2.1, s.attempts ++ [kind], s.answers ++ [(kind, x.outcome)]⟩ := by
    simp [go, next, onward, Coordinator.endFetch, ReconciliationPhase.attempting?,
      ReconciliationPhase.calling?]
  have hend := registry.endAttempt_end call.begun x.clock x.noise x.outcome
  generalize registry.endAttempt call.begun x.clock x.noise x.outcome = o at hend hgo
  obtain ⟨next, registry', call', seen⟩ := o
  -- The answer ends the fetch, ends it because no attempt is left, or is worth another attempt.
  cases hend with
  | final h _ _ hleft' =>
    have hheard := hleft.heard hleft'
    exact Or.inl ⟨_, registry', .answered left _ now x.clock.elapsed hpass _ h, hheard, hgo⟩
  | exhausted e h he hle _ _ hleft' =>
    have hle : call.backoff.policy.maxRetries ≤ call.backoff.attempt := hle
    have hheard := hleft.heard hleft'
    have hzero : left = 0 := by omega
    have hattempt : call.begun.backoff.attempt = call.backoff.policy.maxRetries :=
      Nat.le_antisymm (Nat.le.intro hcount) hle
    rw [h] at hgo hheard
    rw [hattempt] at hgo
    subst hzero
    exact Or.inl ⟨_, registry', .exhausted _ now x.clock.elapsed hpass e he, hheard, hgo⟩
  | again e h he hlt millis _ hleft' =>
    have hlt : call.backoff.attempt < call.backoff.policy.maxRetries := hlt
    have hheard := hleft.heard hleft'
    have hpos : 0 < left := by omega
    rw [h] at hgo hheard
    exact Or.inr ⟨e, millis, registry', he, hpos, hheard, hgo⟩

/-- An attempt that failed for now is the first of those that the fetch takes. -/
theorem Fetched.again {registry : Registry α} {phase : ReconciliationPhase α} {e : GatewayError}
    {now later : Nat} {epoch : Int} {s' : Survey α β}
    (hpass : ((s.breakerOf call).acquire now).1 = true) (he : e.isRetryable = true)
    (hleft : s.coordinator.registry.Left call.service
      ((s.breakerOf call).heard now later (.error e : Except GatewayError β)) registry)
    (h : Fetched read (s.onward phase registry [kind] [(kind, .error e)]) kind call.begun.delayed
      left epoch s') :
    Fetched read s kind call (left + 1) epoch s' := by
  obtain ⟨a, registry', hmade, hleft', rfl⟩ := h
  have hmade : a.Made call.backoff.policy.maxRetries left (registry.breaker call.service) := hmade
  rw [hleft.breaker] at hmade
  refine ⟨_, registry', .again left _ now later hpass e he a hmade, hleft.trans hleft', ?_⟩
  simp [taken, onward, Fetch.records, List.replicate_succ]

/-- A snapshot at hand is fetched in a bounded number of steps, and taken in at the last of them. -/
theorem exists_fetched (read : SnapshotReader α β)
    (h : s.reconciliation.phase = .attempting kind call)
    (hcount : call.backoff.attempt + left = call.backoff.policy.maxRetries)
    (xs : List (FetchCircumstance α β)) (hxs : 3 * left + 2 ≤ xs.length) :
    ∃ ys x zs, xs = ys ++ x :: zs ∧ ys.length ≤ 3 * left + 1 ∧
      Fetched read s kind call left x.clock.epoch ((ys.foldl (go read) s).go read x) := by
  induction left using Nat.strongRecOn generalizing s call xs with
  | ind left ih =>
    obtain _ | ⟨x, xs⟩ := xs
    · simp at hxs
    rcases go_of_attempting read left h x with hfetched | ⟨registry, hpass, hleft, hgo⟩
    · exact ⟨[], x, xs, rfl, Nat.zero_le _, hfetched⟩
    obtain _ | ⟨x', xs⟩ := xs
    · simp at hxs
    have hcalled := go_of_calling read kind hpass hleft hcount x'
    rw [← hgo] at hcalled
    rcases hcalled with hfetched | ⟨e, millis, registry', he, hpos, hheard, hgo'⟩
    · exact ⟨[x], x', xs, rfl, Nat.le_add_left _ _, hfetched⟩
    -- The answer was not final: a delay passes, and the next attempt has one retry less.
    obtain ⟨k, rfl⟩ := Nat.exists_eq_succ_of_ne_zero (Nat.ne_of_gt hpos)
    obtain _ | ⟨x'', xs⟩ := xs
    · simp at hxs
    have hwait : ((s.go read x).go read x').go read x'' = s.onward
        (.attempting kind call.begun.delayed) registry' [kind] [(kind, .error e)] := by
      rw [hgo', go_of_waiting rfl x'']
      simp [onward]
    have hcount' : call.begun.delayed.backoff.attempt + k =
        call.begun.delayed.backoff.policy.maxRetries := (Nat.succ_add_eq_add_succ _ _).trans hcount
    have hlength : 3 * k + 2 ≤ xs.length := by
      simp only [List.length_cons] at hxs
      omega
    obtain ⟨ys, y, zs, rfl, hys, hfetched⟩ := ih k (Nat.lt_succ_self k)
      (s := s.onward (.attempting kind call.begun.delayed) registry' [kind] [(kind, .error e)])
      rfl hcount' xs hlength
    refine ⟨x :: x' :: x'' :: ys, y, zs, rfl, ?_, ?_⟩
    · simp only [List.length_cons]
      omega
    · rw [List.foldl_cons, List.foldl_cons, List.foldl_cons, hwait]
      exact hfetched.again hpass he hheard

/-- A reconciliation comes to its end, and is what its fetches make of it. -/
theorem exists_surveyed (read : SnapshotReader α β) (c : Coordinator α)
    (report : ReconciliationReport) (kinds attempts : List SnapshotKind)
    (answers : List (SnapshotKind × Except GatewayError β)) (xs : List (FetchCircumstance α β))
    (hxs : kinds.length * (3 * c.maxRetries + 2) ≤ xs.length) :
    ∃ fs c' report', Surveyed read c report kinds fs c' report' ∧
      (∀ f ∈ fs, ∃ x ∈ xs, f.now = x.clock.epoch) ∧
      xs.foldl (go read) (ahead c report kinds attempts answers) =
        ahead c' report' []
          (attempts ++ (kinds.zip fs).flatMap fun p => .replicate p.2.count p.1)
          (answers ++ (kinds.zip fs).flatMap fun p => p.2.answers.map (p.1, ·)) := by
  -- Induction along the kinds. Each fetch uses at most `3 * maxRetries + 2` of the circumstances,
  -- and the ones it leaves are enough for the kinds after it.
  induction kinds generalizing c report attempts answers xs with
  | nil =>
    refine ⟨[], c, report, .nil c report, ?_, ?_⟩
    · intro f hf
      cases hf
    · rw [foldl_go_of_finished rfl]
      simp
  | cons kind kinds ih =>
    have hbound : (kinds.length + 1) * (3 * c.maxRetries + 2) =
        kinds.length * (3 * c.maxRetries + 2) + (3 * c.maxRetries + 2) := Nat.succ_mul _ _
    rw [List.length_cons, hbound] at hxs
    have hcount : 0 + c.maxRetries = c.maxRetries := Nat.zero_add _
    have henough : 3 * c.maxRetries + 2 ≤ xs.length := by omega
    obtain ⟨ys, x, zs, rfl, hys, a, registry, hmade, hleft, htaken⟩ := exists_fetched read
      (s := ahead c report (kind :: kinds) attempts answers) rfl hcount xs henough
    let f : Fetch β := ⟨a, x.clock.epoch⟩
    let o := { c with registry }.takeSnapshot kind f.now (f.records read kind) report
    -- Taking a snapshot does not touch the settings, so the bound on a fetch is the same for the
    -- next kind.
    have hretries : o.2.1.maxRetries = c.maxRetries := by
      have hcoordinator := { c with registry }.takeSnapshot_coordinator kind f.now
        (f.records read kind) report
      rw [show o.2.1 = _ from hcoordinator]
      exact congrArg (fun d => d.retry.maxRetries) hleft.defaults
    have hzs : kinds.length * (3 * o.2.1.maxRetries + 2) ≤ zs.length := by
      rw [List.length_append, List.length_cons] at hxs
      rw [hretries]
      omega
    obtain ⟨fs, c', report', hrest, htimes, hend⟩ := ih o.2.1 o.1
      (attempts ++ .replicate f.count kind) (answers ++ f.answers.map (kind, ·)) zs hzs
    have hsurveyed := hrest.cons c c' report report' kind kinds f fs registry hmade hleft
    refine ⟨f :: fs, c', report', hsurveyed, ?_, ?_⟩
    · intro g hg
      rcases List.mem_cons.mp hg with rfl | hg
      · exact ⟨x, by simp, rfl⟩
      · obtain ⟨y, hy, hnow⟩ := htimes g hg
        exact ⟨y, by simp [hy], hnow⟩
    · rw [List.foldl_append, List.foldl_cons, htaken]
      refine hend.trans ?_
      simp [f, List.append_assoc]

end Survey

end VenueGateway
