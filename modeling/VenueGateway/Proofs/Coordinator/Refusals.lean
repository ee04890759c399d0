import VenueGateway.Proofs.Coordinator.Lockstep

namespace VenueGateway

namespace Passage

variable {α : Type}

/-- Of two passages of one instruction: either they came to the same by the same calls, or both were
refused by the first check. -/
structure SameConduct (p p' : Passage α) : Prop where
  calls_eq : p'.calls = p.calls
  attempts_eq : p'.attempts = p.attempts
  phase : p'.phase = p.phase ∨ p.calls = [] ∧ ∃ e e', p.phase = .finished (.error e) ∧
    p'.phase = .finished (.error e') ∧ e.kind = .validation ∧ e'.kind = .validation

/-- A passage that has made no calls but refused ones, and no second attempt. -/
structure Unspoken (d : Dialect) (p : Passage α) : Prop where
  calls : ∀ v ∈ p.calls, (d.refusal? v).isSome = true
  attempts : p.attempts ≤ 1

variable [Factor α] [JsonAmount α] {d : Dialect} {c : Coordinator α} {i : Instruction α}

theorem goVia_checking_ok {v : VenueRequest α} (h : c.check i = .ok v) (x : Circumstance α) :
    goVia d { phase := .checking i, coordinator := c } x =
      { phase := .limiting v, coordinator := c } := by
  simp only [goVia, go, next, Coordinator.step, h]
  rfl

theorem goVia_checking_error {e : GatewayError} (h : c.check i = .error e) (x : Circumstance α) :
    goVia d { phase := .checking i, coordinator := c } x =
      { phase := .finished (.error e), coordinator := c } := by
  simp only [goVia, go, next, Coordinator.step, h]
  rfl

end Passage

namespace Coordinator

theorem check_error_of_not_admits {α : Type} [Factor α] {c : Coordinator α} {i : Instruction α}
    (h : ∀ v, ¬ c.Admits i v) :
    ∃ e, c.check i = .error e ∧ e.kind = .validation := by
  cases hcheck : c.check i with
  | ok v => exact absurd (check_eq_ok_iff.mp hcheck) (h v)
  | error e => exact ⟨e, rfl, c.check_isValidation i e hcheck⟩

variable {α : Type} [Factor α] [JsonAmount α] {d : Dialect} {n : Nat} {c c' : Coordinator α}
  {e : Errand α} {es : List (Errand α)} {xs : List (Circumstance α)}

/-- What is heard at the steps of an errand. -/
abbrev heardOf (d : Dialect) (c : Coordinator α) (e : Errand α) : List Heard :=
  Passage.heardVia d { phase := .checking e.instruction, coordinator := c } e.circumstances

/-- An errand that the check lets through, after its first step. -/
theorem carryVia_of_check_ok {v : VenueRequest α} (h : c.check e.instruction = .ok v)
    {x : Circumstance α} (hx : e.circumstances = x :: xs) :
    c.carryVia d e = xs.foldl (Passage.goVia d) { phase := .limiting v, coordinator := c } ∧
      c.heardOf d e = Passage.heardVia d { phase := .limiting v, coordinator := c } xs := by
  rw [carryVia, heardOf, hx, List.foldl_cons, Passage.heardVia, Passage.goVia_checking_ok h]
  exact ⟨rfl, rfl⟩

/-- An errand that the check refuses. -/
theorem carryVia_of_check_error {f : GatewayError} (h : c.check e.instruction = .error f)
    {x : Circumstance α} (hx : e.circumstances = x :: xs) :
    c.carryVia d e = { phase := .finished (.error f), coordinator := c } ∧ c.heardOf d e = [] := by
  rw [carryVia, heardOf, hx, List.foldl_cons, Passage.heardVia, Passage.goVia_checking_error h]
  have hover := Passage.foldl_goVia_of_finished
    (p := { phase := .finished (.error f), coordinator := c }) (d := d) rfl xs
  exact ⟨hover.1, congrArg ([] ++ ·) hover.2⟩

/-- An errand that is over has taken a first step. -/
theorem exists_first_circumstance (hfinished : (c.carryVia d e).phase.isFinished = true)
    (ht : c.Timely d (e.circumstances ++ xs)) :
    ∃ x ys, e.circumstances = x :: ys ∧ c.Timely d (ys ++ xs) := by
  cases hx : e.circumstances with
  | nil =>
    rw [carryVia, hx] at hfinished
    cases hfinished
  | cons x ys =>
    rw [hx] at ht
    exact ⟨x, ys, rfl, ht.tail rfl⟩

/-- An errand that is not refused, in two runs that differ in refused ones. -/
theorem Apart.carryVia_both (h : c.Apart d none n c')
    (hspoken : d.refuses c.table e.instruction = false)
    (ht : c.Timely d (e.circumstances ++ xs))
    (hsmooth : (c.carryVia d e).Smooth) :
    (c.carryVia d e).coordinator.Apart d none ((c.heardOf d e).foldl Heard.owed n)
        (c'.carryVia d e).coordinator ∧
      Passage.SameConduct (c.carryVia d e) (c'.carryVia d e) ∧
      (c.carryVia d e).coordinator.Timely d xs := by
  obtain ⟨hfinished, hcalm⟩ := hsmooth
  obtain ⟨x, ys, hx, hrest⟩ := exists_first_circumstance hfinished ht
  -- Both runs let it through, or neither does.
  by_cases hadmits : ∃ v, c.Admits e.instruction v
  · obtain ⟨v, hv⟩ := hadmits
    obtain ⟨hcarry, hheard⟩ := carryVia_of_check_ok (d := d) (check_eq_ok_iff.mpr hv) hx
    obtain ⟨hcarry', -⟩ := carryVia_of_check_ok (d := d)
      (check_eq_ok_iff.mpr ((h.admits_iff hspoken v).mpr hv)) hx
    have hjudged : v.Judged d false :=
      ⟨h.known _ (venue_mem_of_admits hv), (isSome_refusal?_of_admits hv).trans hspoken⟩
    have hpaced : Passage.Paced d n { phase := .limiting v, coordinator := c }
        { phase := .limiting v, coordinator := c' } := ⟨rfl, rfl, rfl, .limiting v hjudged, h⟩
    rw [hcarry] at hcalm ⊢
    rw [hheard, hcarry']
    obtain ⟨hrun, htimely⟩ := hpaced.run hrest hcalm
    exact ⟨hrun.apart, ⟨hrun.calls_eq, hrun.attempts_eq, .inl hrun.phase_eq⟩, htimely⟩
  · rw [not_exists] at hadmits
    obtain ⟨f, hcheck, hf⟩ := check_error_of_not_admits hadmits
    obtain ⟨f', hcheck', hf'⟩ := check_error_of_not_admits fun v hv =>
      hadmits v ((h.admits_iff hspoken v).mp hv)
    obtain ⟨hcarry, hheard⟩ := carryVia_of_check_error (d := d) hcheck hx
    obtain ⟨hcarry', -⟩ := carryVia_of_check_error (d := d) hcheck' hx
    rw [hcarry, hheard, hcarry']
    exact ⟨h, ⟨rfl, rfl, .inr ⟨rfl, f, f', rfl, rfl, hf, hf'⟩⟩, hrest.of_append⟩

/-- A refused errand, in one of the runs. -/
theorem Apart.carryVia_alone (h : c.Apart d none n c')
    (hrefused : d.refuses c.table e.instruction = true) (ht : c.Timely d (e.circumstances ++ xs))
    (hsmooth : (c.carryVia d e).Smooth) :
    (c.carryVia d e).coordinator.Apart d none ((c.heardOf d e).foldl Heard.owed n) c' ∧
      Passage.Unspoken d (c.carryVia d e) ∧ (c.carryVia d e).coordinator.Timely d xs := by
  obtain ⟨hfinished, hcalm⟩ := hsmooth
  obtain ⟨result, hresult⟩ := InstructionPhase.exists_of_isFinished hfinished
  obtain ⟨x, ys, hx, hrest⟩ := exists_first_circumstance hfinished ht
  -- Either the check turns the instruction away, and nothing is heard, or the passage starts and
  -- only the run that takes it goes on.
  by_cases hadmits : ∃ v, c.Admits e.instruction v
  · obtain ⟨v, hv⟩ := hadmits
    obtain ⟨hcarry, hheard⟩ := carryVia_of_check_ok (d := d) (check_eq_ok_iff.mpr hv) hx
    have hjudged : v.Judged d true :=
      ⟨h.known _ (venue_mem_of_admits hv), (isSome_refusal?_of_admits hv).trans hrefused⟩
    have halone : Passage.Alone d n { phase := .limiting v, coordinator := c } c' :=
      ⟨⟨none, .limiting v hjudged, h⟩, fun w hw => absurd hw List.not_mem_nil⟩
    rw [hcarry] at hcalm hresult ⊢
    rw [hheard]
    obtain ⟨⟨⟨sending, hphase, hapart⟩, hcalls⟩, htimely⟩ := halone.run hrest hcalm
    rw [hresult] at hphase
    obtain ⟨rfl, hattempts⟩ := hphase.finished_inv
    exact ⟨hapart, ⟨hcalls, hattempts⟩, htimely⟩
  · rw [not_exists] at hadmits
    obtain ⟨f, hcheck, -⟩ := check_error_of_not_admits hadmits
    obtain ⟨hcarry, hheard⟩ := carryVia_of_check_error (d := d) hcheck hx
    rw [hcarry, hheard]
    exact ⟨h, ⟨fun w hw => absurd hw List.not_mem_nil, Nat.zero_le 1⟩, hrest.of_append⟩

/-- Errands one after the other, and those of them that are not refused. -/
theorem Apart.carryAll (h : c.Apart d none n c')
    (ht : c.Timely d (es.flatMap Errand.circumstances))
    (hsmooth : ∀ p ∈ c.carryAll d es, p.Smooth) :
    (c.afterAll d es).Apart d none ((c.heardAll d es).foldl Heard.owed n)
        (c'.afterAll d (c.unrefused d es)) ∧
      List.Forall₂ Passage.SameConduct (c.passagesOf d false es)
        (c'.carryAll d (c.unrefused d es)) ∧
      ∀ p ∈ c.passagesOf d true es, p.Unspoken d := by
  -- Induction along the errands. A refused one is taken by one run only and adds to what that run
  -- owes; any other is taken by both in the same way.
  induction es generalizing n c c' with
  | nil => exact ⟨h, .nil, fun p hp => absurd hp List.not_mem_nil⟩
  | cons e es ih =>
    obtain ⟨hfirst, hothers⟩ := List.forall_mem_cons.mp hsmooth
    rw [List.flatMap_cons] at ht
    rw [heardAll, List.foldl_append]
    cases hrefuses : d.refuses c.table e.instruction with
    | true =>
      obtain ⟨hapart, hunspoken, htimely⟩ := h.carryVia_alone hrefuses ht hfirst
      obtain ⟨hend', hsame, hrest⟩ := ih hapart htimely hothers
      simp only [unrefused, passagesOf, hrefuses, if_true, Bool.true_eq_false, if_false]
      exact ⟨hend', hsame, List.forall_mem_cons.mpr ⟨hunspoken, hrest⟩⟩
    | false =>
      obtain ⟨hapart, hconduct, htimely⟩ := h.carryVia_both hrefuses ht hfirst
      obtain ⟨hend', hsame, hrest⟩ := ih hapart htimely hothers
      simp only [unrefused, passagesOf, hrefuses, if_true, Bool.false_eq_true, if_false]
      exact ⟨hend', .cons hconduct hsame, hrest⟩

/-- A coordinator of the venue of a dialect, whose limits are numbers of 32 bits, whose breaker is
closed, and whose limiter is there already. -/
structure Ready (d : Dialect) (l : Limiter) (c : Coordinator α) : Prop where
  known : ∀ venue ∈ c.venues, venue = d.venue
  closed : (c.registry.breaker d.service).state = .closed
  room : (c.registry.breaker d.service).failures < (c.registry.breaker d.service).config.threshold
  word : (c.registry.breaker d.service).config.threshold < Text.bound32
  made : c.registry.limiter? d.service = some l
  limit : l.maxPerSecond < 2 ^ 32

omit [Factor α] [JsonAmount α] in
theorem Ready.apart {l : Limiter} (h : c.Ready d l) : c.Apart d none 0 c where
  venues_eq := rfl
  known := h.known
  retry_eq := rfl
  breaker := ⟨h.closed, h.closed, rfl, rfl, h.room, h.word⟩
  limiter := ⟨l, l, h.made, h.made, .refl h.limit⟩
  table := .refl d c.table

/-- What a dialect has no words for is never called outside and tried once at most, but it weighs as
a failure on the breaker. As long as the breaker stays closed and no call is over the limit, that is
all that it does: without the refused errands the failures are fewer by the refusals since the last
success, and the same others come to the same by the same calls. -/
theorem refusals_weigh_as_failures (d : Dialect) (c : Coordinator α) (l : Limiter)
    (es : List (Errand α)) (hready : c.Ready d l)
    (htimely : l.Timely (es.flatMap Errand.circumstances))
    (hsmooth : ∀ p ∈ c.carryAll d es, p.Smooth) :
    let full := (c.afterAll d es).registry.breaker d.service
    let rest := (c.afterAll d (c.unrefused d es)).registry.breaker d.service
    (∀ (pending : PendingOrders) (number : Nat) (v : VenueRequest Float) (e : GatewayError),
        d.outbound pending number v = .error e ↔ d.refusal? v = some e) ∧
      (∀ p ∈ c.passagesOf d true es, p.Unspoken d) ∧
      full.state = .closed ∧ rest.state = .closed ∧
      full.failures = rest.failures + (c.heardAll d es).foldl Heard.owed 0 ∧
      List.Forall₂ Passage.SameConduct (c.passagesOf d false es)
        (c.carryAll d (c.unrefused d es)) := by
  obtain ⟨hapart, hsame, hunspoken⟩ := hready.apart.carryAll ⟨l, hready.made, htimely⟩ hsmooth
  exact ⟨d.outbound_eq_error_iff, hunspoken, hapart.breaker.closed, hapart.breaker.closed',
    hapart.breaker.failures_eq, hsame⟩

/-- A venue without amendments, at which the ids of orders are numbers. -/
def numbered : Dialect := .grvt .full "main" ""

def numberedDesk (threshold ratePerSecond : Nat) : Coordinator Rat where
  venues := [.grvt]
  registry := .ofConfig
    { breaker := ⟨threshold, .ofSeconds 60⟩
      retry := ⟨0, .zero, .zero, 1, 0⟩
      ratePerSecond
      deadLetterCapacity := 5 }

/-- The desk after its service has been configured, with the limits that it has anyway. -/
def configuredDesk (threshold ratePerSecond : Nat) : Coordinator Rat :=
  let c := numberedDesk threshold ratePerSecond
  { c with
    registry := c.registry.configure numbered.service (c.registry.limitsFor numbered.service) }

def orderOf (id : String) : OrderRequest Rat :=
  ⟨id, .grvt, "BTC_USDT_Perp", .buy, .limit, 10, 5⟩

/-- Enough steps for one instruction, all at one time. -/
def meets (elapsed : Nat) (outcome : Except GatewayError Unit) : List (Circumstance Rat) :=
  List.replicate 6 ⟨⟨elapsed, 1⟩, 0, outcome⟩

/-- An order, an amendment of it, an order whose id is no number, and a cancellation of the first
one. -/
def mixedErrands (cancelled : Except GatewayError Unit) : List (Errand Rat) :=
  [⟨.send (orderOf "1"), meets 0 (.ok ())⟩, ⟨.modify "1" 20 none, meets 0 (.ok ())⟩,
    ⟨.send (orderOf "x"), meets 0 (.ok ())⟩, ⟨.cancel "1", meets 0 cancelled⟩]

/-- An order whose id is no number, and two others one and a half and 2.2 seconds later. -/
def spacedErrands : List (Errand Rat) :=
  [⟨.send (orderOf "x"), meets 0 (.ok ())⟩, ⟨.send (orderOf "1"), meets 1500000000 (.ok ())⟩,
    ⟨.send (orderOf "2"), meets 2200000000 (.ok ())⟩]

theorem refusals_weigh_as_failures_mixedErrands :
    let c := configuredDesk 5 10
    let es := mixedErrands (.error ⟨.api, "unknown order", []⟩)
    c.heardAll numbered es = [.succeeded, .refused, .refused, .failed] ∧
      ((c.afterAll numbered es).registry.breaker numbered.service).failures = 3 ∧
      ((c.afterAll numbered (c.unrefused numbered es)).registry.breaker
        numbered.service).failures = 1 := by
  intro c es
  have hheard : c.heardAll numbered es = [.succeeded, .refused, .refused, .failed] := by
    decide +kernel
  have hfull : ((c.afterAll numbered es).registry.breaker numbered.service).failures = 3 := by
    decide +kernel
  let l : Limiter := { name := numbered.service, maxPerSecond := 10 }
  have hready : c.Ready numbered l :=
    ⟨fun venue hv => List.mem_singleton.mp hv, by decide, by decide, by decide, by decide,
      by decide⟩
  have htimely : l.Timely (es.flatMap Errand.circumstances) :=
    ⟨by decide +kernel, by decide +kernel, by decide +kernel⟩
  have hsmooth : ∀ p ∈ c.carryAll numbered es, p.Smooth := by decide +kernel
  obtain ⟨-, -, -, -, hfailures, -⟩ :=
    refusals_weigh_as_failures numbered c l es hready htimely hsmooth
  have howed : [Heard.succeeded, .refused, .refused, .failed].foldl Heard.owed 0 = 2 := rfl
  rw [hfull, hheard, howed] at hfailures
  exact ⟨hheard, hfull, by omega⟩

/-- Two refusals open a breaker at its second failure, and take two calls out of three; either way
the cancellation is no longer let through. Without the refused errands the breaker is closed and has
no failures, and the venue gets the cancellation. And where a refused order is the first to ask for
the limiter, the windows start with it: the two orders after it fall into different ones. Without it
they start with the first of the two, and the second one is over the limit. -/
theorem refusals_trip_breaker :
    let es := mixedErrands (.ok ())
    let strict := numberedDesk 2 10
    let scarce := numberedDesk 5 3
    let single := numberedDesk 5 1
    let breakerAfter (c : Coordinator Rat) (es : List (Errand Rat)) : Breaker :=
      (c.afterAll numbered es).registry.breaker numbered.service
    (breakerAfter strict es).state = .open ∧ (breakerAfter strict es).failures = 2 ∧
      (breakerAfter strict (strict.unrefused numbered es)).state = .closed ∧
      (breakerAfter strict (strict.unrefused numbered es)).failures = 0 ∧
      (strict.passagesOf numbered false es).map (·.calls.length) = [1, 0] ∧
      (strict.carryAll numbered (strict.unrefused numbered es)).map (·.calls.length) = [1, 1] ∧
      (scarce.passagesOf numbered false es).map (·.calls.length) = [1, 0] ∧
      (scarce.carryAll numbered (scarce.unrefused numbered es)).map (·.calls.length) = [1, 1] ∧
      (single.passagesOf numbered false spacedErrands).map (·.calls.length) = [1, 1] ∧
      (single.carryAll numbered (single.unrefused numbered spacedErrands)).map (·.calls.length) =
        [1, 0] := by
  decide +kernel

end Coordinator

end VenueGateway
