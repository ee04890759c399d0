import Mathlib.Algebra.Order.Floor.Semiring
import Mathlib.Data.Rat.Floor
import Mathlib.Tactic.NormNum
import VenueGateway.Session.Reconnect

namespace VenueGateway

namespace Factor

/-- What squaring keeps: the lowest bit of the exponent goes to the product in front. -/
theorem mul_square_pow (acc base : Rat) (n : Nat) :
    (if n % 2 = 1 then acc * base else acc) * (base * base) ^ (n / 2) = acc * base ^ n := by
  have hsquare : (base * base) ^ (n / 2) = base ^ (2 * (n / 2)) := by
    rw [← pow_two, ← pow_mul]
  rw [hsquare]
  split
  · have hodd : n = 2 * (n / 2) + 1 := by omega
    calc acc * base * base ^ (2 * (n / 2))
        = acc * base ^ (2 * (n / 2) + 1) := by rw [mul_assoc, ← pow_succ']
      _ = acc * base ^ n := by rw [← hodd]
  · have heven : 2 * (n / 2) = n := by omega
    rw [heven]

theorem powerFrom_eq (acc base : Rat) (n : Nat) : powerFrom acc base n = acc * base ^ n := by
  fun_induction powerFrom acc base n with
  | case1 acc base n next h =>
    have hlast := mul_square_pow acc base n
    rw [h, pow_zero, mul_one] at hlast
    exact hlast
  | case2 acc base n next h ih =>
    rw [ih]
    exact mul_square_pow acc base n

theorem power_natCast (base : Rat) (n : Nat) : power base (n : Int) = base ^ n := by
  have hsign : ¬(n : Int) < 0 := by omega
  have hone : powerFrom 1 base n = 1 * base ^ n := powerFrom_eq 1 base n
  simp only [power, hsign, if_false, Int.natAbs_natCast]
  rw [hone, one_mul]

theorem wholeBelow_eq (bound : Nat) (x : Rat) : wholeBelow bound x = min bound ⌊x⌋₊ := rfl

theorem lesser_eq (a b : Rat) : lesser a b = min a b := rfl

theorem atLeastOne_of_le {a : Rat} (h : 1 ≤ a) : atLeastOne a = a := by
  rcases h.lt_or_eq with hlt | rfl
  · exact if_pos hlt
  · exact if_neg (lt_irrefl 1)

end Factor

/-- Something that is asked of a source of delays. -/
inductive DelayCall where
  | next (noise : Rat)
  | reset

namespace DelayCall

def count : Nat → DelayCall → Nat
  | n, .next _ => n + 1
  | _, .reset => 0

/-- How many delays were asked for since the last reset. -/
def sinceReset (calls : List DelayCall) : Nat := calls.foldl count 0

end DelayCall

/-- What hands out delays, and can be told to start again. -/
structure DelaySource (σ : Type) where
  next : σ → Rat → Option Nat × σ
  reset : σ → σ

namespace DelaySource

variable {σ : Type}

def step (source : DelaySource σ) (s : σ) : DelayCall → σ
  | .next noise => (source.next s noise).2
  | .reset => source.reset s

/-- What comes of asking for a delay after some calls. -/
def answer (source : DelaySource σ) (start : σ) (calls : List DelayCall) (noise : Rat) :
    Option Nat :=
  (source.next (calls.foldl source.step start) noise).1

/-- The states of a source are numbered up to a limit, by the delays that it has handed out. -/
structure Counts (source : DelaySource σ) (state : Nat → σ) (limit : Nat) (delay : Nat → Nat) :
    Prop where
  within : ∀ k < limit, ∀ noise, source.next (state k) noise = (some (delay k), state (k + 1))
  beyond : ∀ noise, source.next (state limit) noise = (none, state limit)
  reset : ∀ k ≤ limit, source.reset (state k) = state 0

variable {source : DelaySource σ} {state : Nat → σ} {limit : Nat} {delay : Nat → Nat}

/-- One call more: a source that is used up stays at its limit, however often it is asked. -/
theorem Counts.step (h : source.Counts state limit delay) (k : Nat) (call : DelayCall) :
    source.step (state (min k limit)) call = state (min (call.count k) limit) := by
  cases call with
  | reset =>
    rw [DelayCall.count, Nat.zero_min]
    exact h.reset _ (min_le_right k limit)
  | next noise =>
    rw [DelaySource.step, DelayCall.count]
    by_cases hk : k < limit
    · rw [min_eq_left hk.le, min_eq_left (Nat.succ_le_of_lt hk), h.within k hk]
    · have hle : limit ≤ k := Nat.le_of_not_lt hk
      rw [min_eq_right hle, min_eq_right (Nat.le_succ_of_le hle), h.beyond]

theorem Counts.answer (h : source.Counts state limit delay) (calls : List DelayCall)
    (noise : Rat) :
    source.answer (state 0) calls noise =
      if DelayCall.sinceReset calls < limit then some (delay (DelayCall.sinceReset calls))
      else none := by
  have hstart : state 0 = state (min 0 limit) := by rw [Nat.zero_min]
  -- Along the calls, the number of the state is the count of the delays since the last reset.
  have hrun : calls.foldl source.step (state (min 0 limit)) =
      state (min (DelayCall.sinceReset calls) limit) :=
    List.foldl_hom (fun k => state (min k limit)) h.step
  rw [DelaySource.answer, hstart, hrun]
  split
  · next hk => rw [min_eq_left hk.le, h.within _ hk]
  · next hk => rw [min_eq_right (Nat.le_of_not_lt hk), h.beyond]

end DelaySource

/-- A delay that has grown a number of times, in whole milliseconds. -/
def grownMillis (first ceiling : UInt64) (factor : Rat) (k : Nat) : Nat :=
  min ceiling.toNat ⌊(first.toNat : Rat) * factor ^ k⌋₊

theorem grownMillis_le (first ceiling : UInt64) (factor : Rat) (k : Nat) :
    grownMillis first ceiling factor k ≤ ceiling.toNat := min_le_left ..

theorem grownMillis_mono (first ceiling : UInt64) {factor : Rat} (h : 1 ≤ factor) :
    Monotone (grownMillis first ceiling factor) := by
  intro i j hij
  have hpow : factor ^ i ≤ factor ^ j := pow_le_pow_right₀ h hij
  have hgrown : (first.toNat : Rat) * factor ^ i ≤ first.toNat * factor ^ j :=
    mul_le_mul_of_nonneg_left hpow (Nat.cast_nonneg _)
  exact min_le_min_left _ (Nat.floor_mono hgrown)

theorem millis_ofMillis (n : Nat) : (Duration.ofMillis n).millis = n :=
  Nat.mul_div_cancel n (by decide)

theorem wordMillis_ofMillis (n : UInt64) : (Duration.ofMillis n.toNat).wordMillis = n.toNat := by
  rw [Duration.wordMillis, millis_ofMillis]
  exact Nat.mod_eq_of_lt n.toNat_lt

theorem min_maxMillis (n : UInt64) (m : Nat) : min maxMillis (min n.toNat m) = min n.toNat m := by
  have hword : n.toNat ≤ maxMillis := Nat.le_sub_one_of_lt n.toNat_lt
  exact min_eq_right ((min_le_left _ _).trans hword)

variable {first ceiling : UInt64} {factor : Rat} {limit : Nat}

namespace Backoff

def source : DelaySource (Backoff Rat) := ⟨next, reset⟩

/-- Without jitter, at an attempt. -/
def steadyAt (first ceiling : UInt64) (factor : Rat) (limit k : Nat) : Backoff Rat where
  policy := ⟨limit, .ofMillis first.toNat, .ofMillis ceiling.toNat, factor, 0⟩
  attempt := k

theorem next_of_le {b : Backoff Rat} (h : b.policy.maxRetries ≤ b.attempt) (noise : Rat) :
    b.next noise = (none, b) := if_pos h

theorem next_of_lt {b : Backoff Rat} (h : b.attempt < b.policy.maxRetries)
    (hjitter : b.policy.jitter = 0) (noise : Rat) :
    b.next noise = (some (min b.baseMillis b.policy.maxDelay.wordMillis),
      { b with attempt := b.attempt + 1 }) := by
  have hsteady : b.jittered noise b.baseMillis = b.baseMillis := if_pos (.inl hjitter.le)
  rw [next, if_neg (Nat.not_le.mpr h), hsteady]

theorem exponent_of_lt {b : Backoff Rat} (h : b.attempt < 2 ^ 31) : b.exponent = b.attempt := by
  rw [exponent]
  apply Int.bmod_eq_of_le_mul_two
  all_goals
    simp only [Text.bound32]
    omega

theorem baseMillis_steadyAt {k : Nat} (hk : k < 2 ^ 31) :
    (steadyAt first ceiling factor limit k).baseMillis = grownMillis first ceiling factor k := by
  have hexponent : (steadyAt first ceiling factor limit k).exponent = k := exponent_of_lt hk
  rw [baseMillis, hexponent, Factor.power_natCast, Factor.wholeBelow_eq]
  simp only [steadyAt, wordMillis_ofMillis]
  -- A ceiling is a word, so that the bound of words takes nothing more away.
  rw [min_assoc, min_comm ⌊_⌋₊]
  exact min_maxMillis ceiling _

theorem source_counts (hlimit : limit < 2 ^ 31) :
    source.Counts (steadyAt first ceiling factor limit) limit
      (grownMillis first ceiling factor) where
  within k hk noise := by
    have hceiling : (steadyAt first ceiling factor limit k).policy.maxDelay.wordMillis =
        ceiling.toNat := wordMillis_ofMillis ceiling
    change (steadyAt first ceiling factor limit k).next noise = _
    rw [next_of_lt hk rfl, baseMillis_steadyAt (hk.trans hlimit), hceiling,
      min_eq_left (grownMillis_le ..)]
    rfl
  beyond noise := next_of_le (le_refl limit) noise
  reset k _ := rfl

end Backoff

namespace ReconnectPolicy

def source : DelaySource (ReconnectPolicy Rat) := ⟨next, reset⟩

/-- Without jitter, at an attempt. -/
def steadyAt (first ceiling : UInt64) (factor : Rat) (limit k : Nat) : ReconnectPolicy Rat where
  initialDelay := .ofMillis first.toNat
  maxDelay := .ofMillis ceiling.toNat
  multiplier := factor
  jitter := false
  maxAttempts := limit
  attempt := k

theorem next_of_le {p : ReconnectPolicy Rat} (h : p.maxAttempts ≤ p.attempt) (noise : Rat) :
    p.next noise = (none, p) := if_pos h

theorem next_of_lt {p : ReconnectPolicy Rat} (h : p.attempt < p.maxAttempts)
    (hjitter : p.jitter = false) (noise : Rat) :
    p.next noise = (some (Factor.wholeBelow maxMillis p.cappedMillis),
      { p with attempt := p.attempt + 1 }) := by
  have hsteady : ¬(p.jitter = true ∧ 0 < p.cappedMillis) := by simp [hjitter]
  rw [next, if_neg (Nat.not_le.mpr h)]
  simp only [hsteady, if_false]

theorem cappedMillis_steadyAt {k : Nat} (hk : k < 2 ^ 31) (hfactor : 1 ≤ factor) :
    (steadyAt first ceiling factor limit k).cappedMillis =
      min ((first.toNat : Rat) * factor ^ k) ceiling.toNat := by
  have hexponent : (steadyAt first ceiling factor limit k).exponent = k := by
    simp only [exponent, steadyAt, maxExponent, Text.bound32]
    omega
  rw [cappedMillis, hexponent, Factor.power_natCast, Factor.lesser_eq]
  simp only [steadyAt, millis_ofMillis, Factor.atLeastOne_of_le hfactor]
  rfl

theorem floor_capped (k : Nat) :
    ⌊min ((first.toNat : Rat) * factor ^ k) ceiling.toNat⌋₊ =
      grownMillis first ceiling factor k := by
  rw [Nat.floor_mono.map_min, Nat.floor_natCast, min_comm]
  rfl

theorem source_counts (hfactor : 1 ≤ factor) (hlimit : limit < 2 ^ 31) :
    source.Counts (steadyAt first ceiling factor limit) limit
      (grownMillis first ceiling factor) where
  within k hk noise := by
    have hdelay : min maxMillis (grownMillis first ceiling factor k) =
        grownMillis first ceiling factor k := min_maxMillis ceiling _
    change (steadyAt first ceiling factor limit k).next noise = _
    rw [next_of_lt hk rfl, cappedMillis_steadyAt (hk.trans hlimit) hfactor,
      Factor.wholeBelow_eq, floor_capped, hdelay]
    rfl
  beyond noise := next_of_le (le_refl limit) noise
  reset k _ := rfl

end ReconnectPolicy

/-- After any calls both sources hand out the same delay. It grows with the delays handed out since
the last reset, up to the ceiling, and there are as many of them as attempts. -/
theorem backoffs_agree (first ceiling : UInt64) {factor : Rat} {limit : Nat}
    (hfactor : 1 ≤ factor) (hlimit : limit < 2 ^ 31) :
    let backoff : Backoff Rat :=
      { policy := ⟨limit, .ofMillis first.toNat, .ofMillis ceiling.toNat, factor, 0⟩ }
    let reconnects : ReconnectPolicy Rat :=
      ⟨.ofMillis first.toNat, .ofMillis ceiling.toNat, factor, false, limit, 0⟩
    let delay (k : Nat) : Nat := min ceiling.toNat ⌊(first.toNat : Rat) * factor ^ k⌋₊
    (∀ calls noise,
      let k := DelayCall.sinceReset calls
      let handed := if k < limit then some (delay k) else none
      Backoff.source.answer backoff calls noise = handed ∧
        ReconnectPolicy.source.answer reconnects calls noise = handed) ∧
    Monotone delay ∧ ∀ k, delay k ≤ ceiling.toNat := by
  intro backoff reconnects delay
  have hbackoff : Backoff.source.Counts (Backoff.steadyAt first ceiling factor limit) limit delay :=
    Backoff.source_counts hlimit
  have hreconnects : ReconnectPolicy.source.Counts
      (ReconnectPolicy.steadyAt first ceiling factor limit) limit delay :=
    ReconnectPolicy.source_counts hfactor hlimit
  exact ⟨fun calls noise => ⟨hbackoff.answer calls noise, hreconnects.answer calls noise⟩,
    grownMillis_mono first ceiling hfactor, grownMillis_le first ceiling factor⟩

/-- Delays of 5, 7, 11, 16 and 20 milliseconds: the fourth one after a reset, none after five. -/
theorem backoffs_agree_half_again :
    let backoff : Backoff Rat := { policy := ⟨5, .ofMillis 5, .ofMillis 20, 3 / 2, 0⟩ }
    let reconnects : ReconnectPolicy Rat := ⟨.ofMillis 5, .ofMillis 20, 3 / 2, false, 5, 0⟩
    let fourth : List DelayCall := [.next 0, .next 1, .reset, .next 0, .next 1, .next 0]
    let last : List DelayCall := fourth ++ [.next 0, .next 1]
    (1 : Rat) ≤ 3 / 2 ∧ 5 < 2 ^ 31 ∧
    Backoff.source.answer backoff fourth 0 = some 16 ∧
    ReconnectPolicy.source.answer reconnects fourth 0 = some 16 ∧
    Backoff.source.answer backoff last 0 = none ∧
    ReconnectPolicy.source.answer reconnects last 0 = none := by
  intro backoff reconnects fourth last
  have hfactor : (1 : Rat) ≤ 3 / 2 := by norm_num
  have hlimit : 5 < 2 ^ 31 := by norm_num
  obtain ⟨hanswers, -, -⟩ := backoffs_agree 5 20 hfactor hlimit
  have hfloor : ⌊(5 : Rat) * (3 / 2) ^ 3⌋₊ = 16 := by
    rw [Nat.floor_eq_iff (by norm_num)]
    norm_num
  have hfourth : min 20 ⌊((5 : Nat) : Rat) * (3 / 2) ^ 3⌋₊ = 16 := by
    rw [Nat.cast_ofNat, hfloor]
    rfl
  obtain ⟨hb, hr⟩ := hanswers fourth 0
  obtain ⟨hb', hr'⟩ := hanswers last 0
  exact ⟨hfactor, hlimit, hb.trans (congrArg some hfourth), hr.trans (congrArg some hfourth),
    hb', hr'⟩

end VenueGateway
