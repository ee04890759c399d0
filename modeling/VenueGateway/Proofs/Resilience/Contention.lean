import Mathlib.Data.List.Induction
import Mathlib.Data.List.Nodup
import VenueGateway.Proofs.Resilience.Allowance

namespace VenueGateway

namespace Limiter

variable {l : Limiter} {now new : UInt64}

/-- The window that a call counts in: the one on its clock, unless the word is further. -/
def windowFor (slot now : UInt64) : UInt64 := max now (windowOf slot)

theorem toNat_max (a b : UInt64) : (max a b).toNat = max a.toNat b.toNat := by
  change (if a ≤ b then b else a).toNat = max a.toNat b.toNat
  split <;> rename_i h <;> rw [UInt64.le_iff_toNat_le] at h <;> omega

theorem toNat_windowFor (slot now : UInt64) :
    (windowFor slot now).toNat = max now.toNat (windowOf slot).toNat := toNat_max ..

theorem windowOf_le_windowFor (slot now : UInt64) : windowOf slot ≤ windowFor slot now := by
  rw [UInt64.le_iff_toNat_le, toNat_windowFor]
  omega

/-- Both halves of a word have 32 bits. -/
theorem windowFor_lt {slot : UInt64} (hnow : now < 0x100000000) :
    windowFor slot now < 0x100000000 := by
  have hslot := slot.toNat_lt
  rw [UInt64.lt_iff_toNat_lt] at hnow ⊢
  change now.toNat < 2 ^ 32 at hnow
  change _ < 2 ^ 32
  rw [toNat_windowFor, toNat_windowOf]
  omega

theorem propose_windowFor (limit : Nat) (slot now : UInt64) :
    propose limit slot (windowFor slot now) = propose limit slot now := by
  have hmax : max (windowFor slot now) (windowOf slot) = max now (windowOf slot) := by
    apply UInt64.toNat_inj.mp
    rw [toNat_max, toNat_windowFor, toNat_max]
    omega
  unfold propose
  rw [hmax]

theorem propose_eq (l : Limiter) (now : UInt64) :
    propose l.maxPerSecond l.slot now =
      if l.maxPerSecond ≤ (l.taken (windowFor l.slot now)).toNat then none
      else some (pack (windowFor l.slot now) (l.taken (windowFor l.slot now) + 1)) := by
  rw [← propose_windowFor]
  exact propose_of_le (windowOf_le_windowFor ..)

/-- What is put in place of a word names the call's window and counts one call more. -/
theorem of_propose (hlimit : l.maxPerSecond < 2 ^ 32) (hnow : now < 0x100000000)
    (h : propose l.maxPerSecond l.slot now = some new) :
    windowOf new = windowFor l.slot now ∧
      (l.taken (windowFor l.slot now)).toNat < l.maxPerSecond ∧
      (countOf new).toNat = (l.taken (windowFor l.slot now)).toNat + 1 := by
  rw [propose_eq, Option.ite_none_left_eq_some, Option.some.injEq] at h
  obtain ⟨hroom, rfl⟩ := h
  refine ⟨windowOf_pack (windowFor_lt hnow) _, Nat.lt_of_not_le hroom, ?_⟩
  rw [toNat_countOf_pack, UInt64.toNat_add]
  have hone : (1 : UInt64).toNat = 1 := rfl
  omega

end Limiter

/-- How far a call has come, with the word that it has read last. -/
inductive Progress where
  | arrived
  | holding (word : UInt64)
  | granted
  | refused (word : UInt64)
deriving DecidableEq, Repr

/-- A call at a limiter, with the window on its clock. -/
structure Caller where
  now : UInt64
  progress : Progress := .arrived
deriving DecidableEq, Repr

/-- A call that is let through, and the word that it has left. -/
structure Grant where
  call : Nat
  now : UInt64
  word : UInt64
deriving DecidableEq, Repr

inductive ContentionEvent where
  | arrive (now : UInt64)
  | read (call : Nat)
  | exchange (call : Nat)
  /-- An exchange may fail although the word is as it was. -/
  | lose (call : Nat)
deriving DecidableEq, Repr

def ContentionEvent.call? : ContentionEvent → Option Nat
  | .arrive _ => none
  | .read i | .exchange i | .lose i => some i

/-- A limiter with the calls that have come to it, numbered as they arrive, and those let
through. -/
structure Contention where
  limiter : Limiter
  callers : List Caller := []
  grants : List Grant := []
deriving DecidableEq, Repr

namespace Contention

def fresh (name : String) (limit : Nat) : Contention where
  limiter := { name, maxPerSecond := limit }

/-- A call has read the word, and goes on only if there is room. -/
def see (c : Contention) (i : Nat) (now : UInt64) : Contention :=
  let word := c.limiter.slot
  let progress : Progress :=
    if (Limiter.propose c.limiter.maxPerSecond word now).isSome then .holding word
    else .refused word
  { c with callers := c.callers.set i ⟨now, progress⟩ }

/-- A call has put a word in place. -/
def grant (c : Contention) (i : Nat) (now word : UInt64) : Contention where
  limiter := { c.limiter with slot := word }
  callers := c.callers.set i ⟨now, .granted⟩
  grants := c.grants ++ [⟨i, now, word⟩]

def step (c : Contention) (e : ContentionEvent) : Option Contention :=
  match e, e.call?.bind (c.callers[·]?) with
  | .arrive now, _ => some { c with callers := c.callers ++ [⟨now, .arrived⟩] }
  | .read i, some ⟨now, .arrived⟩ => some (c.see i now)
  | .exchange i, some ⟨now, .holding word⟩ =>
    (Limiter.propose c.limiter.maxPerSecond word now).map fun new =>
      match c.limiter.exchange word new with
      | .ok l => c.grant i now l.slot
      | .error _ => c.see i now
  | .lose i, some ⟨now, .holding _⟩ => some (c.see i now)
  | _, _ => none

def run (c : Contention) (es : List ContentionEvent) : Option Contention := es.foldlM step c

/-- The calls let through that have left this window in the word. -/
def grantsIn (c : Contention) (window : UInt64) : Nat :=
  c.grants.countP (Limiter.windowOf ·.word = window)

/-- The latest window among those on the clocks of the calls let through. -/
def latest (c : Contention) : UInt64 := c.grants.foldl (fun w g => max g.now w) 0

variable {c d : Contention} {e : ContentionEvent} {es : List ContentionEvent}

theorem run_cons (c : Contention) (e : ContentionEvent) (es : List ContentionEvent) :
    c.run (e :: es) = (c.step e).bind (·.run es) := List.foldlM_cons

theorem run_concat (c : Contention) (es : List ContentionEvent) (e : ContentionEvent) :
    c.run (es ++ [e]) = (c.run es).bind (·.step e) := by
  unfold run
  rw [List.foldlM_append]
  simp

theorem run_append (c : Contention) (es es' : List ContentionEvent) :
    c.run (es ++ es') = (c.run es).bind (·.run es') := List.foldlM_append

/-- All that a step can do. -/
inductive Turns (c : Contention) : ContentionEvent → Contention → Prop
  | arrive (now : UInt64) :
      Turns c (.arrive now) { c with callers := c.callers ++ [⟨now, .arrived⟩] }
  | see {e : ContentionEvent} {i : Nat} {caller : Caller} (hcall : e.call? = some i)
      (h : c.callers[i]? = some caller) (hopen : caller.progress ≠ .granted) :
      Turns c e (c.see i caller.now)
  | grant {i : Nat} {now new : UInt64} (h : c.callers[i]? = some ⟨now, .holding c.limiter.slot⟩)
      (hnew : Limiter.propose c.limiter.maxPerSecond c.limiter.slot now = some new) :
      Turns c (.exchange i) (c.grant i now new)

theorem step_turns (h : c.step e = some d) : c.Turns e d := by
  unfold step at h
  split at h
  case h_1 _ now =>
    cases h
    exact .arrive now
  case h_2 i now hcaller =>
    cases h
    exact .see rfl hcaller (by simp)
  case h_3 i now word hcaller =>
    obtain ⟨new, hnew, rfl⟩ := Option.map_eq_some_iff.mp h
    by_cases hword : c.limiter.slot = word
    · subst hword
      simp only [Limiter.exchange, if_true]
      exact .grant hcaller hnew
    -- The word has changed: the exchange fails, and the call has seen the other word by that.
    · simp only [Limiter.exchange, if_neg hword]
      exact .see rfl hcaller (by simp)
  case h_4 i now word hcaller =>
    cases h
    exact .see rfl hcaller (by simp)
  case h_5 => cases h

/-- A call that nothing comes between takes of the limiter what one call at once does. -/
theorem run_alone (c : Contention) (now : UInt64) :
    ∃ d, d.limiter = (c.limiter.acquire now).2 ∧
      c.run (.arrive now :: .read c.callers.length ::
        if (c.limiter.acquire now).1 then [.exchange c.callers.length] else []) = some d := by
  cases h : Limiter.propose c.limiter.maxPerSecond c.limiter.slot now with
  | none => simp [run, step, see, Limiter.acquire, h, ContentionEvent.call?]
  | some new =>
    simp [run, step, see, grant, Limiter.acquire, Limiter.exchange, h, ContentionEvent.call?]

/-- The word says exactly which calls have been let through. -/
structure Exact (limit : Nat) (c : Contention) : Prop where
  limit_eq : c.limiter.maxPerSecond = limit
  clock : ∀ caller ∈ c.callers, caller.now < 0x100000000
  /-- The upper half is a window that a call has brought, nothing that the lower half has
  spilled. -/
  window : Limiter.windowOf c.limiter.slot = c.latest
  count : (Limiter.countOf c.limiter.slot).toNat = c.grantsIn c.latest
  past : ∀ g ∈ c.grants, Limiter.windowOf g.word ≤ c.latest
  ceiling : ∀ w, c.grantsIn w ≤ limit
  once : (c.grants.map (·.call)).Nodup
  granted : ∀ i, i ∈ c.grants.map (·.call) ↔ ∃ now, c.callers[i]? = some ⟨now, .granted⟩

variable {limit : Nat}

theorem grantsIn_grant (c : Contention) (i : Nat) (now word w : UInt64) :
    (c.grant i now word).grantsIn w =
      c.grantsIn w + if Limiter.windowOf word = w then 1 else 0 := by
  simp only [grantsIn, grant, List.countP_append, List.countP_singleton, decide_eq_true_eq]

theorem latest_grant (c : Contention) (i : Nat) (now word : UInt64) :
    (c.grant i now word).latest = max now c.latest := by
  simp [latest, grant]

theorem calls_grant (c : Contention) (i : Nat) (now word : UInt64) :
    (c.grant i now word).grants.map (·.call) = c.grants.map (·.call) ++ [i] := by
  simp [grant]

/-- What a call finds taken of its window is what has been granted in it. -/
theorem Exact.taken (h : c.Exact limit) {w : UInt64} (hw : c.latest ≤ w) :
    (c.limiter.taken w).toNat = c.grantsIn w := by
  unfold Limiter.taken
  rw [h.window]
  by_cases hsame : w = c.latest
  · rw [if_pos hsame, hsame]
    exact h.count
  · rw [if_neg hsame]
    symm
    apply List.countP_eq_zero.mpr
    intro g hg hword
    have hpast := h.past g hg
    rw [of_decide_eq_true hword] at hpast
    exact hsame (UInt64.le_antisymm hpast hw)

theorem exact_fresh (name : String) (limit : Nat) : (fresh name limit).Exact limit where
  limit_eq := rfl
  clock := by simp [fresh]
  window := show Limiter.windowOf 0 = 0 by decide
  count := by simp [fresh, grantsIn, Limiter.toNat_countOf]
  past := by simp [fresh]
  ceiling w := Nat.zero_le _
  once := List.nodup_nil
  granted i := by simp [fresh]

theorem Exact.arrive (h : c.Exact limit) {now : UInt64} (hnow : now < 0x100000000) :
    ({ c with callers := c.callers ++ [⟨now, .arrived⟩] } : Contention).Exact limit :=
  { h with
    clock := by
      intro caller hcaller
      rcases List.mem_append.mp hcaller with hold | hnew
      · exact h.clock caller hold
      · rw [List.mem_singleton.mp hnew]
        exact hnow
    granted := by
      intro i
      rw [h.granted i]
      rcases Nat.lt_trichotomy i c.callers.length with hlt | heq | hgt
      · rw [List.getElem?_append_left hlt]
      · subst heq
        simp
      · rw [List.getElem?_eq_none (by omega), List.getElem?_eq_none (by simp; omega)] }

/-- A caller that has not been let through gets another record. -/
theorem granted_set {i : Nat} {caller : Caller} (h : c.callers[i]? = some caller)
    (hopen : caller.progress ≠ .granted) (new : Caller) (j : Nat) :
    (∃ now, (c.callers.set i new)[j]? = some ⟨now, .granted⟩) ↔
      (j = i ∧ new.progress = .granted) ∨ ∃ now, c.callers[j]? = some ⟨now, .granted⟩ := by
  have hi : i < c.callers.length := (List.getElem?_eq_some_iff.mp h).1
  by_cases hj : j = i
  · subst hj
    rw [List.getElem?_set_self hi, h]
    obtain ⟨now, progress⟩ := new
    obtain ⟨now', progress'⟩ := caller
    simp_all
  · rw [List.getElem?_set_ne (Ne.symm hj)]
    simp [hj]

theorem Exact.see (h : c.Exact limit) {i : Nat} {caller : Caller}
    (hcaller : c.callers[i]? = some caller) (hopen : caller.progress ≠ .granted) :
    (c.see i caller.now).Exact limit :=
  { h with
    clock := by
      intro other hother
      rcases List.mem_or_eq_of_mem_set hother with hold | rfl
      · exact h.clock other hold
      · exact h.clock caller (List.mem_of_getElem? hcaller)
    granted := by
      intro j
      rw [Contention.see, granted_set hcaller hopen, ← h.granted j]
      split <;> simp }

theorem Exact.grant (h : c.Exact limit) (hlimit : limit < 2 ^ 32) {i : Nat} {now new : UInt64}
    (hcaller : c.callers[i]? = some ⟨now, .holding c.limiter.slot⟩)
    (hnew : Limiter.propose c.limiter.maxPerSecond c.limiter.slot now = some new) :
    (c.grant i now new).Exact limit := by
  have hnow : now < 0x100000000 := h.clock _ (List.mem_of_getElem? hcaller)
  obtain ⟨hwindow, hroom, hcount⟩ := Limiter.of_propose (h.limit_eq ▸ hlimit) hnow hnew
  have hlatest : Limiter.windowFor c.limiter.slot now = (c.grant i now new).latest := by
    rw [latest_grant, Limiter.windowFor, h.window]
  rw [hlatest] at hwindow hroom hcount
  have hle : c.latest ≤ (c.grant i now new).latest := by
    rw [← hlatest, ← h.window]
    exact Limiter.windowOf_le_windowFor ..
  -- The proposal was made on the word the limiter still holds, so the count in it is the number of
  -- grants of that window.
  rw [h.taken hle] at hroom hcount
  have hfresh : i ∉ c.grants.map (·.call) := by
    rw [h.granted i]
    simp [hcaller]
  constructor
  case limit_eq => exact h.limit_eq
  case clock =>
    intro other hother
    rcases List.mem_or_eq_of_mem_set hother with hold | rfl
    · exact h.clock other hold
    · exact hnow
  case window => exact hwindow
  case count =>
    rw [grantsIn_grant, if_pos hwindow]
    exact hcount
  case past =>
    intro g hg
    rcases List.mem_append.mp hg with hold | hlast
    · exact UInt64.le_trans (h.past g hold) hle
    · rw [List.mem_singleton.mp hlast]
      exact hwindow ▸ UInt64.le_refl _
  case ceiling =>
    intro w
    rw [grantsIn_grant]
    split
    · subst w
      rw [hwindow]
      have hmax := h.limit_eq
      omega
    · exact h.ceiling w
  case once =>
    rw [calls_grant, ← List.concat_eq_append]
    exact List.Nodup.concat hfresh h.once
  case granted =>
    intro j
    rw [calls_grant, Contention.grant, granted_set hcaller (by simp), ← h.granted j]
    simp [or_comm]

theorem Exact.step (h : c.Exact limit) (hlimit : limit < 2 ^ 32)
    (hclock : ∀ now, e = .arrive now → now < 0x100000000) (hstep : c.step e = some d) :
    d.Exact limit := by
  cases step_turns hstep with
  | arrive now => exact h.arrive (hclock now rfl)
  | see _ hcaller hopen => exact h.see hcaller hopen
  | grant hcaller hnew => exact h.grant hlimit hcaller hnew

/-- The word never goes back to an earlier window. -/
theorem Exact.latest_le_step (h : c.Exact limit) (hstep : c.step e = some d) :
    c.latest ≤ d.latest := by
  cases step_turns hstep with
  | arrive now => exact UInt64.le_refl _
  | see _ _ _ => exact UInt64.le_refl _
  | @grant i now new hcaller hnew =>
    rw [latest_grant, ← h.window]
    exact Limiter.windowOf_le_windowFor ..

theorem Exact.run (h : c.Exact limit) (hlimit : limit < 2 ^ 32)
    (hclock : ∀ now, .arrive now ∈ es → now < 0x100000000) (hrun : c.run es = some d) :
    d.Exact limit ∧ c.latest ≤ d.latest := by
  induction es generalizing c with
  | nil =>
    cases hrun
    exact ⟨h, UInt64.le_refl _⟩
  | cons e es ih =>
    rw [run_cons, Option.bind_eq_some_iff] at hrun
    obtain ⟨c', hstep, hrest⟩ := hrun
    have h' := h.step hlimit (fun now he => hclock now (he ▸ List.mem_cons_self)) hstep
    obtain ⟨hd, hle⟩ := ih h' (fun now hmem => hclock now (List.mem_cons_of_mem _ hmem)) hrest
    exact ⟨hd, UInt64.le_trans (h.latest_le_step hstep) hle⟩

/-- A call that has been let through is done. -/
theorem granted_run {i : Nat} (h : ∃ now, c.callers[i]? = some ⟨now, .granted⟩)
    (hrun : c.run es = some d) : ∃ now, d.callers[i]? = some ⟨now, .granted⟩ := by
  induction es generalizing c with
  | nil =>
    cases hrun
    exact h
  | cons e es ih =>
    rw [run_cons, Option.bind_eq_some_iff] at hrun
    obtain ⟨c', hstep, hrest⟩ := hrun
    refine ih ?_ hrest
    -- No step takes a grant back: a new caller stands behind the others, and only callers with an
    -- open call are changed.
    cases step_turns hstep with
    | arrive now =>
      obtain ⟨since, hcaller⟩ := h
      exact ⟨since, by
        rw [List.getElem?_append_left (List.getElem?_eq_some_iff.mp hcaller).1, hcaller]⟩
    | see _ hcaller hopen => exact (granted_set hcaller hopen _ i).mpr (.inr h)
    | grant hcaller _ => exact (granted_set hcaller (by simp) _ i).mpr (.inr h)

/-- What a call that is refused has come across: a word whose window was full, when it read it. -/
structure FoundFull (limit : Nat) (start : Contention) (es : List ContentionEvent) (i : Nat)
    (now word : UInt64) : Prop where
  full : ∃ es₁ e es₂ c, es = es₁ ++ e :: es₂ ∧ e.call? = some i ∧ start.run es₁ = some c ∧
    c.limiter.slot = word ∧ c.grantsIn (Limiter.windowFor word now) = limit
  idle : ∀ es₁ e es₂ c d, es = es₁ ++ e :: es₂ → e.call? = some i → start.run es₁ = some c →
    c.step e = some d → d.limiter.slot = c.limiter.slot

/-- A word that leaves no room says that the ceiling is reached. -/
theorem Exact.full (h : c.Exact limit) {now : UInt64}
    (hnone : Limiter.propose c.limiter.maxPerSecond c.limiter.slot now = none) :
    c.grantsIn (Limiter.windowFor c.limiter.slot now) = limit := by
  have hle : c.latest ≤ Limiter.windowFor c.limiter.slot now :=
    h.window ▸ Limiter.windowOf_le_windowFor ..
  rw [Limiter.propose_eq, ite_eq_left_iff, h.taken hle, h.limit_eq] at hnone
  have hfull : limit ≤ c.grantsIn (Limiter.windowFor c.limiter.slot now) := by
    by_contra hroom
    exact Option.some_ne_none _ (hnone hroom)
  exact Nat.le_antisymm (h.ceiling _) hfull

/-- A call is refused by the word that it has just read. -/
theorem refused_step {i : Nat} {now word : UInt64} (hstep : c.step e = some d)
    (h : d.callers[i]? = some ⟨now, .refused word⟩) :
    c.callers[i]? = some ⟨now, .refused word⟩ ∨
      e.call? = some i ∧ c.limiter.slot = word ∧
        Limiter.propose c.limiter.maxPerSecond c.limiter.slot now = none := by
  -- Only looking at the word refuses, and it refuses the caller that looks.
  cases step_turns hstep with
  | arrive since =>
    left
    rcases Nat.lt_or_ge i c.callers.length with hlt | hge
    · rwa [List.getElem?_append_left hlt] at h
    · rw [List.getElem?_append_right hge] at h
      have hlast := List.mem_of_getElem? h
      simp at hlast
  | @see _ j caller hcall hcaller hopen =>
    by_cases hj : j = i
    · subst hj
      right
      have hlt := (List.getElem?_eq_some_iff.mp hcaller).1
      simp only [see, List.getElem?_set_self hlt, Option.some.injEq, Caller.mk.injEq] at h
      obtain ⟨rfl, hprogress⟩ := h
      split at hprogress
      · cases hprogress
      · rename_i hnone
        exact ⟨hcall, Progress.refused.inj hprogress, by simpa using hnone⟩
    · left
      rwa [see, List.getElem?_set_ne hj] at h
  | @grant j since new hcaller hnew =>
    by_cases hj : j = i
    · subst hj
      rw [grant, List.getElem?_set_self (List.getElem?_eq_some_iff.mp hcaller).1] at h
      cases h
    · left
      rwa [grant, List.getElem?_set_ne hj] at h

theorem refused_run {name : String} {i : Nat} {now word : UInt64} (hlimit : limit < 2 ^ 32)
    (hclock : ∀ now, .arrive now ∈ es → now < 0x100000000)
    (hrun : (fresh name limit).run es = some c) (h : c.callers[i]? = some ⟨now, .refused word⟩) :
    ∃ es₁ e es₂ b, es = es₁ ++ e :: es₂ ∧ e.call? = some i ∧
      (fresh name limit).run es₁ = some b ∧ b.limiter.slot = word ∧
      b.grantsIn (Limiter.windowFor word now) = limit := by
  -- Induction from the end: the refusal is older than the last step, or the last step made it on
  -- the word that stood then.
  induction es using List.reverseRecOn generalizing c with
  | nil =>
    cases hrun
    simp [fresh] at h
  | append_singleton es e ih =>
    rw [run_concat, Option.bind_eq_some_iff] at hrun
    obtain ⟨b, hb, hstep⟩ := hrun
    have hclock' : ∀ now, .arrive now ∈ es → now < 0x100000000 :=
      fun now hmem => hclock now (List.mem_append_left _ hmem)
    rcases refused_step hstep h with hbefore | ⟨hcall, rfl, hnone⟩
    · obtain ⟨es₁, e', es₂, a, rfl, hcall, ha, hfull⟩ := ih hclock' hb hbefore
      exact ⟨es₁, e', es₂ ++ [e], a, by simp, hcall, ha, hfull⟩
    · have hexact := ((exact_fresh name limit).run hlimit hclock' hb).1
      exact ⟨es, e, [], b, rfl, hcall, hb, rfl, hexact.full hnone⟩

/-- Only a call that is let through changes the word. -/
theorem slot_eq_or_granted {i : Nat} (hstep : c.step e = some d) (hcall : e.call? = some i) :
    d.limiter.slot = c.limiter.slot ∨ ∃ now, d.callers[i]? = some ⟨now, .granted⟩ := by
  cases step_turns hstep with
  | arrive now => cases hcall
  | see _ _ _ => exact .inl rfl
  | @grant j now new hcaller _ =>
    obtain rfl : j = i := Option.some.inj hcall
    exact .inr ((granted_set hcaller (by simp) _ j).mpr (.inl ⟨rfl, rfl⟩))

theorem refused_idle {start : Contention} {i : Nat} {now word : UInt64}
    (hrun : start.run es = some c) (h : c.callers[i]? = some ⟨now, .refused word⟩)
    {es₁ es₂ : List ContentionEvent} {a b : Contention} (hes : es = es₁ ++ e :: es₂)
    (hcall : e.call? = some i) (ha : start.run es₁ = some a) (hstep : a.step e = some b) :
    b.limiter.slot = a.limiter.slot := by
  rcases slot_eq_or_granted hstep hcall with hslot | hgranted
  · exact hslot
  · subst hes
    rw [run_append, ha, Option.bind_some, run_cons, hstep, Option.bind_some] at hrun
    obtain ⟨since, hdone⟩ := granted_run hgranted hrun
    rw [h] at hdone
    cases hdone

/-- However calls contend, what the word says is exact: its window only goes on, no window sees more
grants than the limit, each grant counts once, and a call is refused by a full window only and
leaves no trace. -/
theorem grants_exact {name : String} (hlimit : limit < 2 ^ 32)
    (hclock : ∀ now, .arrive now ∈ es → now < 0x100000000)
    (hrun : (fresh name limit).run es = some c) :
    c.Exact limit ∧
      (∀ es₁ es₂ b, es = es₁ ++ es₂ → (fresh name limit).run es₁ = some b →
        Limiter.windowOf b.limiter.slot ≤ Limiter.windowOf c.limiter.slot) ∧
      ∀ i now word, c.callers[i]? = some ⟨now, .refused word⟩ →
        FoundFull limit (fresh name limit) es i now word := by
  have hfresh := exact_fresh name limit
  have hexact := (hfresh.run hlimit hclock hrun).1
  refine ⟨hexact, ?_, ?_⟩
  · rintro es₁ es₂ b rfl hb
    have hb' := (hfresh.run hlimit (fun now h => hclock now (List.mem_append_left _ h)) hb).1
    rw [run_append, hb, Option.bind_some] at hrun
    -- The window of the word is the latest one granted in, and that only grows along the run.
    rw [hb'.window, hexact.window]
    exact (hb'.run hlimit (fun now h => hclock now (List.mem_append_right _ h)) hrun).2
  · intro i now word h
    exact ⟨refused_run hlimit hclock hrun h, fun _ _ _ _ _ => refused_idle hrun h⟩

/-- Two calls on either side of a boundary, with room for one: the second has an older clock, loses
the exchange, and finds the new window full. -/
def boundary : List ContentionEvent :=
  [.arrive 4, .arrive 3, .read 0, .read 1, .exchange 0, .exchange 1]

theorem grants_exact_boundary :
    let c : Contention :=
      { limiter := { name := "orders", maxPerSecond := 1, slot := Limiter.pack 4 1 }
        callers := [⟨4, .granted⟩, ⟨3, .refused (Limiter.pack 4 1)⟩]
        grants := [⟨0, 4, Limiter.pack 4 1⟩] }
    (fresh "orders" 1).run boundary = some c ∧ c.Exact 1 ∧
      FoundFull 1 (fresh "orders" 1) boundary 1 3 (Limiter.pack 4 1) := by
  have hrun : (fresh "orders" 1).run boundary = some
      { limiter := { name := "orders", maxPerSecond := 1, slot := Limiter.pack 4 1 }
        callers := [⟨4, .granted⟩, ⟨3, .refused (Limiter.pack 4 1)⟩]
        grants := [⟨0, 4, Limiter.pack 4 1⟩] } := by decide
  have hclock : ∀ now, .arrive now ∈ boundary → now < 0x100000000 := by
    intro now h
    simp [boundary] at h
    rcases h with rfl | rfl <;> decide
  obtain ⟨hexact, -, hrefused⟩ := grants_exact (by decide) hclock hrun
  exact ⟨hrun, hexact, hrefused 1 3 _ rfl⟩

end Contention

end VenueGateway
