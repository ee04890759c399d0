import Mathlib.Algebra.Group.Nat.Defs
import VenueGateway.Resilience.Limiter

namespace VenueGateway.Limiter

theorem toNat_windowOf (slot : UInt64) : (windowOf slot).toNat = slot.toNat / 2 ^ 32 := by
  rw [windowOf, UInt64.toNat_shiftRight, Nat.shiftRight_eq_div_pow]
  rfl

theorem toNat_countOf (slot : UInt64) : (countOf slot).toNat = slot.toNat % 2 ^ 32 := by
  rw [countOf, UInt64.toNat_and]
  exact Nat.and_two_pow_sub_one_eq_mod slot.toNat 32

theorem toNat_pack (window count : UInt64) :
    (pack window count).toNat = window.toNat % 2 ^ 32 * 2 ^ 32 + count.toNat % 2 ^ 32 := by
  have hcount : (count &&& 0xFFFFFFFF).toNat = count.toNat % 2 ^ 32 := toNat_countOf count
  have hlow : count.toNat % 2 ^ 32 < 2 ^ 32 := Nat.mod_lt _ (by decide)
  have hwindow : (window <<< 32).toNat = (window.toNat % 2 ^ 32) <<< 32 := by
    have h : (window <<< 32).toNat = window.toNat <<< 32 % 2 ^ 64 := UInt64.toNat_shiftLeft ..
    rw [h, Nat.shiftLeft_eq, Nat.shiftLeft_eq]
    omega
  rw [pack, UInt64.toNat_or, hcount, hwindow, ← Nat.shiftLeft_add_eq_or_of_lt hlow,
    Nat.shiftLeft_eq]

theorem windowOf_pack {window : UInt64} (h : window < 0x100000000) (count : UInt64) :
    windowOf (pack window count) = window := by
  rw [UInt64.lt_iff_toNat_lt] at h
  change window.toNat < 2 ^ 32 at h
  apply UInt64.toNat_inj.mp
  rw [toNat_windowOf, toNat_pack, Nat.mod_eq_of_lt h]
  omega

theorem toNat_countOf_pack (window count : UInt64) :
    (countOf (pack window count)).toNat = count.toNat % 2 ^ 32 := by
  rw [toNat_countOf, toNat_pack]
  omega

variable {l l' : Limiter} {now : UInt64} {t : Nat}

/-- What has been taken of a window when a call comes in it. -/
def taken (l : Limiter) (now : UInt64) : UInt64 :=
  if now = windowOf l.slot then countOf l.slot else 0

theorem propose_of_le (hnow : windowOf l.slot ≤ now) :
    propose l.maxPerSecond l.slot now =
      if l.maxPerSecond ≤ (l.taken now).toNat then none else some (pack now (l.taken now + 1)) := by
  have hmax : max now (windowOf l.slot) = now := by
    change (if now ≤ windowOf l.slot then windowOf l.slot else now) = now
    split
    · exact UInt64.le_antisymm hnow ‹_›
    · rfl
  simp only [propose, hmax]
  rfl

/-- A call that is allowed, in a window that the word has not passed. -/
theorem check_of_ok (hnow : windowOf l.slot ≤ l.window t) (h : (l.check t).1 = .ok ()) :
    (l.taken (l.window t)).toNat < l.maxPerSecond ∧
      l.check t =
        (.ok (), { l with slot := pack (l.window t) (l.taken (l.window t) + 1) }, []) := by
  have hpropose := propose_of_le hnow
  by_cases hfull : l.maxPerSecond ≤ (l.taken (l.window t)).toNat
  · rw [if_pos hfull] at hpropose
    simp [check, acquire, hpropose] at h
  · rw [if_neg hfull] at hpropose
    exact ⟨Nat.lt_of_not_le hfull, by simp only [check, acquire, hpropose]⟩

theorem check_of_lt (hnow : windowOf l.slot ≤ l.window t)
    (h : (l.taken (l.window t)).toNat < l.maxPerSecond) : (l.check t).1 = .ok () := by
  have hpropose := propose_of_le hnow
  rw [if_neg (Nat.not_le.mpr h)] at hpropose
  simp only [check, acquire, hpropose]

/-- A call changes nothing of a limiter but its word. -/
theorem exists_check_eq (l : Limiter) (t : Nat) : ∃ slot, (l.check t).2.1 = { l with slot } := by
  unfold check acquire
  cases propose l.maxPerSecond l.slot (l.window t) with
  | none => exact ⟨l.slot, rfl⟩
  | some new => exact ⟨new, rfl⟩

theorem maxPerSecond_check (l : Limiter) (t : Nat) :
    (l.check t).2.1.maxPerSecond = l.maxPerSecond := by
  obtain ⟨slot, h⟩ := l.exists_check_eq t
  rw [h]

theorem origin_check (l : Limiter) (t : Nat) : (l.check t).2.1.origin = l.origin := by
  obtain ⟨slot, h⟩ := l.exists_check_eq t
  rw [h]

theorem windowOf_check (hnow : windowOf l.slot ≤ l.window t) (hword : l.window t < 0x100000000)
    (hok : (l.check t).1 = .ok ()) : windowOf (l.check t).2.1.slot = l.window t := by
  rw [(check_of_ok hnow hok).2]
  exact windowOf_pack hword _

theorem countOf_check (hnow : windowOf l.slot ≤ l.window t) (hlimit : l.maxPerSecond < 2 ^ 32)
    (hok : (l.check t).1 = .ok ()) :
    (countOf (l.check t).2.1.slot).toNat = (l.taken (l.window t)).toNat + 1 := by
  obtain ⟨hlt, hcheck⟩ := check_of_ok hnow hok
  rw [hcheck]
  refine (toNat_countOf_pack _ _).trans ?_
  rw [UInt64.toNat_add]
  have hone : (1 : UInt64).toNat = 1 := rfl
  omega

/-- A limiter made at the same time, which has given out no more of any window to come. -/
structure Lags (l l' : Limiter) : Prop where
  origin : l'.origin = l.origin
  limit : l'.maxPerSecond = l.maxPerSecond
  word : l.maxPerSecond < 2 ^ 32
  window : windowOf l'.slot ≤ windowOf l.slot
  count : windowOf l'.slot = windowOf l.slot → countOf l'.slot ≤ countOf l.slot

theorem Lags.refl (h : l.maxPerSecond < 2 ^ 32) : Lags l l :=
  ⟨rfl, rfl, h, UInt64.le_refl _, fun _ => UInt64.le_refl _⟩

theorem Lags.window_eq (h : Lags l l') (t : Nat) : l'.window t = l.window t := by
  rw [Limiter.window, h.origin, ← Limiter.window]

theorem Lags.taken_le (h : Lags l l') (hnow : windowOf l.slot ≤ now) :
    (l'.taken now).toNat ≤ (l.taken now).toNat := by
  unfold taken
  by_cases hw : now = windowOf l'.slot
  · have hsame : windowOf l'.slot = windowOf l.slot :=
      UInt64.le_antisymm h.window (hw ▸ hnow)
    rw [if_pos hw, if_pos (hw.trans hsame)]
    exact h.count hsame
  · rw [if_neg hw]
    exact Nat.zero_le _

section Allowed

variable (hnow : windowOf l.slot ≤ l.window t) (hword : l.window t < 0x100000000)
  (hok : (l.check t).1 = .ok ())
include hnow hword hok

/-- Asked alone, a limiter goes further ahead. -/
theorem Lags.ahead (h : Lags l l') : Lags (l.check t).2.1 l' where
  origin := h.origin.trans (l.origin_check t).symm
  limit := h.limit.trans (l.maxPerSecond_check t).symm
  word := (l.maxPerSecond_check t).symm ▸ h.word
  window := by
    rw [windowOf_check hnow hword hok]
    exact UInt64.le_trans h.window hnow
  count hw := by
    rw [windowOf_check hnow hword hok] at hw
    have htaken := h.taken_le hnow
    rw [taken, if_pos hw.symm] at htaken
    rw [UInt64.le_iff_toNat_le, countOf_check hnow h.word hok]
    omega

/-- Of two limiters that are asked, the one behind allows what the other one does. -/
theorem Lags.check (h : Lags l l') :
    (l'.check t).1 = .ok () ∧ Lags (l.check t).2.1 (l'.check t).2.1 := by
  -- The windows of both are counted from the same time, so the call comes in the same one.
  have hsame := h.window_eq t
  have hnow' : windowOf l'.slot ≤ l'.window t := hsame ▸ UInt64.le_trans h.window hnow
  have hword' : l'.window t < 0x100000000 := hsame ▸ hword
  obtain ⟨hlt, -⟩ := check_of_ok hnow hok
  have htaken := h.taken_le hnow
  have hok' : (l'.check t).1 = .ok () := check_of_lt hnow' (by rw [hsame, h.limit]; omega)
  have hlimit' : l'.maxPerSecond < 2 ^ 32 := h.limit ▸ h.word
  refine ⟨hok', ?_, ?_, (l.maxPerSecond_check t).symm ▸ h.word, ?_, fun _ => ?_⟩
  · rw [origin_check, origin_check, h.origin]
  · rw [maxPerSecond_check, maxPerSecond_check, h.limit]
  -- Both words now stand at the same window, so it is their counts that matter.
  · rw [windowOf_check hnow hword hok, windowOf_check hnow' hword' hok', hsame]
    exact UInt64.le_refl _
  · rw [UInt64.le_iff_toNat_le, countOf_check hnow h.word hok, countOf_check hnow' hlimit' hok']
    rw [hsame]
    omega

end Allowed

end VenueGateway.Limiter
