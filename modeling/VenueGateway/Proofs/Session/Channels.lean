import Mathlib.Data.String.Basic
import VenueGateway.Proofs.Session.Line

namespace VenueGateway

namespace Session

theorem mem_insertSorted {name c : String} {set : List String} :
    c ∈ insertSorted name set ↔ c = name ∨ c ∈ set := by
  induction set with
  | nil => simp [insertSorted]
  | cons n rest ih =>
    unfold insertSorted
    split
    · simp
    · split
      · next he => simp [he]
      · simp [ih, or_left_comm]

theorem insertSorted_pairwise {name : String} {set : List String} (h : set.Pairwise (· < ·)) :
    (insertSorted name set).Pairwise (· < ·) := by
  induction set with
  | nil => simp [insertSorted]
  | cons n rest ih =>
    obtain ⟨hn, hrest⟩ := List.pairwise_cons.mp h
    -- The name goes before the first greater one, and one that is there already is not added.
    unfold insertSorted
    split
    · next hlt =>
      refine List.pairwise_cons.mpr ⟨?_, h⟩
      intro c hc
      rcases List.mem_cons.mp hc with rfl | hc
      · exact hlt
      · exact hlt.trans (hn c hc)
    · next hnot =>
      split
      · exact h
      · next hne =>
        refine List.pairwise_cons.mpr ⟨?_, ih hrest⟩
        intro c hc
        rcases mem_insertSorted.mp hc with rfl | hc
        · exact lt_of_le_of_ne (not_lt.mp hnot) (Ne.symm hne)
        · exact hn c hc

/-- A change touches no other channel, and makes of its own what it says. -/
theorem mem_changeSet (s : Session) (name : String) (action : SubscriptionAction) (c : String) :
    c ∈ (s.changeSet name action).2.subscriptions ↔
      if c = name then action = .subscribe else c ∈ s.subscriptions := by
  cases action with
  | subscribe => by_cases h : c = name <;> simp [changeSet, mem_insertSorted, h]
  | unsubscribe => by_cases h : c = name <;> simp [changeSet, h]

/-- A change that changes nothing was there before. -/
theorem changeSet_unchanged {s : Session} {name : String} {action : SubscriptionAction}
    (h : (s.changeSet name action).1 = false) :
    name ∈ s.subscriptions ↔ action = .subscribe := by
  cases action with
  | subscribe => simpa [changeSet] using h
  | unsubscribe => simpa [changeSet] using h

theorem changeSet_pairwise {s : Session} (h : s.subscriptions.Pairwise (· < ·)) (name : String)
    (action : SubscriptionAction) :
    (s.changeSet name action).2.subscriptions.Pairwise (· < ·) := by
  cases action with
  | subscribe => exact insertSorted_pairwise h
  | unsubscribe => exact h.filter _

end Session

namespace SubscriptionRequest

/-- The set of channels after a request. -/
def apply (r : SubscriptionRequest) (set : List String) : List String :=
  match r.action with
  | .subscribe => r.channels.foldl (fun set name => Session.insertSorted name set) set
  | .unsubscribe => set.filter fun name => !r.channels.contains name

def applyAll (rs : List SubscriptionRequest) (set : List String) : List String :=
  rs.foldl (fun set r => r.apply set) set

theorem mem_apply {r : SubscriptionRequest} {set : List String} {c : String} :
    c ∈ r.apply set ↔ if c ∈ r.channels then r.action = .subscribe else c ∈ set := by
  have hfold : ∀ channels set : List String,
      c ∈ channels.foldl (fun set name => Session.insertSorted name set) set ↔
        c ∈ channels ∨ c ∈ set := by
    intro channels
    induction channels with
    | nil => simp
    | cons n rest ih =>
      intro set
      simp [ih, Session.mem_insertSorted, or_left_comm, or_assoc]
  unfold apply
  cases hr : r.action with
  | subscribe => by_cases h : c ∈ r.channels <;> simp [hfold, h]
  | unsubscribe => by_cases h : c ∈ r.channels <;> simp [h]

theorem apply_pairwise {set : List String} (h : set.Pairwise (· < ·)) (r : SubscriptionRequest) :
    (r.apply set).Pairwise (· < ·) := by
  unfold apply
  cases r.action with
  | subscribe =>
    dsimp only
    induction r.channels generalizing set with
    | nil => exact h
    | cons n rest ih => exact ih (Session.insertSorted_pairwise h)
  | unsubscribe => exact h.filter _

theorem applyAll_pairwise {set : List String} (h : set.Pairwise (· < ·))
    (rs : List SubscriptionRequest) : (applyAll rs set).Pairwise (· < ·) := by
  induction rs generalizing set with
  | nil => exact h
  | cons r rs ih => exact ih (apply_pairwise h r)

theorem applyAll_append (rs qs : List SubscriptionRequest) (set : List String) :
    applyAll (rs ++ qs) set = applyAll qs (applyAll rs set) := List.foldl_append

/-- Requests make the same of a channel in two sets that agree on it. -/
theorem mem_applyAll_congr {set set' : List String} {c : String} (h : c ∈ set ↔ c ∈ set')
    (rs : List SubscriptionRequest) : c ∈ applyAll rs set ↔ c ∈ applyAll rs set' := by
  induction rs generalizing set set' with
  | nil => exact h
  | cons r rs ih =>
    apply ih
    rw [mem_apply, mem_apply, h]

end SubscriptionRequest

/-- Two ascending lists with the same members are the same list. -/
theorem eq_of_pairwise_of_mem_iff {set set' : List String} (h : set.Pairwise (· < ·))
    (h' : set'.Pairwise (· < ·)) (hmem : ∀ c, c ∈ set ↔ c ∈ set') : set = set' := by
  have hnodup : set.Nodup := h.imp fun hlt => ne_of_lt hlt
  have hnodup' : set'.Nodup := h'.imp fun hlt => ne_of_lt hlt
  have hperm : set.Perm set' := (List.perm_ext_iff_of_nodup hnodup hnodup').mpr hmem
  exact hperm.eq_of_pairwise (fun _ _ _ _ hlt hgt => absurd hgt (lt_asymm hlt)) h h'

end VenueGateway
