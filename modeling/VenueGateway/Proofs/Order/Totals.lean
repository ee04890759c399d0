import Mathlib.Algebra.BigOperators.Group.List.Basic
import Mathlib.Algebra.Order.Group.Abs
import VenueGateway.Proofs.Order.Accounting

namespace VenueGateway.OrderEntry

/-- The entry after executions that come in one after the other, and what each of them added. -/
def recordFills {α : Type} [Amount α] (entry : OrderEntry α) :
    List (Fill α × Int) → OrderEntry α × List α
  | [] => (entry, [])
  | (f, now) :: fs =>
    let (entry, added) := entry.recordFill f now
    let (last, more) := entry.recordFills fs
    (last, added :: more)

/-- The highest of some totals and of the quantity that counted before them. -/
def highest (start : Rat) (totals : List Rat) : Rat := totals.foldl max start

/-- The totals that some executions report. -/
def totals (fs : List (Fill Rat × Int)) : List Rat := fs.filterMap (·.1.cumulative)

/-- A total counts just as it is if it goes beyond what is known by more than dust. -/
theorem credited_of_cumulative (entry : OrderEntry Rat) {f : Fill Rat} {total : Rat}
    (h : f.cumulative = some total) :
    entry.credited f =
      if entry.filled + Amount.epsilon < total then total else entry.filled := by
  have hε := Amount.epsilon_pos
  have hi : entry.increment f = Amount.atLeastZero (total - entry.filled) := by
    simp only [increment, h]
  by_cases hlt : entry.filled + Amount.epsilon < total
  · have hpos : 0 < total - entry.filled := by linarith
    rw [Amount.atLeastZero_of_pos hpos] at hi
    have hnot : ¬ entry.increment f ≤ Amount.epsilon := by
      rw [hi]
      linarith
    rw [credited, if_neg hnot, if_pos hlt, hi]
    exact add_sub_cancel entry.filled total
  · have hle : entry.increment f ≤ Amount.epsilon := by
      rw [hi]
      rcases lt_or_ge 0 (total - entry.filled) with hpos | hneg
      · rw [Amount.atLeastZero_of_pos hpos]
        linarith
      · rw [Amount.atLeastZero_of_nonpos hneg]
        exact hε.le
    rw [credited, if_pos hle, if_neg hlt]

/-- What is reported as added is what has been added. -/
theorem recordFill_added (entry : OrderEntry Rat) (f : Fill Rat) (now : Int) :
    (entry.recordFill f now).2 = (entry.recordFill f now).1.filled - entry.filled := by
  by_cases h : entry.increment f ≤ Amount.epsilon
  · rw [recordFill_of_le now h]
    exact (sub_self entry.filled).symm
  · rw [recordFill_of_not_le now h]
    exact (add_sub_cancel_left entry.filled (entry.increment f)).symm

/-- The quantity stays within dust below the highest total. -/
theorem credited_near {entry : OrderEntry Rat} {m : Rat} (hlow : m - Amount.epsilon ≤ entry.filled)
    (hhigh : entry.filled ≤ m) {f : Fill Rat} {total : Rat} (h : f.cumulative = some total) :
    max m total - Amount.epsilon ≤ entry.credited f ∧ entry.credited f ≤ max m total := by
  have hε := Amount.epsilon_pos
  have hm := le_max_left m total
  have ht := le_max_right m total
  rw [entry.credited_of_cumulative h]
  split
  · next hlt =>
    -- The new total is above all before it: those lie within dust of the quantity.
    rw [max_eq_right (by linarith)]
    exact ⟨by linarith, le_refl _⟩
  · next hnot =>
    have hle : max m total ≤ entry.filled + Amount.epsilon :=
      max_le (by linarith) (not_lt.mp hnot)
    exact ⟨by linarith, hhigh.trans hm⟩

theorem recordFills_near {entry : OrderEntry Rat} {m : Rat}
    (hlow : m - Amount.epsilon ≤ entry.filled) (hhigh : entry.filled ≤ m)
    {fs : List (Fill Rat × Int)} (h : ∀ x ∈ fs, x.1.cumulative ≠ none) :
    highest m (totals fs) - Amount.epsilon ≤ (entry.recordFills fs).1.filled ∧
      (entry.recordFills fs).1.filled ≤ highest m (totals fs) := by
  induction fs generalizing entry m with
  | nil => exact ⟨hlow, hhigh⟩
  | cons x fs ih =>
    obtain ⟨f, now⟩ := x
    obtain ⟨hf, hfs⟩ := List.forall_mem_cons.mp h
    obtain ⟨total, htotal⟩ := Option.ne_none_iff_exists'.mp hf
    have hnear := credited_near hlow hhigh htotal
    rw [← entry.recordFill_filled f now] at hnear
    -- The highest total so far takes the place of `m` for the fills to come.
    have hrest := ih hnear.1 hnear.2 hfs
    have htotals : totals ((f, now) :: fs) = total :: totals fs :=
      List.filterMap_cons_some htotal
    rw [htotals]
    exact hrest

theorem sum_recordFills (entry : OrderEntry Rat) (fs : List (Fill Rat × Int)) :
    (entry.recordFills fs).2.sum = (entry.recordFills fs).1.filled - entry.filled := by
  induction fs generalizing entry with
  | nil => simp [recordFills]
  | cons x fs ih =>
    obtain ⟨f, now⟩ := x
    have hadded := entry.recordFill_added f now
    have hmore := ih (entry.recordFill f now).1
    simp only [recordFills, List.sum_cons, hmore, hadded]
    exact sub_add_sub_cancel' _ _ _

theorem highest_congr {fs gs : List (Fill Rat × Int)}
    (h : (fs.map Prod.fst).Perm (gs.map Prod.fst)) (start : Rat) :
    highest start (totals fs) = highest start (totals gs) := by
  have hperm : (totals fs).Perm (totals gs) := by
    have := h.filterMap Fill.cumulative
    rwa [List.filterMap_map, List.filterMap_map] at this
  exact hperm.foldl_eq start

/-- Executions that all report totals end within dust below the highest of them, and what they add
sums up to the difference. So their order and their repetition matter by no more than dust. -/
theorem totals_converge (entry : OrderEntry Rat) {fs : List (Fill Rat × Int)}
    (h : ∀ x ∈ fs, x.1.cumulative ≠ none) :
    (highest entry.filled (totals fs) - Amount.epsilon ≤ (entry.recordFills fs).1.filled ∧
        (entry.recordFills fs).1.filled ≤ highest entry.filled (totals fs)) ∧
      (entry.recordFills fs).2.sum = (entry.recordFills fs).1.filled - entry.filled ∧
      ∀ gs : List (Fill Rat × Int), (fs.map Prod.fst).Perm (gs.map Prod.fst) →
        |(entry.recordFills fs).1.filled - (entry.recordFills gs).1.filled| ≤ Amount.epsilon := by
  have hε := Amount.epsilon_pos
  have hlow : entry.filled - Amount.epsilon ≤ entry.filled := by linarith
  have hfs := recordFills_near hlow le_rfl h
  refine ⟨hfs, entry.sum_recordFills fs, fun gs hperm => ?_⟩
  -- The other order has the same totals, so it comes as near to their highest one.
  have hgs : ∀ x ∈ gs, x.1.cumulative ≠ none := by
    intro x hx
    have hmem := hperm.mem_iff.mpr (List.mem_map_of_mem hx)
    obtain ⟨y, hy, hyx⟩ := List.mem_map.mp hmem
    rw [← hyx]
    exact h y hy
  have hnear := recordFills_near hlow le_rfl hgs
  rw [← highest_congr hperm] at hnear
  rw [abs_sub_le_iff]
  constructor <;> linarith

/-- An order of which nothing is executed yet. -/
def untouched : OrderEntry Rat :=
  .new ((⟨"c", .deribit, "BTC-PERPETUAL", .buy, .limit, 10, 5⟩ : OrderRequest Rat).toOrder 0)

/-- A half, a total that comes late, and twice a bit of dust above the half. -/
def dustyFills : List (Fill Rat × Int) :=
  [(⟨1 / 2, 5, some (1 / 2), none⟩, 1), (⟨1 / 4, 5, some (1 / 4), none⟩, 2),
    (⟨0, 5, some (1 / 2 + 1 / 200000000), none⟩, 3),
    (⟨0, 5, some (1 / 2 + 1 / 200000000), none⟩, 4)]

theorem totals_converge_dust :
    (∀ x ∈ dustyFills, x.1.cumulative ≠ none) ∧
      highest untouched.filled (totals dustyFills) = 1 / 2 + 1 / 200000000 ∧
      (untouched.recordFills dustyFills).2 = [1 / 2, 0, 0, 0] ∧
      (untouched.recordFills dustyFills).2.sum = (untouched.recordFills dustyFills).1.filled -
        untouched.filled ∧
      (untouched.recordFills dustyFills.reverse).1.filled = 1 / 2 + 1 / 200000000 ∧
      |(untouched.recordFills dustyFills).1.filled -
        (untouched.recordFills dustyFills.reverse).1.filled| ≤ Amount.epsilon := by
  have h : ∀ x ∈ dustyFills, x.1.cumulative ≠ none := by decide
  obtain ⟨-, hsum, hpermuted⟩ := totals_converge untouched h
  have hperm : (dustyFills.map Prod.fst).Perm (dustyFills.reverse.map Prod.fst) :=
    (List.reverse_perm _).symm.map _
  exact ⟨h, by decide +kernel, by decide +kernel, hsum, by decide +kernel, hpermuted _ hperm⟩

end VenueGateway.OrderEntry
