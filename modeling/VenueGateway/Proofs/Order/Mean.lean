import Mathlib.Algebra.BigOperators.Ring.List
import Mathlib.Algebra.Order.BigOperators.Group.List
import Mathlib.Data.Finset.Max
import VenueGateway.Proofs.Order.Totals

namespace VenueGateway.OrderEntry

/-- Executions in a row, each with the quantity that it added. -/
def shares (entry : OrderEntry Rat) (fs : List (Fill Rat × Int)) : List (Fill Rat × Rat) :=
  (fs.map (·.1)).zip (entry.recordFills fs).2

/-- What was paid for the quantities that were added. -/
def cost (xs : List (Fill Rat × Rat)) : Rat := (xs.map fun x => x.1.price * x.2).sum

/-- The prices of the executions that added something. -/
def sharePrices (xs : List (Fill Rat × Rat)) : List Rat :=
  (xs.filter (·.2 ≠ 0)).map (·.1.price)

theorem recordFill_added_nonneg (entry : OrderEntry Rat) (f : Fill Rat) (now : Int) :
    0 ≤ (entry.recordFill f now).2 := by
  have hle := entry.le_credited f
  rw [recordFill_added, recordFill_filled]
  linarith

theorem recordFill_filled_nonneg {entry : OrderEntry Rat} (hfilled : 0 ≤ entry.filled)
    (f : Fill Rat) (now : Int) : 0 ≤ (entry.recordFill f now).1.filled := by
  rw [recordFill_filled]
  exact hfilled.trans (entry.le_credited f)

/-- The divisor of the mean is never zero: the mean is taken only once more than dust is added. -/
theorem divisor_pos {entry : OrderEntry Rat} (hfilled : 0 ≤ entry.filled) {f : Fill Rat}
    (h : ¬ entry.increment f ≤ Amount.epsilon) : 0 < entry.filled + entry.increment f := by
  have hε := Amount.epsilon_pos
  have hlt : Amount.epsilon < entry.increment f := not_le.mp h
  linarith

/-- An execution adds its price, as often as it adds quantity, to what was paid so far. -/
theorem recordFill_cost {entry : OrderEntry Rat} (hfilled : 0 ≤ entry.filled) {f : Fill Rat}
    (haverage : Amount.positive? f.average = none) (now : Int) :
    (entry.recordFill f now).1.average * (entry.recordFill f now).1.filled =
      entry.average * entry.filled + f.price * (entry.recordFill f now).2 := by
  by_cases h : entry.increment f ≤ Amount.epsilon
  · rw [recordFill_of_le now h, haverage]
    change entry.average * entry.filled = entry.average * entry.filled + f.price * 0
    rw [mul_zero, add_zero]
  · have hne := (divisor_pos hfilled h).ne'
    rw [recordFill_of_not_le now h, haverage]
    exact div_mul_cancel₀ _ hne

theorem shares_cons (entry : OrderEntry Rat) (f : Fill Rat) (now : Int)
    (fs : List (Fill Rat × Int)) :
    entry.shares ((f, now) :: fs) =
      (f, (entry.recordFill f now).2) :: (entry.recordFill f now).1.shares fs := rfl

theorem recordFills_filled_nonneg {entry : OrderEntry Rat} (hfilled : 0 ≤ entry.filled)
    (fs : List (Fill Rat × Int)) : 0 ≤ (entry.recordFills fs).1.filled := by
  induction fs generalizing entry with
  | nil => exact hfilled
  | cons x fs ih =>
    obtain ⟨f, now⟩ := x
    exact ih (recordFill_filled_nonneg hfilled f now)

theorem recordFills_cost {entry : OrderEntry Rat} (hfilled : 0 ≤ entry.filled)
    {fs : List (Fill Rat × Int)} (h : ∀ x ∈ fs, Amount.positive? x.1.average = none) :
    (entry.recordFills fs).1.average * (entry.recordFills fs).1.filled =
      entry.average * entry.filled + cost (entry.shares fs) := by
  induction fs generalizing entry with
  | nil => exact (add_zero _).symm
  | cons x fs ih =>
    obtain ⟨f, now⟩ := x
    obtain ⟨hf, hfs⟩ := List.forall_mem_cons.mp h
    have hnext := recordFill_filled_nonneg hfilled f now
    -- The first fill adds its price times what it added, and the induction the rest.
    calc ((entry.recordFill f now).1.recordFills fs).1.average *
          ((entry.recordFill f now).1.recordFills fs).1.filled
      _ = (entry.recordFill f now).1.average * (entry.recordFill f now).1.filled +
            cost ((entry.recordFill f now).1.shares fs) := ih hnext hfs
      _ = entry.average * entry.filled + f.price * (entry.recordFill f now).2 +
            cost ((entry.recordFill f now).1.shares fs) := by rw [recordFill_cost hfilled hf]
      _ = entry.average * entry.filled + cost (entry.shares ((f, now) :: fs)) := by
        rw [shares_cons, cost, cost, List.map_cons, List.sum_cons, add_assoc]

theorem shares_nonneg (entry : OrderEntry Rat) (fs : List (Fill Rat × Int)) :
    ∀ x ∈ entry.shares fs, 0 ≤ x.2 := by
  induction fs generalizing entry with
  | nil => exact List.forall_mem_nil _
  | cons x fs ih =>
    obtain ⟨f, now⟩ := x
    rw [shares_cons]
    exact List.forall_mem_cons.mpr ⟨entry.recordFill_added_nonneg f now, ih _⟩

theorem sum_shares (entry : OrderEntry Rat) (fs : List (Fill Rat × Int)) :
    ((entry.shares fs).map (·.2)).sum = (entry.recordFills fs).1.filled - entry.filled := by
  rw [← sum_recordFills]
  congr 1
  induction fs generalizing entry with
  | nil => rfl
  | cons x fs ih =>
    obtain ⟨f, now⟩ := x
    rw [shares_cons, List.map_cons, ih]
    rfl

/-- What was paid lies between the quantity at the least and at the greatest of the prices that
counted. -/
theorem cost_between {xs : List (Fill Rat × Rat)} (hxs : ∀ x ∈ xs, 0 ≤ x.2) {least greatest : Rat}
    (h : ∀ p ∈ sharePrices xs, least ≤ p ∧ p ≤ greatest) :
    least * (xs.map (·.2)).sum ≤ cost xs ∧ cost xs ≤ greatest * (xs.map (·.2)).sum := by
  have hshare : ∀ x ∈ xs, least * x.2 ≤ x.1.price * x.2 ∧ x.1.price * x.2 ≤ greatest * x.2 := by
    intro x hx
    rcases eq_or_ne x.2 0 with hzero | hne
    · simp [hzero]
    · have hmem : x ∈ xs.filter (·.2 ≠ 0) := List.mem_filter.mpr ⟨hx, decide_eq_true hne⟩
      obtain ⟨hlow, hhigh⟩ := h _ (List.mem_map_of_mem hmem)
      exact ⟨mul_le_mul_of_nonneg_right hlow (hxs x hx),
        mul_le_mul_of_nonneg_right hhigh (hxs x hx)⟩
  rw [← List.sum_map_mul_left, ← List.sum_map_mul_left]
  exact ⟨List.sum_le_sum fun x hx => (hshare x hx).1, List.sum_le_sum fun x hx => (hshare x hx).2⟩

theorem sharePrices_ne_nil {xs : List (Fill Rat × Rat)} (h : 0 < (xs.map (·.2)).sum) :
    sharePrices xs ≠ [] := by
  intro hnil
  have hall : ∀ x ∈ xs, x.2 = 0 := by
    simpa only [sharePrices, List.map_eq_nil_iff, List.filter_eq_nil_iff, decide_not,
      Bool.not_eq_true', decide_eq_false_iff_not, not_not] using hnil
  have hzero : (xs.map (·.2)).sum = 0 := List.sum_eq_zero (List.forall_mem_map.mpr hall)
  rw [hzero] at h
  exact lt_irrefl _ h

theorem exists_extremes {ps : List Rat} (h : ps ≠ []) :
    ∃ least ∈ ps, ∃ greatest ∈ ps, ∀ p ∈ ps, least ≤ p ∧ p ≤ greatest := by
  have hne : ps.toFinset.Nonempty := List.toFinset_nonempty_iff ps |>.mpr h
  obtain ⟨least, hleast, hmin⟩ := ps.toFinset.exists_min_image id hne
  obtain ⟨greatest, hgreatest, hmax⟩ := ps.toFinset.exists_max_image id hne
  simp only [List.mem_toFinset, id] at hleast hmin hgreatest hmax
  exact ⟨least, hleast, greatest, hgreatest, fun p hp => ⟨hmin p hp, hmax p hp⟩⟩

/-- Of executions without an average price of the venue, in any mixture of own quantities and
totals, the average price is the mean of their prices weighted by what each added; it is never
divided by zero, and lies between the least and the greatest price of those that added something. -/
theorem average_is_weighted_mean (entry : OrderEntry Rat) (hfilled : entry.filled = 0)
    (haverage : entry.average = 0) {fs : List (Fill Rat × Int)}
    (h : ∀ x ∈ fs, Amount.positive? x.1.average = none) :
    (entry.recordFills fs).1.average * (entry.recordFills fs).1.filled =
        cost (entry.shares fs) ∧
      (∀ before x after, fs = before ++ x :: after →
        ¬ (entry.recordFills before).1.increment x.1 ≤ Amount.epsilon →
        (entry.recordFills before).1.filled + (entry.recordFills before).1.increment x.1 ≠ 0) ∧
      (0 < (entry.recordFills fs).1.filled →
        ∃ least ∈ sharePrices (entry.shares fs), ∃ greatest ∈ sharePrices (entry.shares fs),
          (∀ p ∈ sharePrices (entry.shares fs), least ≤ p ∧ p ≤ greatest) ∧
          least ≤ (entry.recordFills fs).1.average ∧
          (entry.recordFills fs).1.average ≤ greatest) := by
  have hcost := recordFills_cost hfilled.ge h
  rw [haverage, zero_mul, zero_add] at hcost
  refine ⟨hcost, fun before x after _ hx => ?_, fun hpos => ?_⟩
  · exact (divisor_pos (recordFills_filled_nonneg hfilled.ge before) hx).ne'
  · -- The shares add up to the quantity, so the cost of them lies between the prices times it.
    have hsum := entry.sum_shares fs
    rw [hfilled, sub_zero] at hsum
    have hnonneg := entry.shares_nonneg fs
    have hne := sharePrices_ne_nil (hsum ▸ hpos)
    obtain ⟨least, hleast, greatest, hgreatest, hall⟩ := exists_extremes hne
    obtain ⟨hlow, hhigh⟩ := cost_between hnonneg hall
    rw [hsum, ← hcost] at hlow hhigh
    exact ⟨least, hleast, greatest, hgreatest, hall, le_of_mul_le_mul_right hlow hpos,
      le_of_mul_le_mul_right hhigh hpos⟩

/-- Four at a price, the same four again as a total, dust at a price far off, a total of ten at
another price, and the report of a total that is behind. -/
def mixedFills : List (Fill Rat × Int) :=
  [(⟨4, 100, none, none⟩, 1), (⟨0, 900, some 4, some 0⟩, 2), (⟨1 / 200000000, 7, none, none⟩, 3),
    (⟨1, 200, some 10, none⟩, 4), (⟨0, 1, some 9, none⟩, 5)]

theorem average_is_weighted_mean_mixedFills :
    untouched.filled = 0 ∧ untouched.average = 0 ∧
      (∀ x ∈ mixedFills, Amount.positive? x.1.average = none) ∧
      (untouched.recordFills mixedFills).2 = [4, 0, 0, 6, 0] ∧
      (untouched.recordFills mixedFills).1.average * (untouched.recordFills mixedFills).1.filled =
        cost (untouched.shares mixedFills) ∧
      cost (untouched.shares mixedFills) = 100 * 4 + 200 * 6 ∧
      0 < (untouched.recordFills mixedFills).1.filled ∧
      100 ≤ (untouched.recordFills mixedFills).1.average ∧
      (untouched.recordFills mixedFills).1.average ≤ 200 := by
  have h : ∀ x ∈ mixedFills, Amount.positive? x.1.average = none := by decide +kernel
  have hpos : 0 < (untouched.recordFills mixedFills).1.filled := by decide +kernel
  have hprices : sharePrices (untouched.shares mixedFills) = [100, 200] := by decide +kernel
  obtain ⟨hcost, -, hbetween⟩ := average_is_weighted_mean untouched rfl rfl h
  obtain ⟨least, hleast, greatest, hgreatest, hall, hlow, hhigh⟩ := hbetween hpos
  rw [hprices] at hleast hgreatest hall
  have hl : least = 100 := by
    rcases List.mem_pair.mp hleast with rfl | rfl
    · rfl
    · exact absurd (hall 100 (by simp)).1 (by decide +kernel)
  have hg : greatest = 200 := by
    rcases List.mem_pair.mp hgreatest with rfl | rfl
    · exact absurd (hall 200 (by simp)).2 (by decide +kernel)
    · rfl
  rw [hl] at hlow
  rw [hg] at hhigh
  exact ⟨rfl, rfl, h, by decide +kernel, hcost, by decide +kernel, hpos, hlow, hhigh⟩

end VenueGateway.OrderEntry
