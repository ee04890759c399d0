import Mathlib.Data.List.Induction
import Mathlib.Data.List.Infix
import Mathlib.Data.List.Pairwise
import VenueGateway.Proofs.Order.Revision
import VenueGateway.Proofs.Order.Totals

namespace VenueGateway

/-- An execution with a total of more than dust, and with an average price that counts. -/
structure FillReport where
  event : OrderEvent Rat
  time : Int
  total : Rat
  average : Rat
  kind_eq : event.kind = .fill
  cumulative_eq : event.cumulative = some total
  average_eq : event.average = some average
  epsilon_lt : Amount.epsilon < total
  average_pos : 0 < average

namespace FillReport

/-- Two totals that differ by more than dust. -/
def Apart (a b : FillReport) : Prop := Amount.epsilon < |a.total - b.total|

instance (a b : FillReport) : Decidable (a.Apart b) :=
  inferInstanceAs (Decidable (Amount.epsilon < |a.total - b.total|))

instance : Std.Symm Apart where
  symm a b h := by
    unfold Apart at h ⊢
    rwa [abs_sub_comm]

theorem Apart.total_ne {a b : FillReport} (h : a.Apart b) : a.total ≠ b.total := by
  intro heq
  have hε := Amount.epsilon_pos
  have hfar : Amount.epsilon < |a.total - b.total| := h
  rw [heq, sub_self, abs_zero] at hfar
  exact lt_asymm hε hfar

/-- The event of a report, at its time. -/
def moment (r : FillReport) : OrderEvent Rat × Int := (r.event, r.time)

/-- What is executed by some reports: nothing without one, else the highest total. -/
def IsPeak (filled : Rat) (rs : List FillReport) : Prop :=
  rs = [] ∧ filled = 0 ∨ ∃ top ∈ rs, filled = top.total ∧ ∀ r ∈ rs, r.total ≤ top.total

end FillReport

open FillReport

namespace OrderEntry

variable {entry : OrderEntry Rat}

theorem receive_report_filled (r : FillReport) (h : entry.state.isTerminal = false) :
    (entry.receive r.event r.time false).1.filled =
      if entry.filled + Amount.epsilon < r.total then r.total else entry.filled := by
  rw [receive_filled, if_pos ⟨r.kind_eq, h⟩]
  exact entry.credited_of_cumulative r.cumulative_eq

/-- Any report writes its average price, a late one too. -/
theorem receive_report_average (r : FillReport) (h : entry.state.isTerminal = false) :
    (entry.receive r.event r.time false).1.average = r.average := by
  have hopen : (entry.prepared r.event).state.isTerminal = false := by
    rw [(prepared_amended entry r.event).state, h]
  have hpositive : Amount.positive? r.event.average = some r.average := by
    have hpos := (Amount.isPositive_iff _).mpr r.average_pos
    rw [r.average_eq, Amount.positive?, Option.filter_some, if_pos hpos]
  have haverage := receiveFill_average (entry.prepared r.event) r.event.fill r.time hopen
  have hfill : r.event.fill.average = r.event.average := rfl
  rw [hfill, hpositive, Option.getD_some] at haverage
  rw [receive_of_fill entry r.time false r.kind_eq]
  exact haverage.symm

/-- The entry after reports that come in one after the other. -/
def takeIn (entry : OrderEntry Rat) (rs : List FillReport) : OrderEntry Rat :=
  rs.foldl (fun entry r => (entry.receive r.event r.time false).1) entry

theorem takeIn_concat (entry : OrderEntry Rat) (rs : List FillReport) (r : FillReport) :
    entry.takeIn (rs ++ [r]) = ((entry.takeIn rs).receive r.event r.time false).1 := by
  simp [takeIn]

/-- None of some reports completes or meets an order that is over. -/
def StaysOpen (entry : OrderEntry Rat) (rs : List FillReport) : Prop :=
  ∀ before, before <+: rs → (entry.takeIn before).state.isTerminal = false

instance (entry : OrderEntry Rat) (rs : List FillReport) : Decidable (entry.StaysOpen rs) :=
  decidable_of_iff (∀ before ∈ rs.inits, (entry.takeIn before).state.isTerminal = false) <| by
    simp only [StaysOpen, List.mem_inits]

theorem takeIn_isPeak (hfilled : entry.filled = 0) {rs : List FillReport}
    (hapart : rs.Pairwise Apart) (hopen : entry.StaysOpen rs) :
    IsPeak (entry.takeIn rs).filled rs := by
  have hε := Amount.epsilon_pos
  induction rs using List.reverseRecOn with
  | nil => exact Or.inl ⟨rfl, hfilled⟩
  | append_singleton rs r ih =>
    obtain ⟨hrs, -, hr⟩ := List.pairwise_append.mp hapart
    have hpeak := ih hrs fun before hb => hopen before (hb.trans (List.prefix_append rs [r]))
    have hmem : r ∈ rs ++ [r] := List.mem_append_right _ (List.mem_singleton_self r)
    right
    rw [takeIn_concat, receive_report_filled r (hopen rs (List.prefix_append rs [r]))]
    by_cases hlt : (entry.takeIn rs).filled + Amount.epsilon < r.total
    · rw [if_pos hlt]
      refine ⟨r, hmem, rfl, fun s hs => ?_⟩
      rcases List.mem_append.mp hs with hs | hs
      · rcases hpeak with ⟨rfl, -⟩ | ⟨top, -, htop, hmax⟩
        · cases hs
        · linarith [hmax s hs]
      · rw [List.mem_singleton.mp hs]
    · rw [if_neg hlt]
      rcases hpeak with ⟨-, hzero⟩ | ⟨top, hin, htop, hmax⟩
      · exact absurd r.epsilon_lt (by linarith)
      · refine ⟨top, List.mem_append_left _ hin, htop, fun s hs => ?_⟩
        rcases List.mem_append.mp hs with hs | hs
        · exact hmax s hs
        · -- A total that adds nothing lies below the highest one, since it is not close to it.
          rw [List.mem_singleton.mp hs]
          have hfar : Amount.epsilon < |top.total - r.total| :=
            hr top hin r (List.mem_singleton_self r)
          by_contra hnot
          rw [abs_sub_comm, abs_of_pos (by linarith)] at hfar
          linarith

theorem takeIn_average {rs : List FillReport} {last : FillReport}
    (hlast : rs.getLast? = some last) (hopen : entry.StaysOpen rs) :
    (entry.takeIn rs).average = last.average := by
  obtain ⟨before, rfl⟩ := List.getLast?_eq_some_iff.mp hlast
  rw [takeIn_concat]
  exact receive_report_average last (hopen before (List.prefix_append before [last]))

end OrderEntry

namespace OrderTable

/-- The events of one order are taken in by its entry. -/
theorem find?_receiveAll_reports {t : OrderTable Rat} {id : String} {entry : OrderEntry Rat}
    (h : t.find? id = some entry) {rs : List FillReport} (hid : ∀ r ∈ rs, r.event.id = id) :
    (t.receiveAll (rs.map moment)).find? id = some (entry.takeIn rs) := by
  induction rs generalizing t entry with
  | nil => exact h
  | cons r rs ih =>
    obtain ⟨hr, hrs⟩ := List.forall_mem_cons.mp hid
    subst hr
    exact ih (find?_receive_of_some r.time h) hrs

/-- Reports of an order, in whatever order they come in, none of which completes it: the quantity
executed is the highest total, and the average price is that of the report that came last. That is
the average of the highest total if the highest total came last. -/
theorem average_of_last_report {t : OrderTable Rat} {id : String} {entry : OrderEntry Rat}
    (hfind : t.find? id = some entry) (hfilled : entry.filled = 0) {rs : List FillReport}
    (hid : ∀ r ∈ rs, r.event.id = id) (hapart : rs.Pairwise Apart) (hopen : entry.StaysOpen rs)
    {last : FillReport} (hlast : rs.getLast? = some last) :
    ∃ after top, (t.receiveAll (rs.map moment)).find? id = some after ∧
      top ∈ rs ∧ (∀ r ∈ rs, r.total ≤ top.total) ∧
      after.filled = top.total ∧ after.average = last.average ∧
      ((∀ r ∈ rs, r.total ≤ last.total) → after.average = top.average) := by
  have haverage := OrderEntry.takeIn_average hlast hopen
  have hmem : last ∈ rs := List.mem_of_getLast? hlast
  rcases OrderEntry.takeIn_isPeak hfilled hapart hopen with ⟨rfl, -⟩ | ⟨top, hin, htop, hmax⟩
  · cases hlast
  refine ⟨entry.takeIn rs, top, find?_receiveAll_reports hfind hid, hin, hmax, htop, haverage, ?_⟩
  intro hhighest
  have heq : last.total = top.total := le_antisymm (hmax last hmem) (hhighest top hin)
  -- Reports with one total are one report, so the last one is the top.
  have hsame : last = top := by
    by_contra hne
    exact (hapart.forall hmem hin hne).total_ne heq
  rw [haverage, hsame]

/-- An order of ten that is acknowledged, and nothing of it executed yet. -/
def acknowledgedOrder : OrderEntry Rat := { OrderEntry.untouched with state := .acknowledged }

/-- The table in which it stands. -/
def acknowledgedTable : OrderTable Rat := ⟨[acknowledgedOrder]⟩

/-- A report of it: some total, and the venue's average price. -/
def reportEvent (total average : Rat) : OrderEvent Rat :=
  { (OrderEvent.bare .deribit "c" "BTC-PERPETUAL" .fill 0 : OrderEvent Rat) with
    cumulative := some total, average := some average }

def fourReported : FillReport :=
  ⟨reportEvent 4 100, 1, 4, 100, rfl, rfl, rfl, by decide +kernel, by decide +kernel⟩

def sixReported : FillReport :=
  ⟨reportEvent 6 105, 2, 6, 105, rfl, rfl, rfl, by decide +kernel, by decide +kernel⟩

theorem average_of_last_report_inOrder :
    [fourReported, sixReported].Pairwise Apart ∧
      acknowledgedOrder.StaysOpen [fourReported, sixReported] ∧
      ∃ after, (acknowledgedTable.receiveAll ([fourReported, sixReported].map moment)).find? "c" =
        some after ∧ after.average = 105 := by
  have hapart : [fourReported, sixReported].Pairwise Apart := by decide +kernel
  have hopen : acknowledgedOrder.StaysOpen [fourReported, sixReported] := by decide +kernel
  have hfind : acknowledgedTable.find? "c" = some acknowledgedOrder := rfl
  have hid : ∀ r ∈ [fourReported, sixReported], r.event.id = "c" := by decide
  have hlast : [fourReported, sixReported].getLast? = some sixReported := rfl
  obtain ⟨after, top, hafter, -, -, -, haverage, -⟩ :=
    average_of_last_report hfind rfl hid hapart hopen hlast
  exact ⟨hapart, hopen, after, hafter, haverage⟩

/-- The same two reports the other way round: the average price of four stands beside the six that
are executed. -/
theorem late_report_rewrites_average :
    acknowledgedOrder.filled = 0 ∧ [sixReported, fourReported].Pairwise Apart ∧
      acknowledgedOrder.StaysOpen [sixReported, fourReported] ∧
      ((acknowledgedTable.receiveAll ([sixReported, fourReported].map moment)).find? "c").map
        (fun after => (after.filled, after.average)) =
          some (sixReported.total, fourReported.average) ∧
      fourReported.average ≠ sixReported.average := by
  decide +kernel

end OrderTable

end VenueGateway
