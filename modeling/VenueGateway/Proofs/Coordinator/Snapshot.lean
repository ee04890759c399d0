import Mathlib.Data.Finset.Card
import VenueGateway.Coordinator.Reconciliation
import VenueGateway.Proofs.Order.Identity

namespace VenueGateway

section Listed

variable {α : Type}

def Record.order? : Record α → Option (OrderEvent α)
  | .order e => some e
  | _ => none

/-- The order events among some records. -/
def orderEvents (records : List (Record α)) : List (OrderEvent α) :=
  records.filterMap Record.order?

/-- Adds the id of a record to those that are listed already. -/
def listId (ids : List String) (r : Record α) : List String :=
  match r with
  | .order e => if ids.contains e.id then ids else ids ++ [e.id]
  | _ => ids

theorem listId_nodup {ids : List String} (h : ids.Nodup) (r : Record α) : (listId ids r).Nodup := by
  cases r with
  | order e =>
    unfold listId
    by_cases hmem : e.id ∈ ids
    · simpa [hmem] using h
    · simp only [List.contains_iff_mem, hmem, if_false]
      exact h.append (List.nodup_singleton e.id) (by simpa using hmem)
  | position _ | balance _ | trade _ | book _ => exact h

theorem mem_listId {ids : List String} {r : Record α} {id : String} :
    id ∈ listId ids r ↔ id ∈ ids ∨ id ∈ r.order?.map (·.id) := by
  cases r with
  | order e =>
    unfold listId
    by_cases hmem : e.id ∈ ids
    · have hsame : ∀ id, id = e.id → id ∈ ids := by
        rintro id rfl
        exact hmem
      simpa [hmem, Record.order?, eq_comm] using hsame id
    · simp [hmem, Record.order?, eq_comm]
  | position _ | balance _ | trade _ | book _ => simp [listId, Record.order?]

theorem listedIds_nodup (records : List (Record α)) : (listedIds records).Nodup := by
  have hfold : ∀ ids : List String, ids.Nodup → (records.foldl listId ids).Nodup := by
    induction records with
    | nil => exact fun ids h => h
    | cons r records ih => exact fun ids h => ih _ (listId_nodup h r)
  exact hfold [] List.nodup_nil

theorem mem_listedIds {records : List (Record α)} {id : String} :
    id ∈ listedIds records ↔ id ∈ (orderEvents records).map (·.id) := by
  have hfold : ∀ ids : List String,
      id ∈ records.foldl listId ids ↔ id ∈ ids ∨ id ∈ (orderEvents records).map (·.id) := by
    induction records with
    | nil => simp [orderEvents]
    | cons r records ih =>
      intro ids
      rw [List.foldl_cons, ih, mem_listId, or_assoc]
      cases r <;> simp [orderEvents, Record.order?, eq_comm]
  have hlisted := hfold []
  simp only [List.not_mem_nil, false_or] at hlisted
  exact hlisted

/-- Each listed id is counted once. -/
theorem listedIds_length (records : List (Record α)) :
    (listedIds records).length = ((orderEvents records).map (·.id)).toFinset.card := by
  have hset : (listedIds records).toFinset = ((orderEvents records).map (·.id)).toFinset := by
    ext id
    simp only [List.mem_toFinset]
    exact mem_listedIds
  rw [← hset, List.toFinset_card_of_nodup (listedIds_nodup records)]

end Listed

namespace OrderTable

section Unlisted

variable {α : Type}

theorem find?_eq_some_of_mem {t : OrderTable α} (h : t.ids.Nodup) {entry : OrderEntry α}
    (hmem : entry ∈ t.entries) : t.find? entry.order.id = some entry := by
  obtain ⟨found, hfound⟩ : ∃ found, t.find? entry.order.id = some found := by
    rw [← Option.isSome_iff_exists, find?, List.find?_isSome]
    exact ⟨entry, hmem, beq_self_eq_true _⟩
  have hsame := List.inj_on_of_nodup_map h (mem_of_find? hfound) hmem (id_of_find? hfound)
  rw [hfound, hsame]

theorem mem_unlisted {t : OrderTable α} (h : t.ids.Nodup) {venue : Venue} {listed : List String}
    {id : String} :
    id ∈ t.unlisted venue listed ↔ id ∉ listed ∧ ∃ entry, t.find? id = some entry ∧
      entry.order.venue = venue ∧
      (entry.state = .acknowledged ∨ entry.state = .partiallyFilled) := by
  simp only [unlisted, (List.mergeSort_perm _ _).mem_iff, List.mem_map, List.mem_filter,
    Bool.and_eq_true, beq_iff_eq, Bool.not_eq_true', isAtVenue, Bool.or_eq_true, decide_eq_true_eq,
    List.contains_eq_mem, decide_eq_false_iff_not]
  constructor
  · rintro ⟨entry, ⟨hmem, ⟨hvenue, hstate⟩, hlisted⟩, rfl⟩
    exact ⟨hlisted, entry, find?_eq_some_of_mem h hmem, hvenue, hstate⟩
  · rintro ⟨hlisted, entry, hfind, hvenue, hstate⟩
    have hid := id_of_find? hfind
    rw [← hid] at hlisted
    exact ⟨entry, ⟨mem_of_find? hfind, ⟨hvenue, hstate⟩, hlisted⟩, hid⟩

/-- Missing orders are named in ascending order, each of them once. -/
theorem unlisted_pairwise {t : OrderTable α} (h : t.ids.Nodup) (venue : Venue)
    (listed : List String) : (t.unlisted venue listed).Pairwise (· < ·) := by
  have hsorted : (t.unlisted venue listed).Pairwise (· ≤ ·) := by
    refine (List.pairwise_mergeSort ?_ ?_ _).imp of_decide_eq_true
    · intro a b c hab hbc
      exact decide_eq_true (String.le_trans (of_decide_eq_true hab) (of_decide_eq_true hbc))
    · intro a b
      simpa using String.le_total a b
  have hnodup : (t.unlisted venue listed).Nodup := by
    refine (List.mergeSort_perm _ _).nodup_iff.mpr ?_
    exact h.sublist (List.filter_sublist.map _)
  refine hsorted.imp₂ (fun a b hle hne => ?_) hnodup
  refine String.not_le.mp fun hge => hne ?_
  exact String.le_antisymm hle hge

end Unlisted

variable {α : Type} [Amount α]

theorem find?_receiveAll {t : OrderTable α} {es : List (OrderEvent α × Int)} {id : String}
    (h : id ∉ es.map (·.1.id)) : (t.receiveAll es).find? id = t.find? id := by
  induction es generalizing t with
  | nil => rfl
  | cons x es ih =>
    obtain ⟨e, now⟩ := x
    simp only [List.map_cons, List.mem_cons, not_or] at h
    calc (t.receiveAll ((e, now) :: es)).find? id
      _ = (t.receive e now).1.find? id := ih h.2
      _ = t.find? id := by rw [find?_receive, if_neg h.1]

theorem receiveAll_ids_nodup {t : OrderTable α} (h : t.ids.Nodup)
    (es : List (OrderEvent α × Int)) : (t.receiveAll es).ids.Nodup := by
  induction es generalizing t with
  | nil => exact h
  | cons x es ih => exact ih (Step.ids_nodup h (.receive x.1 x.2))

end OrderTable

namespace SnapshotKind

variable {α : Type}

/-- The order events that a snapshot brings. Only the list of open orders is read for them. -/
def events (kind : SnapshotKind) (records : Except GatewayError (List (Record α))) :
    List (OrderEvent α) :=
  match kind, records with
  | .openOrders, .ok records => orderEvents records
  | _, _ => []

/-- What is reported of a snapshot that is not there. -/
def failure? (kind : SnapshotKind) (records : Except GatewayError (List (Record α))) :
    Option String :=
  match records with
  | .ok _ => none
  | .error e => some (kind.name ++ ": " ++ e.text)

end SnapshotKind

namespace Coordinator

section Table

variable {α : Type} [Amount α]

theorem foldl_receive (c : Coordinator α) (es : List (OrderEvent α)) (now : Int) :
    es.foldl (fun c e => (c.receive e now).2.1) c =
      { c with table := c.table.receiveAll (es.map (·, now)) } := by
  induction es generalizing c with
  | nil => rfl
  | cons e es ih =>
    rw [List.foldl_cons, ih]
    rfl

theorem receiveAll_orders (c : Coordinator α) (now : Int) (records : List (Record α)) :
    (c.receiveAll now (records.filter Record.isOrder)).1 =
      { c with table := c.table.receiveAll ((orderEvents records).map (·, now)) } := by
  induction records generalizing c with
  | nil => rfl
  | cons r records ih =>
    cases r with
    | order e => exact ih (c.receive e now).2.1
    | position _ | balance _ | trade _ | book _ => exact ih c

end Table

variable {α : Type} [Factor α] (c : Coordinator α) (kind : SnapshotKind) (now : Int)
  (records : Except GatewayError (List (Record α))) (report : ReconciliationReport)

/-- A snapshot changes the table and nothing else of a coordinator. -/
theorem takeSnapshot_coordinator :
    (c.takeSnapshot kind now records report).2.1 =
      { c with table := c.table.receiveAll ((kind.events records).map (·, now)) } := by
  cases records with
  | error e => cases kind <;> rfl
  | ok records =>
    cases kind with
    | openOrders => exact c.receiveAll_orders now records
    | positions | balances => rfl

theorem takeSnapshot_venue : (c.takeSnapshot kind now records report).1.venue = report.venue := by
  cases records <;> cases kind <;> rfl

theorem takeSnapshot_errors :
    (c.takeSnapshot kind now records report).1.errors =
      report.errors ++ (kind.failure? records).toList := by
  cases records with
  | error e => rfl
  | ok records => cases kind <;> exact (List.append_nil _).symm

theorem takeSnapshot_of_ne_openOrders (h : kind ≠ .openOrders) :
    (c.takeSnapshot kind now records report).2.1 = c ∧
      (c.takeSnapshot kind now records report).1.openOrders = report.openOrders ∧
      (c.takeSnapshot kind now records report).1.missing = report.missing := by
  cases kind with
  | openOrders => exact absurd rfl h
  | positions | balances => cases records <;> exact ⟨rfl, rfl, rfl⟩

theorem takeSnapshot_positions :
    (c.takeSnapshot kind now records report).1.positions =
      if kind = .positions then records.toOption.elim report.positions List.length
      else report.positions := by
  cases records <;> cases kind <;> rfl

theorem takeSnapshot_balances :
    (c.takeSnapshot kind now records report).1.balances =
      if kind = .balances then records.toOption.elim report.balances List.length
      else report.balances := by
  cases records <;> cases kind <;> rfl

end Coordinator

/-- What the list of open orders does to the table of a coordinator, and what is reported of it: how
many orders are open, and which of those that should be are missing. -/
inductive ListTaken {α : Type} [Amount α] (c : Coordinator α) (venue : Venue) (now : Int)
    (t : OrderTable α) (openOrders : Nat) (missing : List String) :
    Except GatewayError (List (Record α)) → Prop
  | failed (e : GatewayError) (table : t = c.table) (count : openOrders = 0)
      (none_missing : missing = []) : ListTaken c venue now t openOrders missing (.error e)
  | listed (records : List (Record α))
      (table : t = ((orderEvents records).foldl (fun c e => (c.receive e now).2.1) c).table)
      (others : ∀ id, id ∉ (orderEvents records).map (·.id) → t.find? id = c.table.find? id)
      (count : openOrders = ((orderEvents records).map (·.id)).toFinset.card)
      (ascending : missing.Pairwise (· < ·))
      (mem_missing : ∀ id, id ∈ missing ↔ id ∉ (orderEvents records).map (·.id) ∧
        ∃ entry, t.find? id = some entry ∧ entry.order.venue = venue ∧
          (entry.state = .acknowledged ∨ entry.state = .partiallyFilled)) :
      ListTaken c venue now t openOrders missing (.ok records)

theorem Coordinator.takeSnapshot_listTaken {α : Type} [Factor α] {c c' : Coordinator α}
    (htable : c'.table = c.table) (h : c.table.ids.Nodup) (venue : Venue) (now : Int)
    (records : Except GatewayError (List (Record α))) :
    ListTaken c venue now (c'.takeSnapshot .openOrders now records { venue }).2.1.table
      (c'.takeSnapshot .openOrders now records { venue }).1.openOrders
      (c'.takeSnapshot .openOrders now records { venue }).1.missing records := by
  have htaken := c'.takeSnapshot_coordinator .openOrders now records { venue }
  -- A failed fetch changes nothing; a list is received event by event, and ids stay distinct along
  -- it, which makes the missing orders distinct too.
  cases records with
  | error e => exact .failed e htable rfl rfl
  | ok records =>
    have hevents : (c'.takeSnapshot .openOrders now (.ok records) { venue }).2.1.table =
        c.table.receiveAll ((orderEvents records).map (·, now)) := by
      rw [htaken, ← htable]
      rfl
    have hnodup := OrderTable.receiveAll_ids_nodup h ((orderEvents records).map (·, now))
    rw [← hevents] at hnodup
    refine .listed records ?_ ?_ (listedIds_length records)
      (OrderTable.unlisted_pairwise hnodup venue _) ?_
    · rw [hevents, Coordinator.foldl_receive]
    · intro id hid
      have hother : id ∉ ((orderEvents records).map (·, now)).map (·.1.id) := by
        simpa [Function.comp_def] using hid
      rw [hevents, OrderTable.find?_receiveAll hother]
    · intro id
      rw [← mem_listedIds]
      exact OrderTable.mem_unlisted hnodup

end VenueGateway
