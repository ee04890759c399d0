import VenueGateway.Proofs.Coordinator.Orders
import VenueGateway.Proofs.Order.Identity

namespace VenueGateway

namespace OrderTable

section Venues

variable {α : Type}

/-- The orders of one venue. -/
def ofVenue (t : OrderTable α) (v : Venue) : List (OrderEntry α) :=
  t.entries.filter (·.order.venue == v)

theorem mem_ofVenue {t : OrderTable α} {v : Venue} {x : OrderEntry α} :
    x ∈ t.ofVenue v ↔ x ∈ t.entries ∧ x.order.venue = v := by
  simp [ofVenue]

theorem openCount_eq_countP (t : OrderTable α) (v : Venue) :
    t.openCount v = (t.ofVenue v).countP (·.state.isOpen) := by
  rw [openCount, ofVenue, List.countP_filter]
  exact List.countP_congr fun x _ => by rw [Bool.and_comm]

theorem unlisted_eq_filter (t : OrderTable α) (v : Venue) (listed : List String) :
    t.unlisted v listed =
      (((t.ofVenue v).filter fun x => isAtVenue x.state && !listed.contains x.order.id).map
        (·.order.id)).mergeSort fun a b => decide (a ≤ b) := by
  rw [unlisted, ofVenue, List.filter_filter]
  simp only [Bool.and_comm, Bool.and_left_comm]

/-- Entries are replaced without a trace among the orders of a venue to which neither they nor the
new one belong. -/
theorem ofVenue_put {t : OrderTable α} {y : OrderEntry α} {v : Venue} (hy : y.order.venue ≠ v)
    (h : ∀ x ∈ t.ofVenue v, x.order.id ≠ y.order.id) : (t.put y).ofVenue v = t.ofVenue v := by
  simp only [mem_ofVenue] at h
  simp only [ofVenue, put]
  generalize t.entries = xs at h
  induction xs with
  | nil => rfl
  | cons x xs ih =>
    have hrest := ih fun z hz => h z ⟨List.mem_cons_of_mem x hz.1, hz.2⟩
    by_cases hid : x.order.id = y.order.id
    · have hxv : x.order.venue ≠ v := fun hv => h x ⟨List.mem_cons_self, hv⟩ hid
      simpa [hid, hxv, hy] using hrest
    · simp only [List.map_cons, if_neg hid, List.filter_cons, hrest]

end Venues

variable {α : Type} [Amount α]

/-- An entry that the event does not name keeps its place. -/
theorem getElem?_receive_of_ne (t : OrderTable α) {e : OrderEvent α} {i : Nat}
    {entry : OrderEntry α} (now : Int) (h : t.entries[i]? = some entry)
    (hid : entry.order.id ≠ e.id) : (t.receive e now).1.entries[i]? = some entry := by
  unfold receive
  cases hf : t.find? e.id with
  | none =>
    have hi : i < t.entries.length := (List.getElem?_eq_some_iff.mp h).1
    exact (List.getElem?_append_left hi).trans h
  | some named =>
    have hnamed : (named.receive e now false).1.order.id = e.id :=
      (named.receive_id e now false).1.trans (id_of_find? hf)
    simp only [put, List.getElem?_map, h, Option.map_some, hnamed, if_neg hid]

/-- An order that is known is the same for an event of any venue. -/
theorem receive_of_venue (t : OrderTable α) {e : OrderEvent α} {entry : OrderEntry α}
    (h : t.find? e.id = some entry) (v : Venue) (now : Int) :
    t.receive { e with venue := v } now = t.receive e now := by
  simp only [receive, h]
  rfl

theorem ofVenue_receive (t : OrderTable α) {e : OrderEvent α} {v : Venue} (now : Int)
    (hv : v ≠ e.venue) (h : ∀ x ∈ t.ofVenue v, x.order.id ≠ e.id) :
    (t.receive e now).1.ofVenue v = t.ofVenue v := by
  unfold receive
  cases hf : t.find? e.id with
  | none =>
    have hvenue : ((OrderEntry.ofEvent e).receive e now true).1.order.venue = e.venue :=
      congrArg (·.2.1) ((OrderEntry.ofEvent e).receive_origin e now true)
    simp [ofVenue, hvenue, hv.symm]
  | some named =>
    have hid : (named.receive e now false).1.order.id = e.id :=
      (named.receive_id e now false).1.trans (id_of_find? hf)
    have hvenue : (named.receive e now false).1.order.venue = named.order.venue :=
      congrArg (·.2.1) (named.receive_origin e now false)
    -- The entry that is replaced is of another venue than `v`, and stays so.
    have hnamed : named.order.venue ≠ v := fun heq =>
      h named (mem_ofVenue.mpr ⟨mem_of_find? hf, heq⟩) (id_of_find? hf)
    exact ofVenue_put (hvenue ▸ hnamed) (hid ▸ h)

end OrderTable

namespace Coordinator

variable {α : Type} [Amount α]

/-- An event leaves the orders of all other venues as they are, but for one that it names. That one
takes it in as an event of its own venue, and stays what it is of that venue; nothing is added then.
Of a venue without such an order everything stays as it was, and so does what is told of it. -/
theorem neighbours_kept_unless_named (c : Coordinator α) (e : OrderEvent α) (now : Int) :
    (∀ (i : Nat) (entry : OrderEntry α), c.table.entries[i]? = some entry →
      entry.order.venue ≠ e.venue → entry.order.id ≠ e.id →
      (c.receive e now).2.1.table.entries[i]? = some entry) ∧
    (∀ entry : OrderEntry α, c.table.find? e.id = some entry → entry.order.venue ≠ e.venue →
      (∃ entry', (c.receive e now).2.1.table.find? e.id = some entry' ∧
        entry'.origin = entry.origin) ∧
      (c.receive e now).2.1.table.ids = c.table.ids ∧
      (c.receive e now).1 = (c.receive { e with venue := entry.order.venue } now).1 ∧
      (c.receive e now).2.1 = (c.receive { e with venue := entry.order.venue } now).2.1) ∧
    ∀ v, v ≠ e.venue → (∀ entry ∈ c.table.ofVenue v, entry.order.id ≠ e.id) →
      (c.receive e now).2.1.table.ofVenue v = c.table.ofVenue v ∧
        (c.receive e now).2.1.table.openCount v = c.table.openCount v ∧
        ∀ listed, (c.receive e now).2.1.table.unlisted v listed = c.table.unlisted v listed := by
  -- Entries under other ids are untouched because the table looks up by id; the venue of the event
  -- is read by nothing in it, which gives the second part.
  refine ⟨fun i entry h _ hid => c.table.getElem?_receive_of_ne now h hid, ?_, ?_⟩
  · intro entry h _
    have hsame := c.table.receive_of_venue h entry.order.venue now
    refine ⟨⟨_, c.table.find?_receive_of_some now h, entry.receive_origin e now false⟩,
      c.table.receive_ids_of_some now h, ?_, ?_⟩
    · exact congrArg (·.2) hsame.symm
    · exact congrArg (fun r => { c with table := r.1 }) hsame.symm
  · intro v hv hno
    have hkept : (c.receive e now).2.1.table.ofVenue v = c.table.ofVenue v :=
      c.table.ofVenue_receive now hv hno
    refine ⟨hkept, ?_, fun listed => ?_⟩
    · -- Both counts are functions of the venue's entries, which are kept.
      rw [OrderTable.openCount_eq_countP, hkept, OrderTable.openCount_eq_countP]
    · rw [OrderTable.unlisted_eq_filter, hkept, OrderTable.unlisted_eq_filter]

/-- Two orders of two venues. -/
def pair : Coordinator Rat :=
  ((Desk.single .deribit).run
    [.report (.order (.bare .deribit "d" "BTC-PERPETUAL" .ack 1)) 2,
      .report (.order (.bare .binance "b" "BTCUSDT" .ack 1)) 2]).coordinator

/-- A third venue reports the end of one of them. -/
theorem neighbours_kept_unless_named_pair :
    let e : OrderEvent Rat := .bare .grvt "d" "BTC_USDT_Perp" .cancel 2
    ∃ named other, pair.table.find? "d" = some named ∧ named.order.venue = .deribit ∧
      pair.table.entries[1]? = some other ∧ other.order.venue = .binance ∧
      (pair.receive e 3).2.1.table.entries[1]? = some other ∧
      (∃ entry', (pair.receive e 3).2.1.table.find? "d" = some entry' ∧
        entry'.order.venue = .deribit) ∧
      (pair.receive e 3).1 = (pair.receive { e with venue := .deribit } 3).1 ∧
      (pair.receive e 3).2.1.table.openCount .binance = 1 := by
  intro e
  obtain ⟨hother, hnamed, hothers⟩ := neighbours_kept_unless_named pair e 3
  have hd : (pair.table.find? "d").map (·.order.venue) = some .deribit := by decide +kernel
  have hb : pair.table.entries[1]?.map (fun x => (x.order.id, x.order.venue)) =
      some ("b", .binance) := by decide +kernel
  obtain ⟨named, hf, hv⟩ := Option.map_eq_some_iff.mp hd
  obtain ⟨other, hi, hor⟩ := Option.map_eq_some_iff.mp hb
  obtain ⟨hid, hov⟩ := Prod.mk.inj hor
  have hkept := hother 1 other hi (by rw [hov]; decide) (by rw [hid]; decide)
  obtain ⟨⟨entry', hf', horigin⟩, -, hsame, -⟩ := hnamed named hf (by rw [hv]; decide)
  have hv' : entry'.order.venue = .deribit := (congrArg (·.2.1) horigin).trans hv
  obtain ⟨-, hcount, -⟩ := hothers .binance (by decide) (by decide +kernel)
  rw [hv] at hsame
  refine ⟨named, other, hf, hv, hi, hov, hkept, ⟨entry', hf', hv'⟩, hsame, ?_⟩
  rw [hcount]
  decide +kernel

/-- The order of one venue is ended by the other venue's report of an order that it has under the
same id. -/
theorem namesake_ends_order :
    let e : OrderEvent Rat := .bare .binance "d" "BTCUSDT" .cancel 2
    (pair.table.find? "d").map (fun x => (x.order.venue, x.state)) =
        some (.deribit, .acknowledged) ∧
      Venue.deribit ≠ e.venue ∧
      ((pair.receive e 3).2.1.table.find? "d").map (fun x => (x.order.venue, x.state)) =
        some (.deribit, .cancelled) := by
  intro e
  exact ⟨by decide +kernel, by decide, by decide +kernel⟩

/-- So it is for any number of records, such as those of a venue's list of its orders. -/
theorem receiveAll_ofVenue {v : Venue} (now : Int) {rs : List (Record α)} (c : Coordinator α)
    (h : ∀ e, .order e ∈ rs → v ≠ e.venue ∧ ∀ entry ∈ c.table.ofVenue v, entry.order.id ≠ e.id) :
    (c.receiveAll now rs).1.table.ofVenue v = c.table.ofVenue v := by
  induction rs generalizing c with
  | nil => rfl
  | cons r rs ih =>
    have hfirst : (c.receiveRecord r now).1.table.ofVenue v = c.table.ofVenue v := by
      cases r with
      | order e =>
        obtain ⟨hv, hno⟩ := h e List.mem_cons_self
        exact c.table.ofVenue_receive now hv hno
      | position | balance | trade | book => rfl
    refine (ih (c.receiveRecord r now).1 fun e he => ?_).trans hfirst
    rw [hfirst]
    exact h e (List.mem_cons_of_mem r he)

end Coordinator

end VenueGateway
