import VenueGateway.Proofs.Order.Lifecycle

namespace VenueGateway

namespace OrderEntry

section Steps

variable {α : Type}

/-- What is said of an order when its entry is made, and never again. -/
def origin (entry : OrderEntry α) : String × Venue × String × Side × OrderType × Int :=
  (entry.order.id, entry.order.venue, entry.order.symbol, entry.order.side, entry.order.type,
    entry.order.createdAt)

theorem step_origin (entry : OrderEntry α) (kind : EventKind) (now : Int) :
    (entry.step kind now).1.origin = entry.origin := by
  unfold step
  split <;> rfl

theorem stepIf_origin (entry : OrderEntry α) (b : Bool) (kind : EventKind) (now : Int) :
    (entry.stepIf b kind now).1.origin = entry.origin := by
  cases b with
  | false => rfl
  | true => exact step_origin entry kind now

end Steps

variable {α : Type} [Amount α]

theorem prepared_origin (entry : OrderEntry α) (e : OrderEvent α) :
    (entry.prepared e).origin = entry.origin := by
  unfold prepared amend
  split <;> rfl

theorem recordFill_origin (entry : OrderEntry α) (f : Fill α) (now : Int) :
    (entry.recordFill f now).1.origin = entry.origin := by
  by_cases h : entry.increment f ≤ Amount.epsilon
  · rw [recordFill_of_le now h]
    rfl
  · rw [recordFill_of_not_le now h]
    rfl

theorem receiveFill_origin (entry : OrderEntry α) (f : Fill α) (now : Int) :
    (entry.receiveFill f now).1.origin = entry.origin := by
  cases h : entry.state.isTerminal with
  | true => rw [receiveFill_of_isTerminal f now h]
  | false =>
    rw [receiveFill_of_isOpen f now h]
    calc ((entry.acked now).recordFill f now).1.climb now |>.1.origin
      _ = ((entry.acked now).recordFill f now).1.origin :=
        (stepIf_origin _ _ .fill now).trans (stepIf_origin _ _ .fill now)
      _ = (entry.acked now).origin := recordFill_origin _ f now
      _ = entry.origin := stepIf_origin entry _ .ack now

theorem receiveStep_origin (entry : OrderEntry α) (e : OrderEvent α) (now : Int) :
    (entry.receiveStep e now).1.origin = entry.origin := by
  simp only [receiveStep]
  split <;> exact step_origin entry e.kind now

theorem receive_origin (entry : OrderEntry α) (e : OrderEvent α) (now : Int) (isNew : Bool) :
    (entry.receive e now isNew).1.origin = entry.origin := by
  by_cases hk : e.kind = .fill
  · rw [receive_of_fill entry now isNew hk]
    exact (receiveFill_origin _ e.fill now).trans (prepared_origin entry e)
  · rw [receive_of_ne_fill entry now isNew hk]
    exact (receiveStep_origin _ e now).trans (prepared_origin entry e)

namespace Course

variable {a b c : OrderEntry α} {es es' : List (OrderEvent α × Int)}

theorem trans (h : Course a es b) (h' : Course b es' c) : Course a (es ++ es') c := by
  induction h' with
  | start => simpa using h
  | hear _ e now ih =>
    rw [← List.append_assoc]
    exact ih.hear e now
  | retry _ n ih => exact ih.retry n

theorem origin_eq (h : Course a es b) : b.origin = a.origin := by
  induction h with
  | start => rfl
  | hear _ e now ih => exact (receive_origin _ e now false).trans ih
  | retry _ n ih => exact ih

/-- Of an order that is over, only the venue's id and the count of retries are still written. -/
theorem eq_of_isTerminal (h : Course a es b) (ht : a.state.isTerminal = true) :
    b = { a with
      retries := b.retries
      order := { a.order with venueId := b.order.venueId } } := by
  induction h with
  | start => rfl
  | @hear es b _ e now ih =>
    have hb : b.state.isTerminal = true := by rw [ih]; exact ht
    rw [receive_of_isTerminal e now false hb, ih]
    rfl
  | retry _ n ih => rw [ih]

end Course

end OrderEntry

namespace OrderTable

open OrderEntry (Course)

def ids {α : Type} (t : OrderTable α) : List String := t.entries.map (·.order.id)

theorem put_ids {α : Type} (t : OrderTable α) (x : OrderEntry α) : (t.put x).ids = t.ids := by
  simp only [ids, put, List.map_map]
  refine List.map_congr_left fun y _ => ?_
  by_cases h : y.order.id = x.order.id <;> simp [h]

theorem addRetries_ids {α : Type} (t : OrderTable α) (id : String) (n : Nat) :
    (t.addRetries id n).ids = t.ids := by
  unfold addRetries
  split
  · exact put_ids t _
  · rfl

theorem not_mem_ids_of_find? {α : Type} {t : OrderTable α} {id : String}
    (h : t.find? id = none) : id ∉ t.ids := by
  intro hm
  obtain ⟨entry, he, hid⟩ := List.mem_map.mp hm
  have hne := List.find?_eq_none.mp h entry he
  simp [hid] at hne

theorem append_ids_nodup {α : Type} {t : OrderTable α} (h : t.ids.Nodup) {x : OrderEntry α}
    (hx : t.find? x.order.id = none) : (OrderTable.mk (t.entries ++ [x])).ids.Nodup := by
  have he : (OrderTable.mk (t.entries ++ [x])).ids = t.ids ++ [x.order.id] := by simp [ids]
  rw [he, List.nodup_append]
  refine ⟨h, by simp, ?_⟩
  rintro a ha b hb rfl
  rw [List.mem_singleton.mp hb] at ha
  exact not_mem_ids_of_find? hx ha

variable {α : Type} [Amount α]

theorem Step.ids_nodup {t t' : OrderTable α} (h : t.ids.Nodup) (hs : Step t t') : t'.ids.Nodup := by
  cases hs with
  | insert o _ hi =>
    obtain ⟨hn, rfl⟩ := insertNew?_eq_some hi
    exact append_ids_nodup h hn
  | addRetries id n =>
    rw [addRetries_ids]
    exact h
  | receive e now =>
    -- A new entry is made only where the lookup of its id has found none.
    unfold OrderTable.receive
    cases hf : t.find? e.id with
    | some entry =>
      rw [put_ids]
      exact h
    | none =>
      refine append_ids_nodup h ?_
      rw [((OrderEntry.ofEvent e).receive_id e now true).1]
      exact hf

/-- A step of a table carries each of its entries on. -/
theorem Step.course {t t' : OrderTable α} (hs : Step t t') {id : String} {entry : OrderEntry α}
    (h : t.find? id = some entry) :
    ∃ es entry', Course entry es entry' ∧ t'.find? id = some entry' := by
  cases hs with
  | insert o _ hi =>
    have hne : id ≠ o.id := by
      rintro rfl
      rw [(insertNew?_eq_some hi).1] at h
      cases h
    exact ⟨[], entry, .start, by rw [find?_insertNew? hi, if_neg hne, h]⟩
  | addRetries id' n =>
    obtain ⟨k, hk⟩ := find?_addRetries_of_some h id' n
    exact ⟨[], _, .retry .start k, hk⟩
  | receive e now =>
    by_cases hid : id = e.id
    · subst hid
      exact ⟨[(e, now)], _, .hear .start e now, find?_receive_of_some now h⟩
    · rw [find?_receive, if_neg hid]
      exact ⟨[], entry, .start, h⟩

theorem receive_ids_of_some (t : OrderTable α) {e : OrderEvent α} {entry : OrderEntry α}
    (now : Int) (h : t.find? e.id = some entry) : (t.receive e now).1.ids = t.ids := by
  simp only [receive, h]
  exact put_ids t _

/-- An event goes to an order's entry, and adds none. -/
def Reaches (id : String) (e : OrderEvent α) : Prop :=
  ∀ (t : OrderTable α) (entry : OrderEntry α) (now : Int), t.find? id = some entry →
    (t.receive e now).1.find? id = some (entry.receive e now false).1 ∧
      (t.receive e now).1.ids = t.ids ∧ (t.receive e now).2.isNew = false

/-- An event passes an order's entry by: it is taken for one of another order, which is added unless
it is there. -/
def Misses (id : String) (e : OrderEvent α) : Prop :=
  ∀ (t : OrderTable α) (entry : OrderEntry α) (now : Int), t.find? id = some entry →
    (t.receive e now).1.find? id = some entry ∧
      (t.find? e.id = none →
        (t.receive e now).1.ids = t.ids ++ [e.id] ∧ (t.receive e now).2.isNew = true)

theorem isNew_receive (t : OrderTable α) (e : OrderEvent α) (now : Int) :
    (t.receive e now).2.isNew = (t.find? e.id).isNone := by
  rw [receive_update]
  rfl

theorem reaches (e : OrderEvent α) : Reaches e.id e := by
  intro t entry now h
  refine ⟨find?_receive_of_some now h, t.receive_ids_of_some now h, ?_⟩
  rw [isNew_receive, h]
  rfl

theorem misses {id : String} {e : OrderEvent α} (hne : id ≠ e.id) : Misses id e := by
  intro t entry now h
  constructor
  · rw [find?_receive, if_neg hne, h]
  · intro hnone
    have hid := ((OrderEntry.ofEvent e).receive_id e now true).1
    constructor
    · simp only [receive, hnone, ids, List.map_append, List.map_singleton, hid]
      rfl
    · rw [isNew_receive, hnone]
      rfl

end OrderTable

end VenueGateway
