import VenueGateway.Proofs.Order.Receive

namespace VenueGateway.OrderTable

section Lookup

variable {α : Type}

theorem id_of_find? {t : OrderTable α} {id : String} {entry : OrderEntry α}
    (h : t.find? id = some entry) : entry.order.id = id := by
  have hp := List.find?_some h
  exact eq_of_beq hp

theorem mem_of_find? {t : OrderTable α} {id : String} {entry : OrderEntry α}
    (h : t.find? id = some entry) : entry ∈ t.entries := List.mem_of_find?_eq_some h

theorem find?_put (t : OrderTable α) (x : OrderEntry α) (id : String) :
    (t.put x).find? id =
      if id = x.order.id then (t.find? id).map fun _ => x else t.find? id := by
  simp only [find?, put]
  induction t.entries with
  | nil => simp
  | cons y ys ih =>
    -- The first entry is replaced, or the lookup goes on behind it.
    by_cases hy : y.order.id = x.order.id
    · by_cases hid : id = x.order.id
      · subst hid
        simp [hy]
      · have hne : ¬ x.order.id = id := fun h => hid h.symm
        have hne' : ¬ y.order.id = id := fun h => hne (hy ▸ h)
        simpa [hy, hid, hne, hne'] using ih
    · by_cases hid : y.order.id = id
      · have hne : ¬ id = x.order.id := fun h => hy (hid.trans h)
        simp [hid, hne]
      · simpa [hy, hid] using ih

theorem mem_put {t : OrderTable α} {x y : OrderEntry α} (h : y ∈ (t.put x).entries) :
    y = x ∨ y ∈ t.entries := by
  obtain ⟨z, hz, rfl⟩ := List.mem_map.mp h
  by_cases hx : z.order.id = x.order.id
  · exact Or.inl (if_pos hx)
  · exact Or.inr (by simpa only [if_neg hx] using hz)

theorem find?_append (t : OrderTable α) (x : OrderEntry α) (id : String)
    (h : t.find? x.order.id = none) :
    (OrderTable.mk (t.entries ++ [x])).find? id =
      if id = x.order.id then some x else t.find? id := by
  simp only [find?, List.find?_append, List.find?_singleton, beq_iff_eq] at h ⊢
  by_cases hid : id = x.order.id
  · subst hid
    simp [h]
  · have hne : ¬ x.order.id = id := fun e => hid e.symm
    simp [hid, hne]

theorem put_append {t : OrderTable α} {x y : OrderEntry α} (h : t.find? y.order.id = none)
    (hxy : x.order.id = y.order.id) :
    (OrderTable.mk (t.entries ++ [x])).put y = ⟨t.entries ++ [y]⟩ := by
  have hall := List.find?_eq_none.mp h
  have hput : t.entries.map (fun e => if e.order.id = y.order.id then y else e) = t.entries := by
    refine (List.map_congr_left fun e he => if_neg ?_).trans (List.map_id _)
    simpa using hall e he
  simp [put, hput, hxy]

theorem find?_of_contains_false {t : OrderTable α} {id : String} (h : t.contains id = false) :
    t.find? id = none := by
  simpa [contains] using h

theorem find?_addRetries (t : OrderTable α) (id : String) (n : Nat) (id' : String) :
    (t.addRetries id n).find? id' =
      (t.find? id').map fun entry =>
        if id' = id then { entry with retries := entry.retries + n } else entry := by
  unfold addRetries
  cases h : t.find? id with
  | none =>
    by_cases hid : id' = id
    · subst hid
      simp [h]
    · simp [hid]
  | some entry =>
    have hk : entry.order.id = id := id_of_find? h
    simp only [find?_put, hk]
    by_cases hid : id' = id
    · subst hid
      simp [h]
    · simp [hid]

theorem find?_addRetries_of_some {t : OrderTable α} {id : String} {entry : OrderEntry α}
    (h : t.find? id = some entry) (id' : String) (n : Nat) :
    ∃ k, (t.addRetries id' n).find? id = some { entry with retries := entry.retries + k } := by
  rw [find?_addRetries, h]
  by_cases hid : id = id'
  · exact ⟨n, by simp [hid]⟩
  · exact ⟨0, by simp [hid]⟩

theorem mem_addRetries {t : OrderTable α} {id : String} {n : Nat} {x : OrderEntry α}
    (h : x ∈ (t.addRetries id n).entries) :
    (∃ entry ∈ t.entries, x = { entry with retries := entry.retries + n }) ∨ x ∈ t.entries := by
  unfold addRetries at h
  cases hf : t.find? id with
  | none =>
    rw [hf] at h
    exact Or.inr h
  | some entry =>
    rw [hf] at h
    rcases mem_put h with rfl | h
    · exact Or.inl ⟨entry, mem_of_find? hf, rfl⟩
    · exact Or.inr h

theorem addRetries_append {t : OrderTable α} {x : OrderEntry α} (h : t.find? x.order.id = none)
    (n : Nat) :
    (OrderTable.mk (t.entries ++ [x])).addRetries x.order.id n =
      ⟨t.entries ++ [{ x with retries := x.retries + n }]⟩ := by
  unfold addRetries
  rw [find?_append t x _ h, if_pos rfl]
  exact put_append h rfl

/-- An order that is over can be neither cancelled nor modified. -/
theorem live_of_isTerminal {t : OrderTable α} {id : String} {entry : OrderEntry α}
    (h : t.find? id = some entry) (ht : entry.state.isTerminal = true) :
    t.live id = .error (.closed id entry.state) := by
  simp only [live, h, ht, if_true]

end Lookup

variable {α : Type} [Amount α]

theorem insertNew?_eq_some {t t' : OrderTable α} {o : Order α} (h : t.insertNew? o = some t') :
    t.find? o.id = none ∧ t' = ⟨t.entries ++ [.new o]⟩ := by
  unfold insertNew? at h
  cases hc : t.contains o.id with
  | true => simp [hc] at h
  | false =>
    simp only [hc, Bool.false_eq_true, if_false, Option.some.injEq] at h
    exact ⟨find?_of_contains_false hc, h.symm⟩

theorem insertNew?_of_find? {t : OrderTable α} {o : Order α} (h : t.find? o.id = none) :
    t.insertNew? o = some ⟨t.entries ++ [.new o]⟩ := by
  simp [insertNew?, contains, h]

theorem find?_insertNew? {t t' : OrderTable α} {o : Order α} (h : t.insertNew? o = some t')
    (id : String) :
    t'.find? id = if id = o.id then some (.new o) else t.find? id := by
  obtain ⟨hn, rfl⟩ := insertNew?_eq_some h
  exact find?_append t (.new o) id hn

/-- The entry that an event acts on: the one under its id, or a new one. -/
def target (t : OrderTable α) (e : OrderEvent α) : OrderEntry α :=
  (t.find? e.id).getD (.ofEvent e)

theorem target_id (t : OrderTable α) (e : OrderEvent α) : (t.target e).order.id = e.id := by
  unfold target
  cases h : t.find? e.id with
  | none => rfl
  | some entry => exact id_of_find? h

theorem receive_update (t : OrderTable α) (e : OrderEvent α) (now : Int) :
    (t.receive e now).2 = ((t.target e).receive e now (t.find? e.id).isNone).2 := by
  unfold receive target
  cases t.find? e.id with
  | none => rfl
  | some entry => rfl

theorem find?_receive (t : OrderTable α) (e : OrderEvent α) (now : Int) (id : String) :
    (t.receive e now).1.find? id =
      if id = e.id then some ((t.target e).receive e now false).1 else t.find? id := by
  have hid := (t.target e).receive_id e now false
  rw [target_id] at hid
  unfold receive
  cases h : t.find? e.id with
  | none =>
    have ht : t.target e = .ofEvent e := by simp [target, h]
    rw [ht] at hid ⊢
    have ha := find?_append t ((OrderEntry.ofEvent e).receive e now true).1 id
    rw [(OrderEntry.ofEvent e).receive_entry, hid.1] at ha
    exact ha h
  | some entry =>
    have ht : t.target e = entry := by simp [target, h]
    rw [ht] at hid ⊢
    have hp := find?_put t (entry.receive e now false).1 id
    rw [hid.1] at hp
    refine hp.trans ?_
    by_cases hx : id = e.id
    · subst hx
      simp [h]
    · simp [hx]

theorem find?_receive_of_some {t : OrderTable α} {e : OrderEvent α} {entry : OrderEntry α}
    (now : Int) (h : t.find? e.id = some entry) :
    (t.receive e now).1.find? e.id = some (entry.receive e now false).1 := by
  have ht : t.target e = entry := by simp [target, h]
  rw [find?_receive, if_pos rfl, ht]

theorem receive_append {t : OrderTable α} {x : OrderEntry α} {e : OrderEvent α} (now : Int)
    (h : t.find? x.order.id = none) (hid : e.id = x.order.id) :
    ((OrderTable.mk (t.entries ++ [x])).receive e now).1 =
      ⟨t.entries ++ [(x.receive e now false).1]⟩ := by
  have hr := (x.receive_id e now false).1
  unfold receive
  rw [hid, find?_append t x _ h, if_pos rfl]
  exact put_append (by rw [hr]; exact h) hr.symm

theorem mem_receive {t : OrderTable α} {e : OrderEvent α} {now : Int} {x : OrderEntry α}
    (h : x ∈ (t.receive e now).1.entries) :
    x = ((t.target e).receive e now false).1 ∨ x ∈ t.entries := by
  unfold receive at h
  cases hf : t.find? e.id with
  | none =>
    simp only [hf, List.mem_append, List.mem_singleton] at h
    simp only [target, hf, Option.getD_none]
    exact h.symm
  | some entry =>
    simp only [hf] at h
    simp only [target, hf, Option.getD_some]
    exact mem_put h

/-- What the steps of a gateway can do to its table. -/
inductive Step (t : OrderTable α) : OrderTable α → Prop
  | insert (o : Order α) (t' : OrderTable α) (h : t.insertNew? o = some t') : Step t t'
  | addRetries (id : String) (n : Nat) : Step t (t.addRetries id n)
  | receive (e : OrderEvent α) (now : Int) : Step t (t.receive e now).1

end VenueGateway.OrderTable
