import VenueGateway.Proofs.Coordinator.Admission
import VenueGateway.Proofs.Coordinator.Errands

namespace VenueGateway

theorem Limiter.check_ok_of_calm {l : Limiter} {t : Nat}
    (h : ∀ o ∈ (l.check t).2.2, o.isCalm = true) : (l.check t).1 = .ok () := by
  unfold check at h ⊢
  cases hacquire : l.acquire (l.window t) with
  | mk allowed l' =>
    cases allowed with
    | true => rfl
    | false =>
      rw [hacquire] at h
      exact absurd (h _ List.mem_cons_self) (by simp [Observation.isCalm])

/-- The windows of the steps to come, as a limiter counts them, do not go back and fit into 32
bits. -/
structure Limiter.Timely {α : Type} (l : Limiter) (xs : List (Circumstance α)) : Prop where
  ordered : xs.Pairwise fun x y => l.window x.clock.elapsed ≤ l.window y.clock.elapsed
  ahead : ∀ x ∈ xs, windowOf l.slot ≤ l.window x.clock.elapsed
  word : ∀ x ∈ xs, l.window x.clock.elapsed < 0x100000000

namespace Registry

variable {α : Type} {r r' : Registry α} {service : String} {l : Limiter} {t : Nat}

/-- A service whose limiter is there already asks that one. -/
theorem checkRate_eq (h : r.limiter? service = some l) (t : Nat) :
    r.checkRate service t =
      ((l.check t).1, r.setLimiter service (l.check t).2.1, (l.check t).2.2) := by
  have hl : r.limiter service t = l := by rw [limiter, h, Option.getD_some]
  rw [checkRate, hl]

theorem limiter?_checkRate (h : r.limiter? service = some l) (t : Nat) :
    (r.checkRate service t).2.1.limiter? service = some (l.check t).2.1 := by
  rw [checkRate_eq h]
  exact r.limiter?_setLimiter service _

/-- Both registries have a limiter for the service, and that of the second one lags behind. -/
def Lags (service : String) (r r' : Registry α) : Prop :=
  ∃ l l', r.limiter? service = some l ∧ r'.limiter? service = some l' ∧ l.Lags l'

end Registry

namespace Breaker

/-- Two closed breakers, one of which has counted some failures less. -/
structure Behind (n : Nat) (b b' : Breaker) : Prop where
  closed : b.state = .closed
  closed' : b'.state = .closed
  config_eq : b'.config = b.config
  failures_eq : b.failures = b'.failures + n
  room : b.failures < b.config.threshold
  word : b.config.threshold < Text.bound32

theorem not_trips_of_calm {b : Breaker} (h : b.state = .closed) {now : Nat}
    (hcalm : ∀ o ∈ (b.fail now).2, o.isCalm = true) : ¬ b.Trips := by
  intro htrips
  have hopen : (b.failed now).state ≠ .open := by simp [failed, h]
  rw [fail_eq, if_pos htrips, moveTo, if_neg hopen] at hcalm
  exact absurd (hcalm _ List.mem_cons_self) (by simp [Observation.isCalm])

variable {n : Nat} {b b' : Breaker} {now : Nat}

theorem Behind.ne_open (h : Behind n b b') : b.state ≠ .open := by simp [h.closed]

theorem Behind.ne_open' (h : Behind n b b') : b'.state ≠ .open := by simp [h.closed']

theorem Behind.not_trips (h : Behind n b b') (hcalm : ∀ o ∈ (b.fail now).2, o.isCalm = true) :
    b.failures + 1 < b.config.threshold := by
  have hno := not_trips_of_calm h.closed hcalm
  have hroom := h.room
  have hword := h.word
  rw [Trips, not_or, Nat.mod_eq_of_lt (by omega)] at hno
  omega

/-- A failure of which one breaker alone hears. -/
theorem Behind.fail_alone (h : Behind n b b') (hcalm : ∀ o ∈ (b.fail now).2, o.isCalm = true) :
    Behind (n + 1) (b.fail now).1 b' := by
  have hlt := h.not_trips hcalm
  have hcount := b.failed_failures now (hlt.trans h.word)
  rw [fail_fst_of_not_trips (not_trips_of_calm h.closed hcalm)]
  exact
    { closed := h.closed
      closed' := h.closed'
      config_eq := h.config_eq
      failures_eq := by rw [hcount, h.failures_eq, Nat.add_assoc]
      room := hcount ▸ hlt
      word := h.word }

/-- An answer of which both hear; a success clears both counts. -/
theorem Behind.report {β : Type} (h : Behind n b b') (outcome : Except GatewayError β)
    (hcalm : ∀ o ∈ (b.report now outcome).2, o.isCalm = true) :
    Behind (if outcome.isOk then 0 else n) (b.report now outcome).1 (b'.report now outcome).1 := by
  cases outcome with
  | ok x =>
    have hthreshold : 0 < b.config.threshold := Nat.zero_lt_of_lt h.room
    simp only [Breaker.report, succeed_fst]
    exact ⟨rfl, rfl, h.config_eq, rfl, hthreshold, h.word⟩
  | error e =>
    -- The one ahead does not open, and the other has further to go.
    have hlt := h.not_trips hcalm
    have hle : b'.failures + 1 ≤ b.failures + 1 := by rw [h.failures_eq]; omega
    have hword' : b'.failures + 1 < Text.bound32 := hle.trans_lt (hlt.trans h.word)
    have hcount := b.failed_failures now (hlt.trans h.word)
    have hcount' := b'.failed_failures now hword'
    have hno' : ¬ b'.Trips := by
      rw [Trips, h.closed', h.config_eq, Nat.mod_eq_of_lt hword']
      simpa using hle.trans_lt hlt
    simp only [Breaker.report, fail_fst_of_not_trips (not_trips_of_calm h.closed hcalm),
      fail_fst_of_not_trips hno']
    exact
      { closed := h.closed
        closed' := h.closed'
        config_eq := h.config_eq
        failures_eq := by
          rw [hcount, hcount', h.failures_eq]
          exact Nat.add_right_comm _ _ _
        room := hcount ▸ hlt
        word := h.word }

end Breaker

namespace OrderTable

variable {α : Type}

/-- An id that was spent on a refused order, in one table only. That order is over, unless it is the
one being sent. -/
structure Spent (d : Dialect) (sending : Option String) (t t' : OrderTable α) (id : String) :
    Prop where
  barred : d.barsId id = true
  absent : t'.find? id = none
  present : ∃ entry, t.find? id = some entry ∧
    (entry.state.isTerminal = true ∨ sending = some id)

/-- Two tables that differ in spent ids only. -/
structure Apart (d : Dialect) (sending : Option String) (t t' : OrderTable α) : Prop where
  agree : ∀ id, t'.find? id = t.find? id ∨ Spent d sending t t' id
  sent : ∀ id, sending = some id → Spent d sending t t' id

variable {d : Dialect} {sending : Option String} {t t' : OrderTable α} {id : String}

theorem Apart.refl (d : Dialect) (t : OrderTable α) : Apart d none t t :=
  ⟨fun _ => .inl rfl, fun _ h => by cases h⟩

theorem Apart.eq_of_not_barred (h : Apart d sending t t') (hid : d.barsId id = false) :
    t'.find? id = t.find? id := by
  rcases h.agree id with heq | hspent
  · exact heq
  · rw [hspent.barred] at hid
    cases hid

theorem Apart.absent (h : Apart d sending t t') (hid : t.find? id = none) : t'.find? id = none := by
  rcases h.agree id with heq | hspent
  · exact heq.trans hid
  · exact hspent.absent

theorem Spent.addRetries (h : Spent d sending t t' id) (x : String) (n : Nat) :
    Spent d sending (t.addRetries x n) (t'.addRetries x n) id := by
  obtain ⟨entry, hfind, hstate⟩ := h.present
  obtain ⟨k, hk⟩ := find?_addRetries_of_some hfind x n
  exact ⟨h.barred, by rw [find?_addRetries, h.absent]; rfl, _, hk, hstate⟩

theorem Apart.addRetries (h : Apart d sending t t') (x : String) (n : Nat) :
    Apart d sending (t.addRetries x n) (t'.addRetries x n) where
  agree id := (h.agree id).imp (fun heq => by rw [find?_addRetries, find?_addRetries, heq])
    fun hspent => hspent.addRetries x n
  sent id hid := (h.sent id hid).addRetries x n

/-- No retries leave the table as it is. -/
theorem find?_addRetries_zero (t : OrderTable α) (id x : String) :
    (t.addRetries id 0).find? x = t.find? x := by
  rw [find?_addRetries]
  simp

theorem Apart.congr_left (h : Apart d sending t t') {u : OrderTable α}
    (hu : ∀ id, u.find? id = t.find? id) : Apart d sending u t' := by
  have hspent (id) (h : Spent d sending t t' id) : Spent d sending u t' id := by
    obtain ⟨entry, hfind, hstate⟩ := h.present
    exact ⟨h.barred, h.absent, entry, (hu id).trans hfind, hstate⟩
  exact ⟨fun id => (h.agree id).imp (·.trans (hu id).symm) (hspent id),
    fun id hid => hspent id (h.sent id hid)⟩

/-- What becomes of the entry of one id decides, if all others stay. -/
theorem Apart.change {sending' : Option String} {u u' : OrderTable α} (h : Apart d sending t t')
    (id : String) (hu : ∀ x, x ≠ id → u.find? x = t.find? x)
    (hu' : ∀ x, x ≠ id → u'.find? x = t'.find? x) (hsending : ∀ x, x ≠ id → sending ≠ some x)
    (hid : u'.find? id = u.find? id ∨ Spent d sending' u u' id)
    (hsent : ∀ x, sending' = some x → Spent d sending' u u' x) : Apart d sending' u u' := by
  refine ⟨fun x => ?_, hsent⟩
  by_cases heq : x = id
  · exact heq ▸ hid
  · rcases h.agree x with hsame | ⟨hbarred, habsent, entry, hpresent, hstate⟩
    · exact .inl (by rw [hu x heq, hu' x heq, hsame])
    · exact .inr ⟨hbarred, (hu' x heq).trans habsent, entry, (hu x heq).trans hpresent,
        .inl (hstate.resolve_right (hsending x heq))⟩

variable [Amount α]

theorem find?_insertNew?_of_ne {o : Order α} {u : OrderTable α} (hu : t.insertNew? o = some u)
    {x : String} (hx : x ≠ o.id) : u.find? x = t.find? x := by
  rw [find?_insertNew? hu, if_neg hx]

theorem find?_receive_of_ne (t : OrderTable α) (e : OrderEvent α) (now : Int) {x : String}
    (hx : x ≠ e.id) : (t.receive e now).1.find? x = t.find? x := by
  rw [find?_receive, if_neg hx]

theorem Apart.insertNew? (h : Apart d none t t') {o : Order α} (hid : d.barsId o.id = false) :
    t.insertNew? o = none ∧ t'.insertNew? o = none ∨
      ∃ u u', t.insertNew? o = some u ∧ t'.insertNew? o = some u' ∧ Apart d none u u' := by
  have hfind := h.eq_of_not_barred hid
  -- The id is not barred, so both tables know the same of it.
  cases hnew : t.find? o.id with
  | some entry =>
    refine .inl ⟨?_, ?_⟩
    · simp [OrderTable.insertNew?, contains, hnew]
    · simp [OrderTable.insertNew?, contains, hfind, hnew]
  | none =>
    have hu := insertNew?_of_find? hnew
    have hu' := insertNew?_of_find? (hfind.trans hnew)
    have hentry := find?_insertNew? hu o.id
    have hentry' := find?_insertNew? hu' o.id
    rw [if_pos rfl] at hentry hentry'
    have hsame := hentry'.trans hentry.symm
    exact .inr ⟨_, _, hu, hu', h.change o.id (fun x => find?_insertNew?_of_ne hu)
      (fun x => find?_insertNew?_of_ne hu') (by simp) (.inl hsame) (by simp)⟩

/-- A refused order is being sent. -/
theorem Apart.insert_alone (h : Apart d none t t') {o : Order α} (hid : d.barsId o.id = true)
    {u : OrderTable α} (hu : t.insertNew? o = some u) : Apart d (some o.id) u t' := by
  have hsent : Spent d (some o.id) u t' o.id := by
    have hnew := find?_insertNew? hu o.id
    rw [if_pos rfl] at hnew
    exact ⟨hid, h.absent (insertNew?_eq_some hu).1, _, hnew, .inr rfl⟩
  exact h.change o.id (fun x => find?_insertNew?_of_ne hu) (fun x _ => rfl) (by simp) (.inr hsent)
    fun x hx => Option.some.inj hx ▸ hsent

theorem Apart.receive (h : Apart d none t t') {e : OrderEvent α} (hid : d.barsId e.id = false)
    (now : Int) : Apart d none (t.receive e now).1 (t'.receive e now).1 := by
  have htarget : t'.target e = t.target e := by rw [target, target, h.eq_of_not_barred hid]
  have hsame : (t'.receive e now).1.find? e.id = (t.receive e now).1.find? e.id := by
    rw [find?_receive, find?_receive, htarget, if_pos rfl, if_pos rfl]
  exact h.change e.id (fun x => find?_receive_of_ne t e now) (fun x => find?_receive_of_ne t' e now)
    (by simp) (.inl hsame) (by simp)

/-- A refused order is over once it is rejected. -/
theorem Apart.reject_alone {r : OrderRequest α} (h : Apart d (some r.id) t t') (e : GatewayError)
    (now : Int) : Apart d none (t.receive (r.rejection e now) now).1 t' := by
  obtain ⟨hbarred, habsent, entry, hpresent, -⟩ := h.sent r.id rfl
  have hreceive := find?_receive_of_some (e := r.rejection e now) now hpresent
  have hover : ((entry.receive (r.rejection e now) now false).1).state.isTerminal = true := by
    -- A venue's event may have ended it before.
    cases hterminal : entry.state.isTerminal with
    | true =>
      rw [OrderEntry.receive_rejection_of_isTerminal r e now hterminal]
      exact hterminal
    | false =>
      rw [OrderEntry.receive_rejection_of_isOpen r e now hterminal]
      rfl
  exact h.change r.id (fun x hx => find?_receive_of_ne t (r.rejection e now) now hx)
    (fun x _ => rfl) (fun x hx hsending => hx (Option.some.inj hsending).symm)
    (.inr ⟨hbarred, habsent, _, hreceive, .inl hover⟩) (by simp)

end OrderTable

namespace Coordinator

section Apart

variable {α : Type}

/-- Two coordinators of one venue after sequences of instructions that differ in refused ones, one
of which may be under way. -/
structure Apart (d : Dialect) (sending : Option String) (n : Nat) (c c' : Coordinator α) :
    Prop where
  venues_eq : c'.venues = c.venues
  known : ∀ venue ∈ c.venues, venue = d.venue
  retry_eq : c'.registry.defaults.retry = c.registry.defaults.retry
  breaker : (c.registry.breaker d.service).Behind n (c'.registry.breaker d.service)
  limiter : c.registry.Lags d.service c'.registry
  table : c.table.Apart d sending c'.table

/-- The service has a limiter, and the steps to come are timely for it. -/
def Timely (d : Dialect) (c : Coordinator α) (xs : List (Circumstance α)) : Prop :=
  ∃ l, c.registry.limiter? d.service = some l ∧ l.Timely xs

variable {d : Dialect} {sending : Option String} {n : Nat} {c c' : Coordinator α}
  {x : Circumstance α} {xs : List (Circumstance α)}

theorem Apart.begin_eq [JsonAmount α] (h : Apart d sending n c c') (v : VenueRequest α) :
    c'.begin v = c.begin v := by
  simp only [begin, Registry.begin, h.retry_eq]

theorem Apart.phaseAllowed_eq [JsonAmount α] (h : Apart d sending n c c') (v : VenueRequest α) :
    c'.phaseAllowed v = c.phaseAllowed v := by
  cases v with
  | send r => rfl
  | cancel o => exact h.begin_eq _
  | modify o quantity price => exact h.begin_eq _

theorem Timely.of_append {ys : List (Circumstance α)} (h : Timely d c (xs ++ ys)) :
    Timely d c ys := by
  obtain ⟨l, hl, ht⟩ := h
  exact ⟨l, hl, (List.pairwise_append.mp ht.ordered).2.1,
    fun y hy => ht.ahead y (List.mem_append_right xs hy),
    fun y hy => ht.word y (List.mem_append_right xs hy)⟩

/-- A step that does not ask the limiter. -/
theorem Timely.tail (h : Timely d c (x :: xs)) {c₁ : Coordinator α}
    (hsame : c₁.registry.limiter? d.service = c.registry.limiter? d.service) :
    Timely d c₁ xs := by
  obtain ⟨l, hl, ht⟩ := Timely.of_append (show Timely d c ([x] ++ xs) from h)
  exact ⟨l, hsame.trans hl, ht⟩

/-- A limiter that is asked goes on to the window at hand. -/
theorem Timely.checkRate (h : Timely d c (x :: xs))
    (hok : (c.registry.checkRate d.service x.clock.elapsed).1 = .ok ()) :
    Timely d { c with registry := (c.registry.checkRate d.service x.clock.elapsed).2.1 } xs := by
  obtain ⟨l, hl, ht⟩ := h
  obtain ⟨hnext, hordered⟩ := List.pairwise_cons.mp ht.ordered
  rw [Registry.checkRate_eq hl] at hok
  have hslot := Limiter.windowOf_check (ht.ahead x List.mem_cons_self)
    (ht.word x List.mem_cons_self) hok
  -- The limiter keeps the time it was made at, so it counts the steps to come as before.
  have hwindow (t) : (l.check x.clock.elapsed).2.1.window t = l.window t := by
    rw [Limiter.window, Limiter.origin_check, ← Limiter.window]
  refine ⟨_, Registry.limiter?_checkRate hl _, ?_⟩
  constructor <;> simp only [hwindow, hslot]
  · exact hordered
  · exact hnext
  · exact fun y hy => ht.word y (List.mem_cons_of_mem _ hy)

theorem Apart.checkRate_alone (h : Apart d sending n c c') (ht : Timely d c (x :: xs))
    (hok : (c.registry.checkRate d.service x.clock.elapsed).1 = .ok ()) :
    Apart d sending n
      { c with registry := (c.registry.checkRate d.service x.clock.elapsed).2.1 } c' where
  venues_eq := h.venues_eq
  known := h.known
  retry_eq := h.retry_eq
  breaker := h.breaker
  limiter := by
    obtain ⟨l, l', hl, hl', hlags⟩ := h.limiter
    obtain ⟨_, hsame, ht⟩ := ht
    cases hl.symm.trans hsame
    rw [Registry.checkRate_eq hl] at hok
    exact ⟨_, l', Registry.limiter?_checkRate hl _, hl',
      hlags.ahead (ht.ahead x List.mem_cons_self) (ht.word x List.mem_cons_self) hok⟩
  table := h.table

theorem Apart.checkRate (h : Apart d sending n c c') (ht : Timely d c (x :: xs))
    (hok : (c.registry.checkRate d.service x.clock.elapsed).1 = .ok ()) :
    (c'.registry.checkRate d.service x.clock.elapsed).1 = .ok () ∧
      Apart d sending n
        { c with registry := (c.registry.checkRate d.service x.clock.elapsed).2.1 }
        { c' with registry := (c'.registry.checkRate d.service x.clock.elapsed).2.1 } := by
  obtain ⟨l, l', hl, hl', hlags⟩ := h.limiter
  obtain ⟨_, hsame, ht⟩ := ht
  cases hl.symm.trans hsame
  rw [Registry.checkRate_eq hl] at hok
  obtain ⟨hok', hlags'⟩ :=
    hlags.check (ht.ahead x List.mem_cons_self) (ht.word x List.mem_cons_self) hok
  refine ⟨(congrArg (·.1) (Registry.checkRate_eq hl' _)).trans hok', ?_⟩
  exact
    { venues_eq := h.venues_eq
      known := h.known
      retry_eq := h.retry_eq
      breaker := h.breaker
      limiter :=
        ⟨_, _, Registry.limiter?_checkRate hl _, Registry.limiter?_checkRate hl' _, hlags'⟩
      table := h.table }

end Apart

variable {α : Type} [Factor α] {d : Dialect} {n : Nat} {c c' : Coordinator α}

/-- An instruction that is not refused passes the checks of both or of neither. -/
theorem Apart.admits_iff (h : Apart d none n c c') {i : Instruction α}
    (hi : d.refuses c.table i = false) (v : VenueRequest α) : c'.Admits i v ↔ c.Admits i v := by
  -- An order that is not over is the same in both tables, since spent ids are of orders that are.
  have hentry (id) : (∃ entry, c'.table.find? id = some entry ∧ entry.state.isTerminal = false) →
      c'.table.find? id = c.table.find? id := by
    rintro ⟨entry, hfind, -⟩
    refine (h.table.agree id).resolve_right fun hspent => ?_
    rw [hspent.absent] at hfind
    cases hfind
  have hentry' (id) : (∃ entry, c.table.find? id = some entry ∧ entry.state.isTerminal = false) →
      c'.table.find? id = c.table.find? id := by
    rintro ⟨entry, hfind, hopen⟩
    refine (h.table.agree id).resolve_right fun hspent => ?_
    obtain ⟨entry', hfind', hterminal⟩ := hspent.present
    cases hfind.symm.trans hfind'
    rw [hopen] at hterminal
    simp at hterminal
  constructor
  · intro hv
    cases hv with
    | send r valid known fresh =>
      exact .send r valid (h.venues_eq ▸ known) (h.table.eq_of_not_barred hi ▸ fresh)
    | cancel id entry found isOpen known =>
      exact .cancel id entry (hentry id ⟨entry, found, isOpen⟩ ▸ found) isOpen (h.venues_eq ▸ known)
    | modify id quantity price entry valid found isOpen priced known =>
      exact .modify id quantity price entry valid (hentry id ⟨entry, found, isOpen⟩ ▸ found) isOpen
        priced (h.venues_eq ▸ known)
  · intro hv
    cases hv with
    | send r valid known fresh =>
      exact .send r valid (h.venues_eq ▸ known) (h.table.absent fresh)
    | cancel id entry found isOpen known =>
      exact .cancel id entry ((hentry' id ⟨entry, found, isOpen⟩).trans found) isOpen
        (h.venues_eq ▸ known)
    | modify id quantity price entry valid found isOpen priced known =>
      exact .modify id quantity price entry valid ((hentry' id ⟨entry, found, isOpen⟩).trans found)
        isOpen priced (h.venues_eq ▸ known)

/-- What an instruction comes to is refused if the instruction is. -/
theorem isSome_refusal?_of_admits {i : Instruction α} {v : VenueRequest α} (h : c.Admits i v) :
    (d.refusal? v).isSome = d.refuses c.table i := by
  cases h with
  | send r valid known fresh => exact d.isSome_refusal?_send r
  | cancel id entry found isOpen known => rfl
  | modify id quantity price entry valid found isOpen priced known =>
    simp only [Dialect.refuses, found]

theorem venue_mem_of_admits {i : Instruction α} {v : VenueRequest α} (h : c.Admits i v) :
    v.venue ∈ c.venues := by
  cases h <;> assumption

end Coordinator

end VenueGateway
