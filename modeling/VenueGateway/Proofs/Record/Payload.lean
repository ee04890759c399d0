import VenueGateway.Proofs.Json.Fields
import VenueGateway.Record.Encoding

namespace VenueGateway

open Json

section Values
variable {α : Type} {read? : Json → Option α} {write : α → Json}

/-- A value is read from something that is there. -/
structure ReadsAs (read? : Json → Option α) (v : Json) (a : α) : Prop where
  read : read? v = some a
  there : v.isNull = false

theorem readsAs_string (s : String) : ReadsAs string? (.string s) s := ⟨rfl, rfl⟩

theorem readsAs_float {x : Float} (h : x.isFinite = true) : ReadsAs float? (.ofFloat x) x := by
  have hwritten : Json.ofFloat x = .number (.double x) := if_pos h
  rw [hwritten]
  exact ⟨rfl, rfl⟩

theorem readsAs_int {n : Int} (h : n < Text.signedBound64) : ReadsAs signed? (.ofInt n) n := by
  refine ⟨?_, rfl⟩
  simp [Json.ofInt, signed?, whole?, Option.filter, h]

theorem readsAs_nat (n : Nat) : ReadsAs unsigned? (.ofNat n) n := by
  refine ⟨?_, rfl⟩
  simp [Json.ofNat, unsigned?, whole?]

theorem readsAs_venue (v : Venue) : ReadsAs Venue.ofJson? (.string v.name) v := by
  cases v <;> exact ⟨rfl, rfl⟩

theorem readsAs_side (s : Side) : ReadsAs Side.ofJson? (.string s.name) s := by
  cases s <;> exact ⟨rfl, rfl⟩

theorem readsAs_eventKind (k : EventKind) :
    ReadsAs (fun j => j.constant?.bind EventKind.ofName?) (.string k.name) k := by
  cases k <;> exact ⟨rfl, rfl⟩

theorem readsAs_positionSide (s : PositionSide) :
    ReadsAs (fun j => j.constant?.bind PositionSide.ofName?) (.string s.name) s := by
  cases s <;> exact ⟨rfl, rfl⟩

theorem readsAs_list {as : List α} (h : ∀ a ∈ as, ReadsAs read? (write a) a) :
    ReadsAs (list? read?) (.array (as.map write)) as := by
  refine ⟨?_, rfl⟩
  simp only [list?, array?, Option.bind_some]
  induction as with
  | nil => rfl
  | cons a as ih =>
    obtain ⟨ha, has⟩ := List.forall_mem_cons.mp h
    simp only [List.map_cons, List.mapM_cons, ha.read, ih has, Option.bind_eq_bind,
      Option.bind_some]
    rfl

variable {fields : Fields} {key : String}

theorem required_of_readsAs {v : Json} {a : α} (h : lookup key fields = some v)
    (hv : ReadsAs read? v a) : fields.required key read? = some a := by
  rw [Fields.required, h]
  exact hv.read

theorem optional_of_readsAs {o : Option α} (h : lookup key fields = some (.ofOption write o))
    (ho : ∀ a ∈ o, ReadsAs read? (write a) a) : fields.optional key read? = some o := by
  rw [Fields.optional, h]
  cases o with
  | none => rfl
  | some a =>
    obtain ⟨hread, hthere⟩ := ho a rfl
    simp only [Json.ofOption, hthere, hread, Bool.false_eq_true, if_false, Option.map_some]

end Values

theorem PriceLevel.readsAs {l : PriceLevel Float}
    (h : ∀ x ∈ [l.price, l.quantity], x.isFinite = true) : ReadsAs PriceLevel.ofJson? l.toJson l := by
  refine ⟨?_, rfl⟩
  let fields : Fields := [("price", .ofFloat l.price), ("qty", .ofFloat l.quantity)]
  have hprice : fields.required "price" float? = some l.price :=
    required_of_readsAs rfl (readsAs_float (h _ (by simp)))
  have hquantity : fields.required "qty" float? = some l.quantity :=
    required_of_readsAs rfl (readsAs_float (h _ (by simp)))
  change (fields.required "price" float?).bind (fun price =>
    (fields.required "qty" float?).bind fun quantity => some (PriceLevel.mk price quantity)) = some l
  rw [hprice, Option.bind_some, hquantity, Option.bind_some]

namespace OrderEvent

/-- The numbers of an order event. -/
def amounts (e : OrderEvent Float) : List Float :=
  [e.fillQuantity, e.fillPrice] ++ e.cumulative.toList ++ e.average.toList ++
    e.orderQuantity.toList ++ e.orderPrice.toList

theorem ofFields?_of_carries {e : OrderEvent Float} {fields : Fields}
    (hfinite : ∀ x ∈ e.amounts, x.isFinite = true) (htime : e.time < Text.signedBound64)
    (h : Carries fields e.toFields) : ofFields? fields = some e := by
  simp only [amounts, List.forall_mem_append, List.forall_mem_cons, Option.mem_toList] at hfinite
  obtain ⟨⟨⟨⟨⟨hfilled, hpaid, -⟩, htotal⟩, hmean⟩, hamended⟩, hlimit⟩ := hfinite
  simp only [Carries, toFields, List.forall_mem_cons] at h
  obtain ⟨hvenue, hid, hvenueId, hsymbol, hside, hkind, hquantity, hprice, hcumulative, haverage,
    horderQuantity, horderPrice, hreason, hstamp, -⟩ := h
  simp only [ofFields?, Option.bind_eq_bind, Option.bind_some,
    required_of_readsAs hvenue (readsAs_venue _),
    required_of_readsAs hid (readsAs_string _),
    optional_of_readsAs hvenueId fun s _ => readsAs_string s,
    required_of_readsAs hsymbol (readsAs_string _),
    optional_of_readsAs hside fun s _ => readsAs_side s,
    required_of_readsAs hkind (readsAs_eventKind _),
    required_of_readsAs hquantity (readsAs_float hfilled),
    required_of_readsAs hprice (readsAs_float hpaid),
    optional_of_readsAs hcumulative fun x hx => readsAs_float (htotal x hx),
    optional_of_readsAs haverage fun x hx => readsAs_float (hmean x hx),
    optional_of_readsAs horderQuantity fun x hx => readsAs_float (hamended x hx),
    optional_of_readsAs horderPrice fun x hx => readsAs_float (hlimit x hx),
    optional_of_readsAs hreason fun s _ => readsAs_string s,
    required_of_readsAs hstamp (readsAs_int htime)]
  rfl

end OrderEvent

namespace Position

def amounts (p : Position Float) : List Float := [p.quantity, p.entryPrice, p.unrealizedPnl]

theorem ofFields?_of_carries {p : Position Float} {fields : Fields}
    (hfinite : ∀ x ∈ p.amounts, x.isFinite = true) (htime : p.time < Text.signedBound64)
    (h : Carries fields p.toFields) : ofFields? fields = some p := by
  simp only [amounts, List.forall_mem_cons] at hfinite
  obtain ⟨hsize, hentered, hgained, -⟩ := hfinite
  simp only [Carries, toFields, List.forall_mem_cons] at h
  obtain ⟨hvenue, hsymbol, hside, hquantity, hentry, hpnl, hstamp, -⟩ := h
  simp only [ofFields?, Option.bind_eq_bind, Option.bind_some,
    required_of_readsAs hvenue (readsAs_venue _),
    required_of_readsAs hsymbol (readsAs_string _),
    required_of_readsAs hside (readsAs_positionSide _),
    required_of_readsAs hquantity (readsAs_float hsize),
    required_of_readsAs hentry (readsAs_float hentered),
    required_of_readsAs hpnl (readsAs_float hgained),
    required_of_readsAs hstamp (readsAs_int htime)]
  rfl

end Position

namespace Balance

def amounts (b : Balance Float) : List Float := [b.wallet, b.available, b.locked]

theorem ofFields?_of_carries {b : Balance Float} {fields : Fields}
    (hfinite : ∀ x ∈ b.amounts, x.isFinite = true) (htime : b.time < Text.signedBound64)
    (h : Carries fields b.toFields) : ofFields? fields = some b := by
  simp only [amounts, List.forall_mem_cons] at hfinite
  obtain ⟨hall, hfree, hbound, -⟩ := hfinite
  simp only [Carries, toFields, List.forall_mem_cons] at h
  obtain ⟨hvenue, hasset, hwallet, havailable, hlocked, hstamp, -⟩ := h
  simp only [ofFields?, Option.bind_eq_bind, Option.bind_some,
    required_of_readsAs hvenue (readsAs_venue _),
    required_of_readsAs hasset (readsAs_string _),
    required_of_readsAs hwallet (readsAs_float hall),
    required_of_readsAs havailable (readsAs_float hfree),
    required_of_readsAs hlocked (readsAs_float hbound),
    required_of_readsAs hstamp (readsAs_int htime)]
  rfl

end Balance

namespace Trade

def amounts (t : Trade Float) : List Float := [t.price, t.quantity]

theorem ofFields?_of_carries {t : Trade Float} {fields : Fields}
    (hfinite : ∀ x ∈ t.amounts, x.isFinite = true) (htime : t.time < Text.signedBound64)
    (h : Carries fields t.toFields) : ofFields? fields = some t := by
  simp only [amounts, List.forall_mem_cons] at hfinite
  obtain ⟨hpaid, htraded, -⟩ := hfinite
  simp only [Carries, toFields, List.forall_mem_cons] at h
  obtain ⟨hvenue, hsymbol, htradeId, hprice, hquantity, hside, hstamp, -⟩ := h
  simp only [ofFields?, Option.bind_eq_bind, Option.bind_some,
    required_of_readsAs hvenue (readsAs_venue _),
    required_of_readsAs hsymbol (readsAs_string _),
    required_of_readsAs htradeId (readsAs_string _),
    required_of_readsAs hprice (readsAs_float hpaid),
    required_of_readsAs hquantity (readsAs_float htraded),
    optional_of_readsAs hside fun s _ => readsAs_side s,
    required_of_readsAs hstamp (readsAs_int htime)]
  rfl

end Trade

namespace OrderBook

def amounts (b : OrderBook Float) : List Float :=
  (b.bids ++ b.asks).flatMap fun l => [l.price, l.quantity]

theorem ofFields?_of_carries {b : OrderBook Float} {fields : Fields}
    (hfinite : ∀ x ∈ b.amounts, x.isFinite = true) (htime : b.time < Text.signedBound64)
    (h : Carries fields b.toFields) : ofFields? fields = some b := by
  have hlevels : ∀ l ∈ b.bids ++ b.asks, ReadsAs PriceLevel.ofJson? l.toJson l := by
    intro l hl
    exact PriceLevel.readsAs fun x hx => hfinite x (List.mem_flatMap.mpr ⟨l, hl, hx⟩)
  obtain ⟨hbidding, hasking⟩ := List.forall_mem_append.mp hlevels
  simp only [Carries, toFields, List.forall_mem_cons] at h
  obtain ⟨hvenue, hsymbol, hbids, hasks, hsequence, hstamp, -⟩ := h
  simp only [ofFields?, Option.bind_eq_bind, Option.bind_some,
    required_of_readsAs hvenue (readsAs_venue _),
    required_of_readsAs hsymbol (readsAs_string _),
    required_of_readsAs hbids (readsAs_list hbidding),
    required_of_readsAs hasks (readsAs_list hasking),
    optional_of_readsAs hsequence fun n _ => readsAs_nat n,
    required_of_readsAs hstamp (readsAs_int htime)]
  rfl

end OrderBook

namespace Record

def amounts : Record Float → List Float
  | .order e => e.amounts
  | .position p => p.amounts
  | .balance b => b.amounts
  | .trade t => t.amounts
  | .book b => b.amounts

/-- Its numbers can be written, and its time has at most 64 bits. -/
structure Writable (r : Record Float) : Prop where
  finite : ∀ x ∈ r.amounts, x.isFinite = true
  time : r.time < Text.signedBound64

/-- What a record is written as. -/
def payload (r : Record Float) : Fields := ("type", .string r.kindName) :: r.toFields

def SameKind {α : Type} : Record α → Record α → Prop
  | .order _, .order _ | .position _, .position _ | .balance _, .balance _ | .trade _, .trade _
  | .book _, .book _ => True
  | _, _ => False

theorem sameKind_iff {α : Type} {r s : Record α} : r.SameKind s ↔ r.kindName = s.kindName := by
  cases r <;> cases s <;> simp [SameKind, kindName]

/-- A record is of the kind that its tag names, whatever its fields are. -/
theorem tag?_of_ofJson? {j : Json} {r : Record Float} (h : ofJson? j = some r) :
    tag? j = some r.kindName := by
  simp only [ofJson?, Option.bind_eq_bind, Option.bind_eq_some_iff] at h
  obtain ⟨tag, htag, h⟩ := h
  rw [htag]
  split at h
  case h_6 => cases h
  all_goals
    simp only [Option.bind_eq_some_iff] at h
    obtain ⟨_, _, _, _, h⟩ := h
    cases h
    rfl

/-- The names of a record's fields, the tag first. -/
def payloadNames : Record Float → List String
  | .order _ => "type" :: OrderEvent.fieldNames
  | .position _ => "type" :: Position.fieldNames
  | .balance _ => "type" :: Balance.fieldNames
  | .trade _ => "type" :: Trade.fieldNames
  | .book _ => "type" :: OrderBook.fieldNames

theorem payload_names (r : Record Float) : r.payload.map Prod.fst = r.payloadNames := by
  cases r <;> rfl

theorem payloadNames_nodup (r : Record Float) : r.payloadNames.Nodup := by
  cases r <;> simp only [payloadNames] <;> decide

theorem isObject_ofFloat (x : Float) : (Json.ofFloat x).isObject = false := by
  unfold Json.ofFloat
  split <;> rfl

theorem isObject_ofOption {α : Type} {write : α → Json} (h : ∀ a, (write a).isObject = false)
    (o : Option α) : (Json.ofOption write o).isObject = false := by
  cases o with
  | none => rfl
  | some a => exact h a

/-- No field of a record is an object; those of a book are arrays of them. -/
theorem isObject_of_mem_toFields (r : Record Float) :
    ∀ field ∈ r.toFields, field.2.isObject = false := by
  have hstring : ∀ s, (Json.string s).isObject = false := fun _ => rfl
  have hint : ∀ n, (Json.ofInt n).isObject = false := fun _ => rfl
  have hnat : ∀ n, (Json.ofNat n).isObject = false := fun _ => rfl
  have harray : ∀ vs, (Json.array vs).isObject = false := fun _ => rfl
  cases r <;>
    simp [toFields, OrderEvent.toFields, Position.toFields, Balance.toFields, Trade.toFields,
      OrderBook.toFields, isObject_ofFloat, isObject_ofOption, hstring, hint, hnat, harray]

theorem settleConstant_of_isObject {j : Json} (h : j.isObject = false) : settleConstant j = j := by
  cases j with
  | object fields => cases h
  | null | bool | number | string | array => rfl

theorem carries_settled {fields written : Fields} (h : Carries fields written)
    (hwritten : ∀ field ∈ written, field.2.isObject = false) :
    Carries (fields.map fun (k, v) => (k, settleConstant v)) written := by
  intro field hfield
  rw [lookup_map, h field hfield, Option.map_some,
    settleConstant_of_isObject (hwritten field hfield)]

/-- The tag of an object decides what is read of its fields. -/
theorem ofJson?_of_tag {r : Record Float} {fields : Fields}
    (htag : tag? (.object fields) = some r.kindName) :
    let settled := fields.map fun (k, v) => (k, settleConstant v)
    ofJson? (.object fields) =
      match r with
      | .order _ => (OrderEvent.ofFields? settled).map .order
      | .position _ => (Position.ofFields? settled).map .position
      | .balance _ => (Balance.ofFields? settled).map .balance
      | .trade _ => (Trade.ofFields? settled).map .trade
      | .book _ => (OrderBook.ofFields? settled).map .book := by
  intro settled
  -- The tag decides which kind is read, and with a known tag the rest is unfolding.
  cases r <;>
    simp only [ofJson?, htag, kindName, record?, Option.bind_eq_bind, Option.bind_some,
      Option.map_eq_bind] <;>
    rfl

/-- An object with all the fields of a record is read as the record. -/
theorem ofJson?_of_carries {r : Record Float} (hr : r.Writable) {fields : Fields}
    (h : Carries fields r.payload) : ofJson? (.object fields) = some r := by
  obtain ⟨htype, hfields⟩ := List.forall_mem_cons.mp h
  have htag : tag? (.object fields) = some r.kindName := by
    simp only [tag?, htype, Option.bind_some, string?]
  have hsettled := carries_settled hfields r.isObject_of_mem_toFields
  rw [ofJson?_of_tag htag]
  -- The type is a field beside the payload; what remains carries the fields of one kind.
  cases r with
  | order e =>
    simp only [OrderEvent.ofFields?_of_carries hr.finite hr.time hsettled, Option.map_some]
  | position p =>
    simp only [Position.ofFields?_of_carries hr.finite hr.time hsettled, Option.map_some]
  | balance b =>
    simp only [Balance.ofFields?_of_carries hr.finite hr.time hsettled, Option.map_some]
  | trade t =>
    simp only [Trade.ofFields?_of_carries hr.finite hr.time hsettled, Option.map_some]
  | book b =>
    simp only [OrderBook.ofFields?_of_carries hr.finite hr.time hsettled, Option.map_some]

theorem carries_payload {r : Record Float} {fields : Fields} (h : fields.Perm r.payload) :
    Carries fields r.payload := by
  apply carries_of_perm _ h
  rw [payload_names]
  exact r.payloadNames_nodup

/-- A record is read back from what it is written as, also when the fields are put in order by their
names, and from every object that has these fields among its own. So no two records are written
alike. Whatever a record is read from, the tag there is the same as that of another one just when they
are of one kind. -/
theorem record_read_back (r : Record Float) (hr : r.Writable) :
    ofJson? r.toJson = some r ∧
    ofJson? (Json.sorted r.payload) = some r ∧
    (∀ fields, Carries fields r.payload → ofJson? (.object fields) = some r) ∧
    (∀ s : Record Float, s.Writable → s.toJson = r.toJson → s = r) ∧
    ∀ j s, ofJson? j = some s → (tag? j = tag? r.toJson ↔ s.SameKind r) := by
  have hback : ∀ s : Record Float, s.Writable → ofJson? s.toJson = some s := by
    intro s hs
    exact ofJson?_of_carries hs (carries_payload (List.Perm.refl _))
  refine ⟨hback r hr, ?_, fun fields => ofJson?_of_carries hr, ?_, ?_⟩
  · -- Sorting the fields does not change what a lookup finds.
    apply ofJson?_of_carries hr
    intro field hfield
    rw [lookup_sortFields]
    exact carries_payload (List.reverse_perm r.payload) field hfield
  · intro s hs hsame
    -- Two records written alike are both what is read from the one text.
    have hread := hback s hs
    rw [hsame, hback r hr] at hread
    exact (Option.some.inj hread).symm
  · intro j s hj
    rw [tag?_of_ofJson? hj, tag?_of_ofJson? (hback r hr), Option.some_inj, sameKind_iff]

/-- An order is partly filled: some of what may be told of it is told. -/
theorem record_read_back_partlyFilled :
    let bare : OrderEvent Float := .bare .deribit "c" "BTC-PERPETUAL" .fill 1000
    let r : Record Float :=
      .order { bare with fillQuantity := 2, fillPrice := 100.5, cumulative := some 3 }
    r.Writable ∧ ofJson? r.toJson = some r ∧ ofJson? (Json.sorted r.payload) = some r := by
  intro bare r
  have hr : r.Writable := ⟨by decide +kernel, by decide⟩
  obtain ⟨hback, hsorted, -⟩ := record_read_back r hr
  exact ⟨hr, hback, hsorted⟩

end Record

end VenueGateway
