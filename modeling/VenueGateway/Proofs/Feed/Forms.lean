import VenueGateway.Proofs.Feed.Names

namespace VenueGateway.Grvt

open Feed

/-- A record in the full form, down to its parts. -/
structure FullRecord (j : Json) : Prop where
  named : Named .record j
  metadata : ∀ m ∈ j.field? "metadata", Named .metadata m
  state : ∀ s ∈ j.field? "state", Named .state s
  legs : ∀ ls ∈ j.field? "legs", ∀ l ∈ items ls, Named .leg l
  bids : ∀ ls ∈ j.field? "bids", ∀ l ∈ items ls, Named .level l
  asks : ∀ ls ∈ j.field? "asks", ∀ l ∈ items ls, Named .level l
  spots : ∀ ss ∈ j.field? "spot_balances", ∀ s ∈ items ss, Named .spot s

/-- A feed message in the full form, with one record or an array of them. -/
structure FullMessage (j : Json) : Prop where
  named : Named .message j
  feed : ∀ f ∈ j.field? "feed", ∀ r ∈ items f, FullRecord r

/-- The body of an answer in the full form: its result, or the body itself where it has none. -/
structure FullBody (j : Json) : Prop where
  bare : ∀ r ∈ items j, FullRecord r
  result : ∀ v ∈ j.field? "result", ∀ r ∈ items v, FullRecord r

section

variable {ρ : Naming} {j : Json} (now : Int)

theorem named_leading {P : Place} {v : Json} (h : ∀ l ∈ items v, Named P l) :
    Named P (leading v) := by
  cases v with
  | array vs =>
    cases vs with
    | nil => exact named_array P []
    | cons l rest => exact h l List.mem_cons_self
  | _ => exact h _ List.mem_cons_self

theorem order_shorten (h : FullRecord j) : order now (ρ.shorten j) = order now j := by
  have hid : ((first? (ρ.shorten j) ["metadata", "m"]).bind fun m =>
        textAt? m ["client_order_id", "co"]) =
      (first? j ["metadata", "m"]).bind fun m => textAt? m ["client_order_id", "co"] :=
    h.named.bind_first?_shorten (by decide) fun m hm =>
      (h.metadata m hm).textAt?_shorten (by decide)
  have hcreated : ((first? (ρ.shorten j) ["metadata", "m"]).bind fun m =>
        timeAt? m ["create_time", "ct"]) =
      (first? j ["metadata", "m"]).bind fun m => timeAt? m ["create_time", "ct"] :=
    h.named.bind_first?_shorten (by decide) fun m hm =>
      (h.metadata m hm).timeAt?_shorten (by decide)
  have hlegs : (first? (ρ.shorten j) ["legs", "l"]).map leading =
      ((first? j ["legs", "l"]).map leading).map ρ.shorten := by
    rw [h.named.first?_shorten (by decide), Option.map_map, Option.map_map]
    exact congrArg (fun f => (first? j ["legs", "l"]).map f) (funext ρ.leading_shorten)
  unfold order
  simp (disch := decide) only [hid, hcreated, hlegs, h.named.textAt?_shorten]
  apply bind_congr
  intro id
  -- From here on the fields are those of the state, and then those of the leg.
  apply h.named.bind_orMissing_shorten (by decide)
  intro state hmem
  have hstate := h.state state hmem
  simp (disch := decide) only [hstate.textAt_shorten, hstate.textAt?_shorten,
    hstate.timeAt?_shorten, hstate.legAmount?_shorten]
  apply bind_congr
  intro status
  apply bind_congr
  intro kind
  apply bind_orMissing_map
  intro leg hmem
  obtain ⟨legs, hfirst, rfl⟩ := Option.map_eq_some_iff.mp hmem
  have hleg := named_leading (h.legs legs (h.named.mem_field?_of_first? (by decide) hfirst))
  simp (disch := decide) only [hleg.textAt_shorten, hleg.side?_shorten, hleg.amountAt?_shorten]

theorem position_shorten (h : Named .record j) :
    Alike (position now (ρ.shorten j)) (position now j) := by
  unfold position
  simp (disch := decide) only [h.textAt_shorten, h.amountAt?_shorten, h.timeAt?_shorten]
  apply Alike.bind (.of_eq rfl)
  intro symbol
  apply Alike.bind (h.amountAt_shorten (by decide) _)
  intro size
  exact .of_eq rfl

theorem trade_shorten (h : Named .record j) : Alike (trade now (ρ.shorten j)) (trade now j) := by
  unfold trade
  simp (disch := decide) only [h.textAt_shorten, h.side?_shorten, h.timeAt?_shorten]
  apply Alike.bind (.of_eq rfl)
  intro symbol
  apply Alike.bind (.of_eq rfl)
  intro tradeId
  apply Alike.bind (h.amountAt_shorten (by decide) _)
  intro price
  apply Alike.bind (h.amountAt_shorten (by decide) _)
  intro quantity
  exact .of_eq rfl

variable (ρ) in
/-- The names that other venues have for the size of a level stand in neither form. -/
theorem amountAt?_size (h : Named .level j) :
    amountAt? j ["size", "qty", "amount", "s"] = amountAt? j ["size", "s"] ∧
      amountAt? (ρ.shorten j) ["size", "qty", "amount", "s"] =
        amountAt? (ρ.shorten j) ["size", "s"] := by
  have hqty : j.field? "qty" = none := h.field?_eq_none (by decide) (by decide)
  have hamount : j.field? "amount" = none := h.field?_eq_none (by decide) (by decide)
  have hqty' : (ρ.shorten j).field? "qty" = none :=
    h.field?_shorten_eq_none (by decide) (by decide)
  have hamount' : (ρ.shorten j).field? "amount" = none :=
    h.field?_shorten_eq_none (by decide) (by decide)
  unfold amountAt? first?
  constructor
  · simp [List.findSome?_cons, hqty, hamount]
  · simp [List.findSome?_cons, hqty', hamount']

theorem level?_shorten (h : Named .level j) : level? (ρ.shorten j) = level? j := by
  cases j with
  | array vs =>
    -- Arrays have no names, and their items are the same numbers.
    have hamounts : (ρ.shortenItems vs).filterMap amount? = vs.filterMap amount? := by
      rw [ρ.shortenItems_eq_map, List.filterMap_map]
      exact congrArg (fun f => vs.filterMap f) (funext ρ.amount?_shorten)
    simp only [Naming.shorten, level?, hamounts]
  | object fields =>
    obtain ⟨hfull, hcompact⟩ := amountAt?_size ρ h
    change (do
        let price ← amountAt? (ρ.shorten (.object fields)) ["price", "p"]
        let quantity ← amountAt? (ρ.shorten (.object fields)) ["size", "qty", "amount", "s"]
        pure (⟨price, quantity⟩ : PriceLevel Float)) = _
    rw [hcompact, h.amountAt?_shorten (by decide), h.amountAt?_shorten (by decide), ← hfull]
    rfl
  | _ => rfl

theorem level_shorten (h : Named .level j) (field field' : String) :
    Alike (level field' (ρ.shorten j)) (level field j) := by
  unfold level
  rw [level?_shorten h]
  cases level? j with
  | none => exact .of_error _ _
  | some l => exact .of_eq rfl

theorem levels_shorten {full compact : String} (h : Named .record j)
    (hp : (full, compact) ∈ Place.record.names)
    (hlevels : ∀ ls ∈ j.field? full, ∀ l ∈ items ls, Named .level l) :
    Alike (levels (ρ.shorten j) compact) (levels j full) := by
  unfold levels
  rw [h.field?_shorten hp]
  cases hv : j.field? full with
  | none => exact .of_eq rfl
  | some v =>
    -- Only an array has levels; anything else is refused under both names.
    cases v with
    | array vs =>
      change Alike ((ρ.shortenItems vs).mapM (level compact)) (vs.mapM (level full))
      rw [ρ.shortenItems_eq_map]
      exact .mapM fun l hl => level_shorten (hlevels _ hv l hl) full compact
    | _ => exact .of_error _ _

/-- Books of one form, read by the names of that form. -/
def bookBy (bidsName asksName : String) (j : Json) : Parsed (OrderBook Float) := do
  let bids ← levels j bidsName
  let asks ← levels j asksName
  let symbol ← textAt j "instrument" ["instrument", "i"]
  pure ⟨.grvt, symbol, bids, asks, none, (timeAt? j ["event_time", "et"]).getD now⟩

theorem levels_of_absent {key : String} (h : j.field? key = none) : levels j key = .ok [] := by
  unfold levels
  rw [h]

theorem book_eq_bookBy (h : Named .record j) : book now j = bookBy now "bids" "asks" j := by
  unfold book bookBy
  cases hbids : j.field? "bids" with
  | some v => rfl
  | none =>
    cases hasks : j.field? "asks" with
    | some v => rfl
    | none =>
      -- With neither side there, the compact names are tried, and are not there either.
      have hb : j.field? "b" = none := h.field?_eq_none (by decide) (by decide)
      have ha : j.field? "a" = none := h.field?_eq_none (by decide) (by decide)
      simp [levels_of_absent, hbids, hasks, hb, ha]

theorem book_shorten_eq_bookBy (h : Named .record j) :
    book now (ρ.shorten j) = bookBy now "b" "a" (ρ.shorten j) := by
  have hbids : (ρ.shorten j).field? "bids" = none :=
    h.field?_shorten_eq_none (by decide) (by decide)
  have hasks : (ρ.shorten j).field? "asks" = none :=
    h.field?_shorten_eq_none (by decide) (by decide)
  unfold book bookBy
  rw [hbids, hasks]
  rfl

theorem book_shorten (h : FullRecord j) : Alike (book now (ρ.shorten j)) (book now j) := by
  rw [book_eq_bookBy now h.named, book_shorten_eq_bookBy now h.named]
  unfold bookBy
  simp (disch := decide) only [h.named.textAt_shorten, h.named.timeAt?_shorten]
  apply Alike.bind (levels_shorten h.named (by decide) h.bids)
  intro bids
  apply Alike.bind (levels_shorten h.named (by decide) h.asks)
  intro asks
  exact .of_eq rfl

theorem orders_shorten (h : ∀ r ∈ items j, FullRecord r) :
    Alike (orders now (ρ.shorten j)) (orders now j) := by
  unfold orders
  rw [ρ.items_shorten]
  apply Alike.mapM
  intro r hr
  rw [order_shorten now (h r hr)]
  exact .of_eq rfl

theorem positions_shorten (h : ∀ r ∈ items j, FullRecord r) :
    Alike (positions now (ρ.shorten j)) (positions now j) := by
  unfold positions
  rw [ρ.items_shorten]
  apply Alike.bind (.mapM fun r hr => position_shorten now (h r hr).named)
  intro found
  exact .of_eq rfl

theorem trades_shorten (h : ∀ r ∈ items j, FullRecord r) :
    Alike ((items (ρ.shorten j)).mapM fun v => Record.trade <$> trade now v)
      ((items j).mapM fun v => Record.trade <$> trade now v) := by
  rw [ρ.items_shorten]
  exact .mapM fun r hr => (trade_shorten now (h r hr).named).map _

theorem fullRecord_of_items (h : ∀ r ∈ items j, FullRecord r) : FullRecord j := by
  cases j with
  | array vs =>
    have hnone (key : String) : (Json.array vs).field? key = none := rfl
    exact {
      named := named_array .record vs
      metadata := by simp [hnone]
      state := by simp [hnone]
      legs := by simp [hnone]
      bids := by simp [hnone]
      asks := by simp [hnone]
      spots := by simp [hnone] }
  | _ => exact h _ List.mem_cons_self

theorem summary_shorten (h : FullRecord j) :
    Alike (summary now (ρ.shorten j)) (summary now j) := by
  have hspot : ((first? (ρ.shorten j) ["spot_balances", "sb"]).bind Json.array?).getD [] =
      (((first? j ["spot_balances", "sb"]).bind Json.array?).getD []).map ρ.shorten := by
    rw [h.named.first?_shorten (by decide)]
    cases first? j ["spot_balances", "sb"] with
    | none => rfl
    | some v =>
      change ((ρ.shorten v).array?).getD [] = (v.array?.getD []).map ρ.shorten
      rw [ρ.array?_shorten]
      cases v.array? <;> rfl
  have hnamed : ∀ v ∈ ((first? j ["spot_balances", "sb"]).bind Json.array?).getD [],
      Named .spot v := by
    intro v hv
    cases hsb : first? j ["spot_balances", "sb"] with
    | none =>
      rw [hsb] at hv
      cases hv
    | some sb =>
      rw [hsb] at hv
      have hitems := h.spots sb (h.named.mem_field?_of_first? (by decide) hsb)
      cases sb with
      | array vs => exact hitems v hv
      | _ => cases hv
  -- With the same times, names and amounts read, only the balances are left, one by one.
  unfold summary
  simp (disch := decide) only [hspot, h.named.timeAt?_shorten, h.named.textAt?_shorten,
    h.named.amountAt?_shorten]
  apply Alike.bind
  · apply Alike.mapM
    intro v hv
    have hv := hnamed v hv
    simp (disch := decide) only [hv.textAt_shorten]
    apply Alike.bind (.of_eq rfl)
    intro asset
    apply Alike.bind (hv.amountAt_shorten (by decide) _)
    intro wallet
    exact .of_eq rfl
  · intro found
    exact .of_eq rfl

theorem sequence?_shorten (h : Named .message j) : sequence? (ρ.shorten j) = sequence? j := by
  unfold sequence?
  rw [h.textAt?_shorten (by decide)]

theorem route_shorten (h : FullMessage j) : Alike (route now (ρ.shorten j)) (route now j) := by
  have herror : ((first? (ρ.shorten j) ["error", "e"]).filter Json.isObject).isSome =
      ((first? j ["error", "e"]).filter Json.isObject).isSome := by
    rw [h.named.first?_shorten (by decide)]
    cases first? j ["error", "e"] with
    | none => rfl
    | some v => simp [Option.filter, apply_ite]
  unfold route
  rw [herror]
  apply Alike.ite (.of_eq rfl)
  simp (disch := decide) only [h.named.first?_shorten, h.named.textAt_shorten, Option.isSome_map,
    sequence?_shorten h.named]
  cases hfeed : first? j ["feed", "f"] with
  | none => exact .of_eq rfl
  | some feed =>
    have hrecords := h.feed feed (h.named.mem_field?_of_first? (by decide) hfeed)
    apply Alike.bind (.of_eq rfl)
    intro stream
    -- The stream tells which records the feed has, and each kind is read alike.
    apply Alike.ite (orders_shorten now hrecords)
    apply Alike.ite (positions_shorten now hrecords)
    apply Alike.ite (trades_shorten now hrecords)
    apply Alike.ite
    · apply Alike.bind (book_shorten now (fullRecord_of_items hrecords))
      intro b
      exact .of_eq rfl
    · exact .of_eq rfl

theorem snapshot_shorten (kind : SnapshotKind) (h : FullBody j) :
    Alike (snapshot now kind (ρ.shorten j)) (snapshot now kind j) := by
  have hnamed : Named .record j := (fullRecord_of_items h.bare).named
  have hresult : (first? (ρ.shorten j) ["result", "r"]).getD (ρ.shorten j) =
      ρ.shorten ((first? j ["result", "r"]).getD j) := by
    rw [hnamed.first?_shorten (by decide)]
    cases first? j ["result", "r"] <;> rfl
  have hrecords : ∀ r ∈ items ((first? j ["result", "r"]).getD j), FullRecord r := by
    cases hr : first? j ["result", "r"] with
    | none => exact h.bare
    | some v => exact h.result v (hnamed.mem_field?_of_first? (by decide) hr)
  unfold snapshot
  rw [hresult]
  cases kind with
  | openOrders => exact orders_shorten now hrecords
  | positions => exact positions_shorten now hrecords
  | balances => exact summary_shorten now (fullRecord_of_items hrecords)

end

/-- Messages and bodies in the full form are read, with success and records alike, as the ones that
have every field under its compact name. -/
theorem forms_agree (ρ : Naming) (now : Int) :
    (∀ j, FullMessage j → ∀ records,
      route now (ρ.shorten j) = .ok records ↔ route now j = .ok records) ∧
    (∀ kind body, FullBody body → ∀ records,
      snapshot now kind (ρ.shorten body) = .ok records ↔ snapshot now kind body = .ok records) := by
  constructor
  · intro j h
    exact route_shorten now h
  · intro kind body h
    exact snapshot_shorten now kind h

def filledOrder : Json := .object [
  ("legs", .array [.object [("instrument", .string "BTC_USDT_Perp"),
    ("is_buying_asset", .bool true)]]),
  ("metadata", .object [("client_order_id", .string "23042")]),
  ("order_id", .string "0x1028403"),
  ("state", .object [("status", .string "FILLED"), ("update_time", .string "1697788800000000000")]),
  ("sub_account_id", .string "2345")]

/-- The order as a feed brings it. -/
def filledOrderFeed : Json := .object [
  ("feed", filledOrder), ("selector", .string "2345-BTC_USDT_Perp"),
  ("sequence_number", .string "7"), ("stream", .string "v1.order")]

/-- The order in the answer to a request. -/
def filledOrderBody : Json := .object [("result", .array [filledOrder])]

def filledOrderEvent : OrderEvent Float :=
  { (OrderEvent.bare .grvt "23042" "BTC_USDT_Perp" .fill 1697788800000000 : OrderEvent Float) with
    venueId := some "0x1028403"
    side := some .buy
    cumulative := some 0
    fillPrice := 0 }

theorem filledOrder_full : FullRecord filledOrder := by
  constructor <;> decide +kernel

theorem forms_agree_filledOrder :
    FullMessage filledOrderFeed ∧ FullBody filledOrderBody ∧
    Naming.plain.shorten filledOrderFeed = .object [
      ("f", .object [
        ("l", .array [.object [("i", .string "BTC_USDT_Perp"), ("ib", .bool true)]]),
        ("m", .object [("co", .string "23042")]),
        ("oi", .string "0x1028403"),
        ("s1", .object [("s", .string "FILLED"), ("ut", .string "1697788800000000000")]),
        ("sub_account_id", .string "2345")]),
      ("n", .string "7"), ("s", .string "v1.order"), ("s1", .string "2345-BTC_USDT_Perp")] ∧
    route 0 (Naming.plain.shorten filledOrderFeed) = .ok [.order filledOrderEvent] ∧
    snapshot 0 .openOrders (Naming.plain.shorten filledOrderBody) =
      .ok [.order filledOrderEvent] := by
  have hfeed : FullMessage filledOrderFeed := by
    constructor
    · decide +kernel
    · intro f hf r hr
      cases hf
      cases List.mem_singleton.mp hr
      exact filledOrder_full
  have hbody : FullBody filledOrderBody := by
    constructor
    · intro r hr
      cases List.mem_singleton.mp hr
      constructor <;> decide +kernel
    · intro v hv r hr
      cases hv
      cases List.mem_singleton.mp hr
      exact filledOrder_full
  obtain ⟨hroute, hsnapshot⟩ := forms_agree Naming.plain 0
  refine ⟨hfeed, hbody, by rfl, ?_, ?_⟩
  · apply (hroute _ hfeed _).mpr
    rfl
  · apply (hsnapshot .openOrders _ hbody _).mpr
    rfl

end VenueGateway.Grvt
