import VenueGateway.Dialect.Instruction
import VenueGateway.Proofs.Decimal.Numeral
import VenueGateway.Proofs.Decimal.Order
import VenueGateway.Proofs.Json.Fields

namespace VenueGateway

open Decimal

/-- The amounts that an order is accepted with. -/
structure OrderRequest.Sound (r : OrderRequest Float) : Prop where
  quantity_finite : r.quantity.isFinite = true
  quantity_pos : 0 < r.quantity
  price_finite : r.price.isFinite = true
  price_pos : r.type.needsPrice = true → 0 < r.price

theorem checkQuantity_eq_ok_iff {quantity : Float} :
    checkQuantity quantity = .ok () ↔ quantity.isFinite = true ∧ 0 < quantity := by
  have hcheck : checkQuantity quantity =
      if quantity.isFinite && decide (0 < quantity) then .ok ()
      else .error (.invalid "quantity" "must be positive") := rfl
  rw [hcheck]
  split
  · next h => simpa using h
  · next h => simpa using h

theorem pos_of_checkPrice {type : OrderType} {price : Float}
    (h : checkPrice type price = .ok ()) :
    price.isFinite = true ∧ (type.needsPrice = true → 0 < price) := by
  have hcheck : checkPrice type price =
      if !price.isFinite || decide (price < 0) then .error (.invalid "price" "must not be negative")
      else if type.needsPrice && decide (price ≤ 0) then
        .error (.invalid "price" (type.name ++ " orders require a price"))
      else .ok () := rfl
  -- The comparisons of the check are on floats, where `¬ x ≤ 0` means `0 < x` only for a finite
  -- `x`; the range check comes first and gives that.
  rw [hcheck] at h
  split at h
  · cases h
  · next hrange =>
    split at h
    · cases h
    · next hneeded =>
      simp only [Bool.not_eq_true, Bool.or_eq_false_iff, Bool.not_eq_false'] at hrange
      refine ⟨hrange.1, ?_⟩
      intro hneeds
      have hle : ¬ price ≤ 0 := by simpa [hneeds] using hneeded
      rw [← not_lt_iff_le (by decide +kernel) hrange.1, not_not] at hle
      exact hle

theorem OrderRequest.sound_of_check {r : OrderRequest Float} (h : r.check = .ok ()) : r.Sound := by
  have hcheck : r.check =
      if r.id.isEmpty then .error (.invalid "cl_ord_id" "must not be empty")
      else if Text.isAllBlank r.symbol then .error (.invalid "symbol" "must not be empty")
      else checkQuantity r.quantity >>= fun _ => checkPrice r.type r.price := by
    unfold OrderRequest.check
    cases r.id.isEmpty <;> cases Text.isAllBlank r.symbol <;> rfl
  rw [hcheck] at h
  split at h
  · cases h
  · split at h
    · cases h
    · cases hquantity : checkQuantity r.quantity with
      | error e =>
        rw [hquantity] at h
        cases h
      | ok u =>
        rw [hquantity] at h
        obtain ⟨hfinite, hpos⟩ := checkQuantity_eq_ok_iff.mp hquantity
        obtain ⟨hprice, hneeded⟩ := pos_of_checkPrice h
        exact ⟨hfinite, hpos, hprice, hneeded⟩

namespace Dialect

/-- A text of the first leg of an order. -/
def legText? (q : RestQuery) (key : String) : Option String := do
  let body ← q.body
  let legs ← body.path? ["order", "legs"]
  let leg ← legs.item? 0
  (← leg.field? key).string?

/-- The text of an order's quantity, where the venue looks for it. -/
def quantityIn? : Dialect → OutboundRequest → Option String
  | .binance _, .call q => Json.lookup "quantity" q.params
  | .grvt .., .call q => legText? q "size"
  | _, _ => none

def priceIn? : Dialect → OutboundRequest → Option String
  | .binance _, .call q => Json.lookup "price" q.params
  | .grvt .., .call q => legText? q "limit_price"
  | _, _ => none

variable {d : Dialect} {pending pending' : PendingOrders} {number : Nat} {r : OrderRequest Float}
  {out : OutboundRequest}

theorem amountsIn_of_sent (hd : d.venue ≠ .deribit)
    (h : d.orderRequest pending number r = .ok (out, pending')) :
    d.quantityIn? out = some (amountText r.quantity) ∧
      d.priceIn? out = if r.type.needsPrice then some (amountText r.price) else none := by
  cases d with
  | deribit => contradiction
  | binance window =>
    cases h
    cases htype : r.type <;>
      simp [quantityIn?, priceIn?, OrderType.needsPrice, Json.lookup]
  | grvt envelope account authUrl =>
    simp only [orderRequest] at h
    split at h
    · cases h
    · cases h
      cases htype : r.type <;>
        simp [quantityIn?, priceIn?, legText?, Grvt.orderBody, Grvt.leg, htype, OrderType.needsPrice,
          Json.path?, Json.field?, Json.item?, Json.sorted, Json.lookup_sortFields, Json.lookup,
          Json.string?]

/-- An order on its way out. -/
theorem exists_orderRequest_iff (hd : d.venue ≠ .deribit) :
    (∃ out pending', d.orderRequest pending number r = .ok (out, pending')) ↔
      (d.venue = .grvt → (Text.readBelow Text.bound64 r.id.toList).isSome = true) := by
  cases d with
  | deribit => contradiction
  | binance window =>
    constructor
    · intro _ hvenue
      cases hvenue
    · intro _
      exact ⟨_, _, rfl⟩
  | grvt envelope account authUrl =>
    simp only [orderRequest, venue, true_imp_iff]
    cases Text.readBelow Text.bound64 r.id.toList <;> simp

/-- Half of the eighth place. -/
def halfPlace : Rat := 1 / (2 * 10 ^ 8)

theorem exists_tells_amountText {x : Float} (hfinite : x.isFinite = true) (hpos : 0 < x) :
    ∃ b n, Tells 8 x (amountText x) b n ∧ 0 < b.value ∧ (0 < n.value ↔ halfPlace < b.value) := by
  obtain ⟨b, hx, hsign, hmantissa⟩ := exists_ofFloat?_of_pos hfinite hpos
  obtain ⟨n, htells⟩ := exists_tells (show 0 < 8 by decide) hx hsign
  exact ⟨b, n, htells, Binary.value_pos hsign hmantissa, htells.rounded.pos_iff⟩

/-- The venues that take amounts as text are sent each order that is accepted, but for an id that is
not a number. What they are told of its quantity, and of its price where it needs one, is the numeral
of the amount with eight places, none of them zero at the end. That is more than nothing just when
the amount is more than half of such a place; an order of less is accepted as well. -/
theorem amounts_told_but_for_dust (d : Dialect) (hd : d.venue ≠ .deribit) (pending : PendingOrders)
    (number : Nat) (r : OrderRequest Float) (hr : r.check = .ok ()) :
    let sent := d.orderRequest pending number r
    ((∃ out pending', sent = .ok (out, pending')) ↔
      (d.venue = .grvt → (Text.readBelow Text.bound64 r.id.toList).isSome = true)) ∧
    ∀ out pending', sent = .ok (out, pending') →
      (∃ text b n, d.quantityIn? out = some text ∧ Tells 8 r.quantity text b n ∧
        0 < b.value ∧ (0 < n.value ↔ halfPlace < b.value)) ∧
      (r.type.needsPrice = true → ∃ text b n, d.priceIn? out = some text ∧
        Tells 8 r.price text b n ∧ 0 < b.value ∧ (0 < n.value ↔ halfPlace < b.value)) ∧
      (r.type.needsPrice = false → d.priceIn? out = none) := by
  intro sent
  refine ⟨exists_orderRequest_iff hd, ?_⟩
  intro out pending' hsent
  have hsound := OrderRequest.sound_of_check hr
  -- The amounts of the message are the texts of the request's amounts, so what is left is a fact
  -- about `amountText`.
  obtain ⟨hquantity, hprice⟩ := amountsIn_of_sent hd hsent
  refine ⟨?_, ?_, ?_⟩
  · obtain ⟨b, n, htells⟩ := exists_tells_amountText hsound.quantity_finite hsound.quantity_pos
    exact ⟨_, b, n, hquantity, htells⟩
  · intro hneeds
    obtain ⟨b, n, htells⟩ :=
      exists_tells_amountText hsound.price_finite (hsound.price_pos hneeds)
    rw [hneeds] at hprice
    exact ⟨_, b, n, hprice, htells⟩
  · intro hneeds
    rw [hprice, hneeds]
    rfl

/-- Twelve hundred keeps its zeros, and a half has one place. -/
theorem amounts_told_but_for_dust_hundreds :
    let d : Dialect := .grvt .full "main" ""
    let r : OrderRequest Float := ⟨"7", .grvt, "BTC_USDT_Perp", .buy, .limit, 1200, 0.5⟩
    d.venue ≠ .deribit ∧ r.check = .ok () ∧
      ∃ out pending', d.orderRequest {} 1 r = .ok (out, pending') ∧
        (∃ b n, d.quantityIn? out = some "1200" ∧ Tells 8 r.quantity "1200" b n ∧ 0 < n.value) ∧
        ∃ b n, d.priceIn? out = some "0.5" ∧ Tells 8 r.price "0.5" b n ∧ 0 < n.value := by
  intro d r
  have hd : d.venue ≠ .deribit := by decide
  have hr : r.check = .ok () := by decide +kernel
  have hmore : ∀ x ∈ [r.quantity, r.price], (Binary.ofFloat? x).all (halfPlace < ·.value) = true := by
    decide +kernel
  obtain ⟨hsent, htold⟩ := amounts_told_but_for_dust d hd {} 1 r hr
  obtain ⟨out, pending', hout⟩ := hsent.mpr fun _ => by decide +kernel
  obtain ⟨⟨text, b, n, htext, hquantity, -, hpos⟩, hneeded, -⟩ := htold out pending' hout
  obtain ⟨text', b', n', htext', hprice, -, hpos'⟩ := hneeded rfl
  obtain ⟨hsize, hlimit⟩ := amountsIn_of_sent hd hout
  have hquantityText : d.quantityIn? out = some "1200" := hsize.trans (by decide +kernel)
  have hpriceText : d.priceIn? out = some "0.5" := hlimit.trans (by decide +kernel)
  obtain rfl := Option.some.inj (htext.symm.trans hquantityText)
  obtain rfl := Option.some.inj (htext'.symm.trans hpriceText)
  have hb := hmore r.quantity (by simp)
  have hb' := hmore r.price (by simp)
  rw [hquantity.exact, Option.all_some, decide_eq_true_iff] at hb
  rw [hprice.exact, Option.all_some, decide_eq_true_iff] at hb'
  exact ⟨hd, hr, out, pending', hout, ⟨b, n, hquantityText, hquantity, hpos.mpr hb⟩,
    b', n', hpriceText, hprice, hpos'.mpr hb'⟩

/-- An order for one part in a thousand million is accepted, and goes out for nothing at all. -/
theorem tiny_order_told_as_nothing :
    let d : Dialect := .binance 5000
    let r : OrderRequest Float := ⟨"7", .binance, "BTCUSDT", .buy, .limit, 1e-9, 5⟩
    r.check = .ok () ∧ ∃ out pending', d.orderRequest {} 1 r = .ok (out, pending') ∧
      d.quantityIn? out = some "0" ∧ ∀ n : Numeral, n.text = "0" → n.value = 0 := by
  intro d r
  have hquantity : amountText r.quantity = "0" := by decide +kernel
  refine ⟨by decide +kernel, _, _, rfl, ?_, ?_⟩
  · rw [← hquantity]
    rfl
  · intro n hn
    have hzero : n.text = Numeral.text ⟨0, [], by simp, by simp⟩ := hn
    rw [Numeral.value_eq_of_text_eq hzero]
    simp [Numeral.value]

end Dialect

end VenueGateway
