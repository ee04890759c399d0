import VenueGateway.Dialect.Inbound
import VenueGateway.Proofs.Feed.Parsed
import VenueGateway.Proofs.Json.Fields
import VenueGateway.Proofs.Order.Identity
import VenueGateway.Proofs.Text.Spelling

namespace VenueGateway

namespace Grvt

open Feed

variable {now : Int} {j : Json} {e : OrderEvent Float} {id : String} {n : Nat}

/-- The id under which an order goes out. -/
def sentId? : OutboundRequest → Option String
  | .call q => (q.body.bind (·.path? ["order", "metadata", "client_order_id"])).bind Json.string?
  | .frame _ => none

/-- The id that an update gives an order, as its sender knows it. -/
def ownId? (j : Json) : Option String :=
  (first? j ["metadata", "m"]).bind fun m => textAt? m ["client_order_id", "co"]

/-- An update that gives an order's number, as one or in digits. -/
def Names (n : Nat) (j : Json) : Prop :=
  ∃ m v, first? j ["metadata", "m"] = some m ∧ first? m ["client_order_id", "co"] = some v ∧
    (v = .number (.whole n) ∨ v = .string (Text.ofNat n))

def statuses : List String := ["PENDING", "OPEN", "FILLED", "CANCELLED", "REJECTED"]

/-- What an update has to say besides whose it is: a known status, and a symbol. -/
structure IsReport (j : Json) : Prop where
  status : ∃ state status, first? j ["state", "s1"] = some state ∧
    textAt? state ["status", "s"] = some status ∧ status ∈ statuses
  symbol : ∃ leg symbol, (first? j ["legs", "l"]).map leading = some leg ∧
    textAt? leg ["instrument", "i"] = some symbol

theorem exists_kindOfStatus_iff {status : String} {traded : Float} :
    (∃ kind, kindOfStatus status traded = .ok kind) ↔ status ∈ statuses := by
  unfold kindOfStatus
  split
  case h_6 hpending hopen hfilled hcancelled hrejected =>
    have hunknown : status ∉ statuses := by
      simpa [statuses] using ⟨hpending, hopen, hfilled, hcancelled, hrejected⟩
    simp [hunknown]
  all_goals simp [statuses]

theorem id_of_order (hid : ownId? j = some id) (h : order now j = .ok e) : e.id = id := by
  obtain ⟨id', hid', h⟩ := bind_eq_ok_iff.mp h
  have hown : (ownId? j).or (textAt? j ["order_id", "oi"]) = some id' := orMissing_eq_ok_iff.mp hid'
  rw [hid, Option.some_or] at hown
  cases hown
  simp only [bind_eq_ok_iff] at h
  obtain ⟨_, _, _, _, _, _, _, _, _, _, he⟩ := h
  cases he
  rfl

theorem exists_order_iff (hid : ownId? j = some id) :
    (∃ e, order now j = .ok e) ↔ IsReport j := by
  constructor
  · rintro ⟨e, h⟩
    simp only [order, bind_eq_ok_iff, textAt_eq_ok_iff, orMissing_eq_ok_iff] at h
    obtain ⟨_, _, state, hstate, status, hstatus, kind, hkind, leg, hleg, symbol, hsymbol, _⟩ := h
    exact ⟨⟨state, status, hstate, hstatus, exists_kindOfStatus_iff.mp ⟨kind, hkind⟩⟩,
      ⟨leg, symbol, hleg, hsymbol⟩⟩
  · rintro ⟨⟨state, status, hstate, hstatus, hknown⟩, ⟨leg, symbol, hleg, hsymbol⟩⟩
    have hown : (ownId? j).or (textAt? j ["order_id", "oi"]) = some id := by
      rw [hid, Option.some_or]
    obtain ⟨kind, hkind⟩ := exists_kindOfStatus_iff.mpr hknown
    simp only [order, bind_eq_ok_iff, textAt_eq_ok_iff, orMissing_eq_ok_iff]
    exact ⟨_, id, hown, state, hstate, status, hstatus, kind, hkind, leg, hleg, symbol, hsymbol,
      rfl⟩

/-- Either way the number is told, its digits are taken for the id. -/
theorem ownId?_of_names (h : Names n j) : ownId? j = some (Text.ofNat n) := by
  obtain ⟨m, v, hm, hv, hform⟩ := h
  have hne : (Text.ofNat n).isEmpty = false := by
    simp [Text.ofNat, Text.natDigits, Nat.toDigits_ne_nil]
  simp only [ownId?, hm, Option.bind_some, textAt?, hv]
  rcases hform with rfl | rfl
  · rfl
  · simp only [text?, hne, Bool.false_eq_true, if_false]

/-- An id goes out as it is. -/
theorem sentId?_body (account : String) (r : OrderRequest Float) :
    sentId? (.call ⟨.post, "/full/v1/create_order", [], some (orderBody account r), true⟩) =
      some r.id := by
  simp [sentId?, orderBody, Json.path?, Json.field?, Json.sorted, Json.lookup_sortFields,
    Json.lookup, Json.string?]

variable {envelope : Envelope} {account authUrl : String} {pending pending' : PendingOrders}
  {number : Nat} {r : OrderRequest Float} {out : OutboundRequest}

/-- An order is taken if its id spells a number of 64 bits. -/
theorem orderRequest_eq_ok_iff :
    (Dialect.grvt envelope account authUrl).orderRequest pending number r = .ok (out, pending') ↔
      (∃ plus zeros n, n < Text.bound64 ∧ r.id.toList = Text.spelling plus zeros n) ∧
        out = .call ⟨.post, "/full/v1/create_order", [], some (orderBody account r), true⟩ ∧
        pending' = pending := by
  have hread : (∃ plus zeros n, n < Text.bound64 ∧ r.id.toList = Text.spelling plus zeros n) ↔
      ¬ (Text.readBelow Text.bound64 r.id.toList).isNone = true := by
    rw [Option.isNone_iff_eq_none, ← ne_eq, Option.ne_none_iff_exists']
    simp only [Text.readBelow, Option.filter_eq_some_iff, Text.readNat_eq_some_iff,
      decide_eq_true_iff]
    constructor
    · rintro ⟨plus, zeros, n, hn, hid⟩
      exact ⟨n, ⟨plus, zeros, hid⟩, hn⟩
    · rintro ⟨n, ⟨plus, zeros, hid⟩, hn⟩
      exact ⟨plus, zeros, n, hn, hid⟩
  rw [hread]
  simp only [Dialect.orderRequest]
  split
  · next hnone => simp [hnone]
  · next hsome => simp [hsome, eq_comm]

/-- An order is taken if its id spells a number, and then goes out under the id as it is spelt. The
venue's updates tell the number. They are recognized just when the id is spelt with the number's
digits alone; with a plus sign or zeros before them, every update passes the order's entry by and is
taken for one of another order. -/
theorem order_recognized_unless_respelt (envelope : Envelope) (account authUrl : String)
    (pending : PendingOrders) (number : Nat) (r : OrderRequest Float) :
    let sent := (Dialect.grvt envelope account authUrl).orderRequest pending number r
    ((∃ out pending', sent = .ok (out, pending')) ↔
      ∃ plus zeros n, n < Text.bound64 ∧ r.id.toList = Text.spelling plus zeros n) ∧
    (∀ out pending', sent = .ok (out, pending') → sentId? out = some r.id) ∧
    ∀ plus zeros n, r.id.toList = Text.spelling plus zeros n →
      ∀ now j, Names n j →
        ((∃ e, order now j = .ok e) ↔ IsReport j) ∧
        ∀ e, order now j = .ok e →
          (e.id = r.id ↔ plus = false ∧ zeros = 0) ∧
          (plus = false ∧ zeros = 0 → OrderTable.Reaches r.id e) ∧
          (¬ (plus = false ∧ zeros = 0) → OrderTable.Misses r.id e) := by
  intro sent
  refine ⟨?_, ?_, ?_⟩
  · simp only [sent, orderRequest_eq_ok_iff]
    exact ⟨fun ⟨_, _, hspelt, _⟩ => hspelt, fun hspelt => ⟨_, _, hspelt, rfl, rfl⟩⟩
  · intro out pending' hsent
    obtain ⟨-, rfl, -⟩ := orderRequest_eq_ok_iff.mp hsent
    exact sentId?_body account r
  · intro plus zeros n hid now j hnames
    have hown := ownId?_of_names hnames
    refine ⟨exists_order_iff hown, ?_⟩
    intro e he
    -- The venue repeats a number and not a spelling, so the id of the event is the shortest
    -- spelling of it.
    have hecho : e.id.toList = Text.natDigits n := by
      rw [id_of_order hown he, Text.ofNat, String.toList_ofList]
    have hsame : e.id = r.id ↔ plus = false ∧ zeros = 0 := by
      rw [← String.toList_inj, hecho, hid, eq_comm, Text.spelling_eq_natDigits_iff]
    refine ⟨hsame, ?_, ?_⟩
    · intro hplain
      rw [← hsame.mpr hplain]
      exact OrderTable.reaches e
    · intro hrespelt
      exact OrderTable.misses fun heq => hrespelt (hsame.mp heq.symm)

/-- A venue tells by its number that it has an order. -/
def opened (n : Nat) : Json :=
  .object [("legs", .array [.object [("instrument", .string "BTC_USDT_Perp")]]),
    ("metadata", .object [("client_order_id", .number (.whole n))]), ("order_id", .string "0x01"),
    ("state", .object [("status", .string "OPEN")])]

def orderOf (id : String) : OrderRequest Float :=
  ⟨id, .grvt, "BTC_USDT_Perp", .buy, .limit, 1, 5⟩

theorem names_opened (n : Nat) : Names n (opened n) := ⟨_, _, rfl, rfl, .inl rfl⟩

theorem isReport_opened (n : Nat) : IsReport (opened n) :=
  ⟨⟨_, "OPEN", rfl, rfl, by decide⟩, ⟨_, "BTC_USDT_Perp", rfl, rfl⟩⟩

/-- The greatest number of 64 bits. -/
theorem order_recognized_unless_respelt_digits :
    let r := orderOf "18446744073709551615"
    (∃ out pending', (Dialect.grvt .full "main" "").orderRequest {} 1 r = .ok (out, pending') ∧
      sentId? out = some r.id) ∧
    Names 18446744073709551615 (opened 18446744073709551615) ∧
    ∃ e, order 0 (opened 18446744073709551615) = .ok e ∧ e.id = r.id ∧
      OrderTable.Reaches r.id e := by
  intro r
  have hid : r.id.toList = Text.spelling false 0 18446744073709551615 := by decide +kernel
  obtain ⟨htaken, hsent, hupdates⟩ := order_recognized_unless_respelt .full "main" "" {} 1 r
  obtain ⟨out, pending', hout⟩ := htaken.mpr ⟨false, 0, _, by decide, hid⟩
  obtain ⟨hread, hkept⟩ := hupdates false 0 _ hid 0 _ (names_opened _)
  obtain ⟨e, he⟩ := hread.mpr (isReport_opened _)
  obtain ⟨hsame, hreaches, -⟩ := hkept e he
  exact ⟨⟨out, pending', hout, hsent out pending' hout⟩, names_opened _, e, he,
    hsame.mpr ⟨rfl, rfl⟩, hreaches ⟨rfl, rfl⟩⟩

/-- The order goes out as 007, and the update that calls it 7 adds another order. -/
theorem padded_order_missed :
    let r := orderOf "007"
    let t : OrderTable Float := ⟨[.new (r.toOrder 0)]⟩
    r.check.isOk = true ∧
      (∃ out pending', (Dialect.grvt .full "main" "").orderRequest {} 1 r = .ok (out, pending') ∧
        sentId? out = some "007") ∧
      Names 7 (opened 7) ∧
      ∃ e, order 0 (opened 7) = .ok e ∧ e.id = "7" ∧ (t.receive e 1).1.ids = ["007", "7"] ∧
        (t.receive e 1).2.isNew = true := by
  intro r t
  have hspelt : ∃ plus zeros n, n < Text.bound64 ∧ r.id.toList = Text.spelling plus zeros n :=
    ⟨false, 2, 7, by decide, by decide +kernel⟩
  have hown := ownId?_of_names (names_opened 7)
  have hread : ∃ e, order 0 (opened 7) = .ok e := (exists_order_iff hown).mpr (isReport_opened 7)
  obtain ⟨e, he⟩ := hread
  have hid : e.id = "7" := (id_of_order hown he).trans (by decide +kernel)
  have hmissed : OrderTable.Misses "007" e := OrderTable.misses (by rw [hid]; decide)
  obtain ⟨-, hadded⟩ := hmissed t _ 1 rfl
  obtain ⟨hids, hnew⟩ := hadded (by rw [hid]; rfl)
  refine ⟨by decide +kernel, ?_, names_opened 7, e, he, hid, ?_, hnew⟩
  · exact ⟨_, _, orderRequest_eq_ok_iff.mpr ⟨hspelt, rfl, rfl⟩, sentId?_body "main" r⟩
  · rw [hids, hid]
    rfl

end Grvt
end VenueGateway
