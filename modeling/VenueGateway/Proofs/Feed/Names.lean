import VenueGateway.Feed.Grvt
import VenueGateway.Proofs.Feed.Parsed
import VenueGateway.Proofs.Json.Fields

namespace VenueGateway.Grvt

open Feed

/-- Where an object stands in a message or in the body of an answer. -/
inductive Place where
  | message
  /-- An order, a position, a trade, a book or an account summary. -/
  | record
  | metadata
  | state
  | leg
  | level
  | spot
deriving DecidableEq, Repr

namespace Place

def all : List Place := [.message, .record, .metadata, .state, .leg, .level, .spot]

/-- The fields that an object has there, each by its full and its compact name. -/
def names : Place → List (String × String)
  | .message => [("stream", "s"), ("selector", "s1"), ("sequence_number", "n"), ("feed", "f"),
      ("result", "r"), ("error", "e")]
  | .record => [("result", "r"), ("order_id", "oi"), ("metadata", "m"), ("state", "s1"),
      ("legs", "l"), ("instrument", "i"), ("size", "s"), ("entry_price", "ep"),
      ("unrealized_pnl", "up"), ("event_time", "et"), ("trade_id", "ti"), ("price", "p"),
      ("is_taker_buyer", "it"), ("bids", "b"), ("asks", "a"), ("settle_currency", "sc"),
      ("available_balance", "ab"), ("spot_balances", "sb")]
  | .metadata => [("client_order_id", "co"), ("create_time", "ct")]
  | .state => [("status", "s"), ("traded_size", "ts"), ("avg_fill_price", "af"),
      ("update_time", "ut"), ("reject_reason", "rr")]
  | .leg => [("instrument", "i"), ("size", "s"), ("limit_price", "lp"), ("is_buying_asset", "ib")]
  | .level => [("price", "p"), ("size", "s")]
  | .spot => [("currency", "c"), ("balance", "b")]

def fullNames (P : Place) : List String := P.names.map Prod.fst

def compactNames (P : Place) : List String := P.names.map Prod.snd

theorem mem_all (P : Place) : P ∈ all := by cases P <;> decide

end Place

def fieldNames : List (String × String) := Place.all.flatMap Place.names

/-- Every name that is read anywhere, in either form. -/
def knownNames : List String :=
  fieldNames.map Prod.fst ++ fieldNames.map Prod.snd ++ ["qty", "amount"]

namespace Place

variable {P : Place} {full compact : String}

theorem mem_fieldNames {p : String × String} (h : p ∈ P.names) : p ∈ fieldNames :=
  List.mem_flatMap.mpr ⟨P, P.mem_all, h⟩

theorem full_mem_knownNames (h : (full, compact) ∈ P.names) : full ∈ knownNames :=
  List.mem_append_left _ (List.mem_append_left _ (List.mem_map_of_mem (mem_fieldNames h)))

theorem compact_mem_knownNames (h : (full, compact) ∈ P.names) : compact ∈ knownNames :=
  List.mem_append_left _ (List.mem_append_right _ (List.mem_map_of_mem (mem_fieldNames h)))

/-- In one place no compact name stands for two fields. -/
theorem full_injective {p q : String × String} (hp : p ∈ P.names) (hq : q ∈ P.names)
    (h : p.2 = q.2) : p.1 = q.1 := by
  have hall : ∀ p ∈ P.names, ∀ q ∈ P.names, p.2 = q.2 → p.1 = q.1 := by
    cases P <;> decide +kernel
  exact hall p hp q hq h

theorem full_not_mem_compactNames (h : (full, compact) ∈ P.names) : full ∉ P.compactNames := by
  have hall : ∀ p ∈ P.names, p.1 ∉ P.compactNames := by
    cases P <;> decide +kernel
  exact hall _ h

theorem compact_not_mem_fullNames (h : (full, compact) ∈ P.names) : compact ∉ P.fullNames := by
  have hall : ∀ p ∈ P.names, p.2 ∉ P.fullNames := by
    cases P <;> decide +kernel
  exact hall _ h

end Place

/-- A compact name for every full one. Fields that nobody reads may have any, but none that is
read. -/
structure Naming where
  of : String → String
  listed : ∀ p ∈ fieldNames, of p.1 = p.2
  unread : ∀ k, k ∉ knownNames → of k ∉ knownNames

namespace Naming

/-- The naming that leaves the fields that nobody reads as they are. -/
def plain : Naming where
  of k := (Json.lookup k fieldNames).getD k
  listed := by decide +kernel
  unread := by
    intro k hk
    have hnone : Json.lookup k fieldNames = none := by
      rw [Json.lookup_eq_none_iff]
      intro p hp hkey
      apply hk
      subst hkey
      exact List.mem_append_left _ (List.mem_append_left _ (List.mem_map_of_mem hp))
    rw [hnone]
    exact hk

variable (ρ : Naming)

mutual

/-- The message with every field under its compact name, all through. -/
def shorten : Json → Json
  | .array vs => .array (shortenItems vs)
  | .object fields => .sorted (shortenFields fields)
  | .null => .null
  | .bool b => .bool b
  | .number n => .number n
  | .string s => .string s

def shortenItems : List Json → List Json
  | [] => []
  | v :: rest => shorten v :: shortenItems rest

def shortenFields : List (String × Json) → List (String × Json)
  | [] => []
  | (k, v) :: rest => (ρ.of k, shorten v) :: shortenFields rest

end

theorem shortenItems_eq_map (vs : List Json) : ρ.shortenItems vs = vs.map ρ.shorten := by
  induction vs with
  | nil => rfl
  | cons v rest ih => rw [shortenItems, ih, List.map_cons]

theorem shortenFields_eq_map (fields : List (String × Json)) :
    ρ.shortenFields fields = fields.map fun f => (ρ.of f.1, ρ.shorten f.2) := by
  induction fields with
  | nil => rfl
  | cons f rest ih => rw [shortenFields, ih, List.map_cons]

theorem field?_shorten (j : Json) (key : String) :
    (ρ.shorten j).field? key =
      Json.lookup key (j.fieldsOf.map fun f => (ρ.of f.1, ρ.shorten f.2)).reverse := by
  cases j with
  | object fields =>
    rw [← Json.lookup_sortFields, ← shortenFields_eq_map]
    rfl
  | _ => rfl

@[simp]
theorem isNull_shorten (v : Json) : (ρ.shorten v).isNull = v.isNull := by cases v <;> rfl

@[simp]
theorem isObject_shorten (v : Json) : (ρ.shorten v).isObject = v.isObject := by cases v <;> rfl

@[simp]
theorem bool?_shorten (v : Json) : (ρ.shorten v).bool? = v.bool? := by cases v <;> rfl

@[simp]
theorem amount?_shorten (v : Json) : amount? (ρ.shorten v) = amount? v := by cases v <;> rfl

@[simp]
theorem text?_shorten (v : Json) : text? (ρ.shorten v) = text? v := by cases v <;> rfl

@[simp]
theorem time?_shorten (v : Json) : time? (ρ.shorten v) = time? v := by cases v <;> rfl

theorem array?_shorten (v : Json) :
    (ρ.shorten v).array? = v.array?.map fun vs => vs.map ρ.shorten := by
  cases v with
  | array vs => exact congrArg some (ρ.shortenItems_eq_map vs)
  | _ => rfl

theorem items_shorten (v : Json) : items (ρ.shorten v) = (items v).map ρ.shorten := by
  cases v with
  | array vs => exact ρ.shortenItems_eq_map vs
  | _ => rfl

@[simp]
theorem leading_shorten (v : Json) : leading (ρ.shorten v) = ρ.shorten (leading v) := by
  cases v with
  | array vs => cases vs <;> rfl
  | _ => rfl

end Naming

/-- An object all of whose fields are of its place under their full names, each once, next to
fields that nobody reads. Values that are no objects have no fields. -/
def Named (P : Place) (j : Json) : Prop :=
  j.keys.Nodup ∧ ∀ k ∈ j.keys, k ∈ P.fullNames ∨ k ∉ knownNames

instance (P : Place) (j : Json) : Decidable (Named P j) := inferInstanceAs (Decidable (_ ∧ _))

theorem named_array (P : Place) (vs : List Json) : Named P (.array vs) :=
  ⟨List.nodup_nil, fun _ hk => absurd hk List.not_mem_nil⟩

namespace Named

variable {ρ : Naming} {P : Place} {j : Json} {full compact : String}

theorem field?_eq_none (h : Named P j) {key : String} (hknown : key ∈ knownNames)
    (hkey : key ∉ P.fullNames) : j.field? key = none := by
  rw [Json.field?_eq_lookup, Json.lookup_eq_none_iff]
  intro f hf heq
  subst heq
  rcases h.2 f.1 (Json.mem_keys_of_mem_fieldsOf hf) with hfull | hforeign
  · exact hkey hfull
  · exact hforeign hknown

variable (ρ) in
/-- A field gets the compact name of its place, or one that nobody reads. -/
theorem of_mem (h : Named P j) {f : String × Json} (hf : f ∈ j.fieldsOf) :
    (f.1, ρ.of f.1) ∈ P.names ∨ ρ.of f.1 ∉ knownNames := by
  rcases h.2 f.1 (Json.mem_keys_of_mem_fieldsOf hf) with hfull | hforeign
  · left
    obtain ⟨q, hq, hq1⟩ := List.mem_map.mp hfull
    rw [← hq1, ρ.listed q (Place.mem_fieldNames hq)]
    exact hq
  · right
    exact ρ.unread f.1 hforeign

theorem eq_full_of_compact (h : Named P j) {f : String × Json} (hf : f ∈ j.fieldsOf)
    (hp : (full, compact) ∈ P.names) (hof : ρ.of f.1 = compact) : f.1 = full := by
  rcases h.of_mem ρ hf with hname | hunread
  · exact Place.full_injective hname hp hof
  · rw [hof] at hunread
    exact absurd (Place.compact_mem_knownNames hp) hunread

theorem field?_shorten (h : Named P j) (hp : (full, compact) ∈ P.names) :
    (ρ.shorten j).field? compact = (j.field? full).map ρ.shorten := by
  rw [ρ.field?_shorten]
  apply Option.ext
  intro v
  -- Both lookups find what is there, since only one field has the key.
  rw [Json.lookup_eq_some_iff, Option.map_eq_some_iff]
  · simp only [Json.field?_eq_some_iff h.1, List.mem_reverse, List.mem_map]
    constructor
    · rintro ⟨f, hf, heq⟩
      cases heq
      refine ⟨f.2, ?_, rfl⟩
      rw [← h.eq_full_of_compact hf hp rfl]
      exact hf
    · rintro ⟨w, hw, rfl⟩
      refine ⟨(full, w), hw, ?_⟩
      rw [ρ.listed _ (Place.mem_fieldNames hp)]
  · intro v hv w hw hv' hw'
    obtain ⟨f, hf, rfl⟩ := List.mem_map.mp (List.mem_reverse.mp hv)
    obtain ⟨g, hg, rfl⟩ := List.mem_map.mp (List.mem_reverse.mp hw)
    have hfg : f.1 = g.1 :=
      (h.eq_full_of_compact hf hp hv').trans (h.eq_full_of_compact hg hp hw').symm
    rw [List.inj_on_of_nodup_map h.1 hf hg hfg]

/-- No name is read in the compact form that is not a compact name of the place. -/
theorem field?_shorten_eq_none (h : Named P j) {key : String} (hknown : key ∈ knownNames)
    (hkey : key ∉ P.compactNames) : (ρ.shorten j).field? key = none := by
  rw [ρ.field?_shorten, Json.lookup_eq_none_iff]
  intro g hg heq
  obtain ⟨f, hf, rfl⟩ := List.mem_map.mp (List.mem_reverse.mp hg)
  subst heq
  rcases h.of_mem ρ hf with hname | hunread
  · exact hkey (List.mem_map_of_mem hname)
  · exact hunread hknown

/-- The compact name is not there to be found in the full form. -/
theorem first?_eq (h : Named P j) (hp : (full, compact) ∈ P.names) :
    first? j [full, compact] = (j.field? full).filter (!·.isNull) := by
  have hnone := h.field?_eq_none (Place.compact_mem_knownNames hp)
    (Place.compact_not_mem_fullNames hp)
  unfold first?
  rw [List.findSome?_cons, List.findSome?_cons, hnone]
  cases (j.field? full).filter (!·.isNull) <;> rfl

theorem first?_shorten (h : Named P j) (hp : (full, compact) ∈ P.names) :
    first? (ρ.shorten j) [full, compact] = (first? j [full, compact]).map ρ.shorten := by
  have hnone : (ρ.shorten j).field? full = none :=
    h.field?_shorten_eq_none (Place.full_mem_knownNames hp) (Place.full_not_mem_compactNames hp)
  rw [h.first?_eq hp]
  unfold first?
  rw [List.findSome?_cons, List.findSome?_cons, hnone, h.field?_shorten hp]
  cases j.field? full with
  | none => rfl
  | some v =>
    cases hnull : v.isNull with
    | true => simp [Option.filter, hnull]
    | false => simp [Option.filter, hnull]

theorem mem_field?_of_first? (h : Named P j) (hp : (full, compact) ∈ P.names) {v : Json}
    (hv : first? j [full, compact] = some v) : v ∈ j.field? full := by
  rw [h.first?_eq hp, Option.filter_eq_some_iff] at hv
  exact hv.1

/-- A reading that does not see names reads the same under either. -/
theorem bind_first?_shorten {α : Type} (h : Named P j) (hp : (full, compact) ∈ P.names)
    {f : Json → Option α} (hf : ∀ v ∈ j.field? full, f (ρ.shorten v) = f v) :
    (first? (ρ.shorten j) [full, compact]).bind f = (first? j [full, compact]).bind f := by
  rw [h.first?_shorten hp]
  cases hv : first? j [full, compact] with
  | none => rfl
  | some v => exact hf v (h.mem_field?_of_first? hp hv)

/-- Likewise of a part that has to be there. -/
theorem bind_orMissing_shorten {α : Type} (h : Named P j) (hp : (full, compact) ∈ P.names)
    {f g : Json → Parsed α} (hfg : ∀ v ∈ j.field? full, f (ρ.shorten v) = g v) (field : String) :
    (orMissing field (first? (ρ.shorten j) [full, compact]) >>= f) =
      (orMissing field (first? j [full, compact]) >>= g) := by
  rw [h.first?_shorten hp]
  apply bind_orMissing_map
  intro v hv
  exact hfg v (h.mem_field?_of_first? hp hv)

theorem textAt?_shorten (h : Named P j) (hp : (full, compact) ∈ P.names) :
    textAt? (ρ.shorten j) [full, compact] = textAt? j [full, compact] :=
  h.bind_first?_shorten hp fun v _ => ρ.text?_shorten v

theorem textAt_shorten (h : Named P j) (hp : (full, compact) ∈ P.names) (field : String) :
    textAt (ρ.shorten j) field [full, compact] = textAt j field [full, compact] := by
  unfold textAt
  rw [h.textAt?_shorten hp]

theorem timeAt?_shorten (h : Named P j) (hp : (full, compact) ∈ P.names) :
    timeAt? (ρ.shorten j) [full, compact] = timeAt? j [full, compact] :=
  h.bind_first?_shorten hp fun v _ => ρ.time?_shorten v

theorem side?_shorten (h : Named P j) (hp : (full, compact) ∈ P.names) :
    side? (ρ.shorten j) [full, compact] = side? j [full, compact] := by
  unfold side? flagAt?
  rw [h.bind_first?_shorten hp fun v _ => ρ.bool?_shorten v]

theorem amountAt?_shorten (h : Named P j) (hp : (full, compact) ∈ P.names) :
    amountAt? (ρ.shorten j) [full, compact] = amountAt? j [full, compact] :=
  h.bind_first?_shorten hp fun v _ => ρ.amount?_shorten v

/-- A refusal shows the value, whose own fields may have other names. -/
theorem amountAt_shorten (h : Named P j) (hp : (full, compact) ∈ P.names) (field : String) :
    Alike (amountAt (ρ.shorten j) field [full, compact]) (amountAt j field [full, compact]) := by
  intro x
  rw [amountAt_eq_ok_iff, amountAt_eq_ok_iff, h.amountAt?_shorten hp]

theorem legAmount?_shorten (h : Named P j) (hp : (full, compact) ∈ P.names) :
    legAmount? (ρ.shorten j) [full, compact] = legAmount? j [full, compact] := by
  unfold legAmount?
  rw [h.first?_shorten hp]
  cases first? j [full, compact] with
  | none => rfl
  | some v => simp

end Named

end VenueGateway.Grvt
