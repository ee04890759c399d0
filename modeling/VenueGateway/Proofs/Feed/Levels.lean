import VenueGateway.Feed.Level
import VenueGateway.Proofs.Feed.Parsed
import VenueGateway.Proofs.Json.Fields

namespace VenueGateway.Feed

/-- The amount under the first of the names that an object has a value for. -/
inductive HasAmount (fields : List (String × Json)) : List String → Float → Prop
  | here {name : String} {names : List String} {v : Json} {x : Float}
      (hfield : Json.lookup name fields = some v) (hnull : v.isNull = false)
      (hamount : amount? v = some x) : HasAmount fields (name :: names) x
  | later {name : String} {names : List String} {x : Float}
      (habsent : ∀ v, Json.lookup name fields = some v → v.isNull = true)
      (hrest : HasAmount fields names x) : HasAmount fields (name :: names) x

/-- A level in one of its forms: price and quantity in front, behind the word of an action, or by
name. -/
inductive IsLevel : Json → PriceLevel Float → Prop
  | pair {p q : Json} {rest : List Json} {l : PriceLevel Float}
      (hprice : amount? p = some l.price) (hquantity : amount? q = some l.quantity) :
      IsLevel (.array (p :: q :: rest)) l
  | action {word : String} {p q : Json} {rest : List Json} {l : PriceLevel Float}
      (hword : amount? (.string word) = none) (hprice : amount? p = some l.price)
      (hquantity : amount? q = some l.quantity) :
      IsLevel (.array (.string word :: p :: q :: rest)) l
  | object {fields : List (String × Json)} {l : PriceLevel Float}
      (hprice : HasAmount fields ["price", "p"] l.price)
      (hquantity : HasAmount fields ["size", "qty", "amount", "s"] l.quantity) :
      IsLevel (.object fields) l

/-- The first two numbers of an array that do not both stand where they belong: between them is
something else, or before them is more than the word of an action. -/
inductive Displaced : Json → PriceLevel Float → Prop
  | mk {lead gap rest : List Json} {p q : Json} {l : PriceLevel Float}
      (hlead : ∀ v ∈ lead, amount? v = none) (hprice : amount? p = some l.price)
      (hgap : ∀ v ∈ gap, amount? v = none) (hquantity : amount? q = some l.quantity)
      (hplace : gap ≠ [] ∨ lead ≠ [] ∧ ∀ word, lead ≠ [.string word]) :
      Displaced (.array (lead ++ p :: (gap ++ q :: rest))) l

variable {v : Json} {l l' : PriceLevel Float}

theorem amountAt?_eq_some_iff {fields : List (String × Json)} {names : List String} {x : Float} :
    amountAt? (.object fields) names = some x ↔ HasAmount fields names x := by
  -- On the names: the first one that is there decides, and a null is as good as absent.
  induction names with
  | nil =>
    constructor
    · intro h
      cases h
    · intro h
      cases h
  | cons name names ih =>
    have hstep : amountAt? (.object fields) (name :: names) =
        match (Json.lookup name fields).filter (!·.isNull) with
        | some v => amount? v
        | none => amountAt? (.object fields) names := by
      simp only [amountAt?, first?, List.findSome?_cons, Json.field?]
      cases (Json.lookup name fields).filter (!·.isNull) <;> rfl
    rw [hstep]
    cases hfield : (Json.lookup name fields).filter (!·.isNull) with
    | some v =>
      obtain ⟨hv, hnull⟩ := Option.filter_eq_some_iff.mp hfield
      have hnull : v.isNull = false := by simpa using hnull
      constructor
      · intro h
        exact .here hv hnull h
      · intro h
        cases h with
        | here hv' _ hamount =>
          rw [hv] at hv'
          cases hv'
          exact hamount
        | later habsent _ =>
          rw [habsent v hv] at hnull
          cases hnull
    | none =>
      have habsent : ∀ v, Json.lookup name fields = some v → v.isNull = true := by
        simpa using hfield
      rw [ih]
      constructor
      · intro h
        exact .later habsent h
      · intro h
        cases h with
        | here hv hnull _ =>
          rw [habsent _ hv] at hnull
          cases hnull
        | later _ hrest => exact hrest

/-- What stands before the two numbers and between them tells whether an array has a form. -/
theorem firstTwo_iff {vs : List Json} :
    (∃ more, vs.filterMap amount? = l.price :: l.quantity :: more) ↔
      IsLevel (.array vs) l ∨ Displaced (.array vs) l := by
  constructor
  · rintro ⟨more, h⟩
    obtain ⟨lead, p, tail, rfl, hlead, hprice, htail⟩ := List.filterMap_eq_cons_iff.mp h
    obtain ⟨gap, q, rest, rfl, hgap, hquantity, -⟩ := List.filterMap_eq_cons_iff.mp htail
    -- What stands before and between the two numbers tells whether the level has one of its forms.
    by_cases hplace : gap ≠ [] ∨ lead ≠ [] ∧ ∀ word, lead ≠ [.string word]
    · exact .inr ⟨hlead, hprice, hgap, hquantity, hplace⟩
    · simp only [not_or, not_and, not_not] at hplace
      obtain ⟨rfl, hword⟩ := hplace
      by_cases hnil : lead = []
      · subst hnil
        exact .inl (.pair hprice hquantity)
      · obtain ⟨word, rfl⟩ := by simpa using hword hnil
        exact .inl (.action (hlead _ List.mem_cons_self) hprice hquantity)
  · rintro (h | h)
    · cases h with
      | pair hprice hquantity => exact ⟨_, by simp [hprice, hquantity]; rfl⟩
      | action hword hprice hquantity => exact ⟨_, by simp [hword, hprice, hquantity]; rfl⟩
    · cases h with
      | mk hlead hprice hgap hquantity _ =>
        have hlead := List.filterMap_eq_nil_iff.mpr hlead
        have hgap := List.filterMap_eq_nil_iff.mpr hgap
        simp only [List.filterMap_append, List.filterMap_cons, hlead, hprice, hgap, hquantity,
          List.nil_append]
        exact ⟨_, rfl⟩

theorem level?_eq_some_iff : level? v = some l ↔ IsLevel v l ∨ Displaced v l := by
  cases v with
  | array vs =>
    rw [← firstTwo_iff]
    obtain ⟨price, quantity⟩ := l
    simp only [level?]
    split
    · next hvs => simp [hvs]
    · next hvs =>
      constructor
      · intro h
        cases h
      · rintro ⟨more, h⟩
        exact absurd h (hvs price quantity more)
  | object fields =>
    simp only [level?, Option.bind_eq_bind, Option.bind_eq_some_iff, amountAt?_eq_some_iff]
    constructor
    · rintro ⟨price, hprice, quantity, hquantity, h⟩
      cases h
      exact .inl (.object hprice hquantity)
    · rintro (h | h)
      · cases h with
        | object hprice hquantity => exact ⟨l.price, hprice, l.quantity, hquantity, rfl⟩
      · cases h
  | null | bool | number | string =>
    constructor
    · intro h
      cases h
    · rintro (h | h) <;> cases h

/-- Nothing stands before the first number of an array that begins with one. -/
theorem eq_nil_of_number {lead tail rest : List Json} {u : Json} {x : Float}
    (hlead : ∀ v ∈ lead, amount? v = none) (hu : amount? u = some x)
    (h : lead ++ tail = u :: rest) : lead = [] := by
  cases lead with
  | nil => rfl
  | cons v lead =>
    obtain ⟨rfl, -⟩ := List.cons.inj h
    rw [hlead v List.mem_cons_self] at hu
    cases hu

/-- An array with displaced numbers has none of the forms. -/
theorem Displaced.not_isLevel (h : Displaced v l) : ¬ IsLevel v l' := by
  intro hform
  cases h with
  | @mk lead gap rest p q _ hlead hprice hgap _ hplace =>
    generalize hvs : lead ++ p :: (gap ++ q :: rest) = vs at hform
    -- In either form of an array the numbers have fixed places, so nothing else would stand before
    -- or between them.
    cases hform with
    | pair hprice' hquantity' =>
      obtain rfl := eq_nil_of_number hlead hprice' hvs
      obtain rfl := eq_nil_of_number hgap hquantity' (List.cons.inj hvs).2
      simp at hplace
    | @action word _ _ _ _ hword hprice' hquantity' =>
      cases lead with
      | nil =>
        obtain ⟨rfl, -⟩ := List.cons.inj hvs
        rw [hprice] at hword
        cases hword
      | cons v lead =>
        obtain ⟨hv, htail⟩ := List.cons.inj hvs
        obtain rfl := eq_nil_of_number (List.forall_mem_cons.mp hlead).2 hprice' htail
        obtain rfl := eq_nil_of_number hgap hquantity' (List.cons.inj htail).2
        subst hv
        simp at hplace

theorem level_eq_ok_iff {field : String} :
    level field v = .ok l ↔ IsLevel v l ∨ Displaced v l := by
  rw [← level?_eq_some_iff]
  unfold level
  cases level? v <;> simp

theorem level_eq_error_iff {field : String} {e : FeedError} :
    level field v = .error e ↔
      (∀ l, ¬ IsLevel v l ∧ ¬ Displaced v l) ∧ e = .invalid field v.text := by
  simp only [← not_or, ← level?_eq_some_iff]
  unfold level
  cases level? v <;> simp [eq_comm]

/-- A side is read just when each of its levels has one of the forms or two displaced numbers, and
then level by level as they stand there; the first level that is neither is what the whole side
fails with. A level with displaced numbers has none of the forms, so a side without such levels is
read by the forms alone. -/
theorem side_read_unless_displaced {j : Json} {field : String} {vs : List Json}
    (h : j.field? field = some (.array vs)) :
    (∀ ls, levels j field = .ok ls ↔
      List.Forall₂ (fun v l => IsLevel v l ∨ Displaced v l) vs ls) ∧
    (∀ e, levels j field = .error e ↔ ∃ before v after, vs = before ++ v :: after ∧
      (∀ u ∈ before, ∃ l, IsLevel u l ∨ Displaced u l) ∧
      (∀ l, ¬ IsLevel v l ∧ ¬ Displaced v l) ∧ e = .invalid field v.text) ∧
    (∀ v l l', Displaced v l → ¬ IsLevel v l') ∧
    ((∀ v ∈ vs, ∀ l, ¬ Displaced v l) →
      ∀ ls, levels j field = .ok ls ↔ List.Forall₂ IsLevel vs ls) := by
  have hlevels : levels j field = vs.mapM (level field) := by simp only [levels, h]
  have hread : ∀ ls, levels j field = .ok ls ↔
      List.Forall₂ (fun v l => IsLevel v l ∨ Displaced v l) vs ls := by
    intro ls
    rw [hlevels, mapM_eq_ok_iff]
    simp only [level_eq_ok_iff]
  refine ⟨hread, ?_, fun _ _ _ hdisplaced => hdisplaced.not_isLevel, ?_⟩
  · intro e
    rw [hlevels, mapM_eq_error_iff]
    simp only [level_eq_ok_iff, level_eq_error_iff]
  · intro hnone ls
    rw [hread]
    constructor
    · intro hall
      -- Each element is read in one way or the other, and none of them is displaced.
      refine List.Forall₂.imp ?_ ((List.forall₂_and_left _ _).mpr ⟨hnone, hall⟩)
      rintro v l ⟨hv, hform | hdisplaced⟩
      · exact hform
      · exact absurd hdisplaced (hv l)
    · exact List.Forall₂.imp fun v l => .inl

/-- A level of each form; the price of the last one is null under its first name. -/
theorem side_read_unless_displaced_threeForms :
    let deltas : List Json := [.array [.string "100.5", .string "2", .string "x"],
      .array [.string "new", .string "99.5", .string "3"],
      .object [("p", .string "98"), ("price", .null), ("size", .string "4")]]
    let j : Json := .object [("bids", .array deltas)]
    j.field? "bids" = some (.array deltas) ∧ (∀ v ∈ deltas, ∀ l, ¬ Displaced v l) ∧
      levels j "bids" = .ok [⟨100.5, 2⟩, ⟨99.5, 3⟩, ⟨98, 4⟩] := by
  intro deltas j
  have hpair : IsLevel (.array [.string "100.5", .string "2", .string "x"]) ⟨100.5, 2⟩ :=
    .pair (by decide +kernel) (by decide +kernel)
  have haction : IsLevel (.array [.string "new", .string "99.5", .string "3"]) ⟨99.5, 3⟩ :=
    .action (by decide +kernel) (by decide +kernel) (by decide +kernel)
  have hobject : IsLevel (.object [("p", .string "98"), ("price", .null), ("size", .string "4")])
      ⟨98, 4⟩ :=
    .object (.later (by simp [Json.lookup, Json.isNull])
      (.here rfl rfl (by decide +kernel))) (.here rfl rfl (by decide +kernel))
  have hside : j.field? "bids" = some (.array deltas) := rfl
  obtain ⟨-, -, hapart, hread⟩ := side_read_unless_displaced hside
  have hnone : ∀ v ∈ deltas, ∀ l, ¬ Displaced v l := by
    simp only [deltas, List.forall_mem_cons]
    exact ⟨fun l h => hapart _ l _ h hpair, fun l h => hapart _ l _ h haction,
      fun l h => hapart _ l _ h hobject, List.forall_mem_nil _⟩
  exact ⟨hside, hnone, (hread hnone _).mpr (.cons hpair (.cons haction (.cons hobject .nil)))⟩

/-- A level that lacks its quantity is read with the number of a later column. -/
theorem missing_quantity_read_behind :
    let v : Json := .array [.string "100", .null, .string "5"]
    levels (.object [("bids", .array [v])]) "bids" = .ok [⟨100, 5⟩] ∧ ∀ l, ¬ IsLevel v l := by
  intro v
  have hgap : ∀ u ∈ [Json.null], amount? u = none := by
    simp [amount?]
  have hdisplaced : Displaced v ⟨100, 5⟩ :=
    .mk (List.forall_mem_nil _) (by decide +kernel) hgap (by decide +kernel)
      (.inl (List.cons_ne_nil _ _))
  refine ⟨?_, fun l => hdisplaced.not_isLevel⟩
  have hlevel : level "bids" v = .ok ⟨100, 5⟩ := level_eq_ok_iff.mpr (.inr hdisplaced)
  exact mapM_eq_ok_iff.mpr (.cons hlevel .nil)

end VenueGateway.Feed
