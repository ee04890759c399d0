import Mathlib.Data.List.Forall2
import VenueGateway.Feed.Field

namespace VenueGateway

namespace Feed

variable {α β : Type}

theorem bind_eq_ok_iff {x : Parsed α} {f : α → Parsed β} {b : β} :
    (x >>= f) = .ok b ↔ ∃ a, x = .ok a ∧ f a = .ok b := by
  cases x with
  | error e => simp [bind, Except.bind]
  | ok a => simp [bind, Except.bind]

theorem map_eq_ok_iff {x : Parsed α} {f : α → β} {b : β} :
    (f <$> x) = .ok b ↔ ∃ a, x = .ok a ∧ f a = b := by
  cases x with
  | error e => simp [Functor.map, Except.map]
  | ok a => simp [Functor.map, Except.map]

theorem bind_eq_error_iff {x : Parsed α} {f : α → Parsed β} {e : FeedError} :
    (x >>= f) = .error e ↔ x = .error e ∨ ∃ a, x = .ok a ∧ f a = .error e := by
  cases x with
  | error e' => simp [bind, Except.bind]
  | ok a => simp [bind, Except.bind]

/-- A list is read as a whole just when its items are read one by one. -/
theorem mapM_eq_ok_iff {f : α → Parsed β} {xs : List α} {ys : List β} :
    xs.mapM f = .ok ys ↔ List.Forall₂ (fun x y => f x = .ok y) xs ys := by
  induction xs generalizing ys with
  | nil =>
    rw [List.forall₂_nil_left_iff, List.mapM_nil]
    constructor
    · intro h
      cases h
      rfl
    · rintro rfl
      rfl
  | cons x xs ih =>
    simp only [List.mapM_cons, bind_eq_ok_iff, List.forall₂_cons_left_iff, ih]
    constructor
    · rintro ⟨y, hy, ys', hys', h⟩
      cases h
      exact ⟨y, ys', hy, hys', rfl⟩
    · rintro ⟨y, ys', hy, hys', rfl⟩
      exact ⟨y, hy, ys', hys', rfl⟩

/-- The first item that is not read is what the whole fails with. -/
theorem mapM_eq_error_iff {f : α → Parsed β} {xs : List α} {e : FeedError} :
    xs.mapM f = .error e ↔ ∃ before x after, xs = before ++ x :: after ∧
      (∀ u ∈ before, ∃ y, f u = .ok y) ∧ f x = .error e := by
  induction xs with
  | nil =>
    constructor
    · intro h
      cases h
    · rintro ⟨before, x, after, h, -⟩
      cases before <;> cases h
  | cons x xs ih =>
    have hpure : ∀ (y : β) (ys : List β), (pure (y :: ys) : Parsed (List β)) ≠ .error e := by
      intro y ys h
      cases h
    simp only [List.mapM_cons, bind_eq_error_iff, ih, hpure, and_false, exists_false, or_false]
    -- Either the first element fails, or it is read and stands before the one that fails.
    constructor
    · rintro (hx | ⟨y, hy, before, x', after, rfl, hbefore, hx'⟩)
      · exact ⟨[], x, xs, rfl, fun u hu => absurd hu List.not_mem_nil, hx⟩
      · exact ⟨x :: before, x', after, rfl, List.forall_mem_cons.mpr ⟨⟨y, hy⟩, hbefore⟩, hx'⟩
    · rintro ⟨before, x', after, hxs, hbefore, hx'⟩
      cases before with
      | nil =>
        cases hxs
        exact .inl hx'
      | cons u before =>
        cases hxs
        obtain ⟨⟨y, hy⟩, hrest⟩ := List.forall_mem_cons.mp hbefore
        exact .inr ⟨y, hy, before, x', after, rfl, hrest, hx'⟩

/-- Every part of a list that is read as a whole is read from one of its items. -/
theorem exists_of_mem_mapM {f : α → Parsed β} {xs : List α} {ys : List β} {y : β}
    (h : xs.mapM f = .ok ys) (hy : y ∈ ys) : ∃ x ∈ xs, f x = .ok y := by
  obtain ⟨i, hi, rfl⟩ := List.getElem_of_mem hy
  have hall := mapM_eq_ok_iff.mp h
  have hi' : i < xs.length := by
    rw [hall.length_eq]
    exact hi
  exact ⟨xs[i], List.getElem_mem hi', hall.get hi' hi⟩

theorem textAt_eq_ok_iff {j : Json} {field s : String} {keys : List String} :
    textAt j field keys = .ok s ↔ textAt? j keys = some s := by
  unfold textAt
  cases textAt? j keys <;> simp

theorem toOption_eq_some_iff {x : Parsed α} {a : α} : x.toOption = some a ↔ x = .ok a := by
  cases x <;> simp [Except.toOption]

theorem orMissing_eq_ok_iff {field : String} {o : Option α} {a : α} :
    orMissing field o = .ok a ↔ o = some a := by
  cases o <;> simp [orMissing]

/-- What has to be there may be put into another form before the rest is read from it. -/
theorem bind_orMissing_map {γ : Type} {o : Option γ} {t : γ → α} {f : α → Parsed β}
    {g : γ → Parsed β} (h : ∀ c ∈ o, f (t c) = g c) (field : String) :
    (orMissing field (o.map t) >>= f) = (orMissing field o >>= g) := by
  cases o with
  | none => rfl
  | some c => exact h c rfl

theorem amountAt_eq_ok_iff {j : Json} {field : String} {keys : List String} {x : Float} :
    amountAt j field keys = .ok x ↔ amountAt? j keys = some x := by
  unfold amountAt amountAt?
  cases first? j keys with
  | none => simp
  | some v =>
    simp only [Option.bind_some]
    cases amount? v <;> simp

/-- Both fail, each in its own way, or both give the same. -/
def Alike (x y : Parsed α) : Prop := ∀ a, x = .ok a ↔ y = .ok a

namespace Alike

theorem of_eq {x y : Parsed α} (h : x = y) : Alike x y := by
  intro a
  rw [h]

theorem of_error (e e' : FeedError) : Alike (.error e : Parsed α) (.error e') := by
  intro a
  constructor <;> intro h <;> cases h

theorem ite {p : Prop} [Decidable p] {x x' y y' : Parsed α} (hx : Alike x x')
    (hy : Alike y y') : Alike (if p then x else y) (if p then x' else y') := by
  split
  · exact hx
  · exact hy

theorem bind {x y : Parsed α} {f g : α → Parsed β} (h : Alike x y)
    (hfg : ∀ a, Alike (f a) (g a)) : Alike (x >>= f) (y >>= g) := by
  intro b
  simp only [bind_eq_ok_iff]
  constructor
  · rintro ⟨a, hx, hf⟩
    exact ⟨a, (h a).mp hx, (hfg a b).mp hf⟩
  · rintro ⟨a, hy, hg⟩
    exact ⟨a, (h a).mpr hy, (hfg a b).mpr hg⟩

theorem map {x y : Parsed α} (h : Alike x y) (f : α → β) : Alike (f <$> x) (f <$> y) := by
  intro b
  simp only [map_eq_ok_iff]
  constructor
  · rintro ⟨a, hx, hf⟩
    exact ⟨a, (h a).mp hx, hf⟩
  · rintro ⟨a, hy, hf⟩
    exact ⟨a, (h a).mpr hy, hf⟩

/-- Lists read alike when their items are, one by one. -/
theorem mapM {γ : Type} {f : α → Parsed β} {g : γ → Parsed β} {t : γ → α} {xs : List γ}
    (h : ∀ x ∈ xs, Alike (f (t x)) (g x)) : Alike ((xs.map t).mapM f) (xs.mapM g) := by
  induction xs with
  | nil => exact of_eq rfl
  | cons x xs ih =>
    rw [List.map_cons, List.mapM_cons, List.mapM_cons]
    apply bind (h x List.mem_cons_self)
    intro b
    apply bind (ih fun x hx => h x (List.mem_cons_of_mem _ hx))
    intro bs
    exact of_eq rfl

end Alike

end Feed

end VenueGateway
