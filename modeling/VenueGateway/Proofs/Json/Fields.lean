import Mathlib.Data.List.Induction
import Mathlib.Data.List.Nodup
import VenueGateway.Json.Basic

namespace VenueGateway.Json

variable {α : Type}

theorem lookup_insertField (key other : String) (value : α) (fields : List (String × α)) :
    lookup other (insertField key value fields) =
      if key = other then some value else lookup other fields := by
  induction fields with
  | nil => rfl
  | cons field rest ih =>
    obtain ⟨k, v⟩ := field
    unfold insertField
    split
    · rfl
    · split
      · next hkey =>
        -- The earlier field of the same key is gone, and a lookup of any other key passed over it.
        subst hkey
        simp only [lookup]
        split <;> rfl
      · next hne =>
        simp only [lookup, ih]
        by_cases hk : k = other
        · subst hk
          rw [if_pos rfl, if_neg hne, if_pos rfl]
        · rw [if_neg hk, if_neg hk]

/-- Of the fields of one key, the last stays. -/
theorem lookup_sortFields (key : String) (fields : List (String × α)) :
    lookup key (sortFields fields) = lookup key fields.reverse := by
  induction fields using List.reverseRecOn with
  | nil => rfl
  | append_singleton fields field ih =>
    have hsort : sortFields (fields ++ [field]) =
        insertField field.1 field.2 (sortFields fields) := by
      simp [sortFields]
    rw [hsort, lookup_insertField, ih, List.reverse_concat]
    rfl

/-- Where all fields of a key agree, a lookup finds what is there. -/
theorem lookup_eq_some_iff {key : String} {fields : List (String × α)}
    (h : ∀ v ∈ fields, ∀ w ∈ fields, v.1 = key → w.1 = key → v = w) {value : α} :
    lookup key fields = some value ↔ (key, value) ∈ fields := by
  -- Lookup takes the first field of the key; as fields of one key are one field, the first is as
  -- good as any.
  induction fields with
  | nil => simp [lookup]
  | cons field rest ih =>
    obtain ⟨k, v⟩ := field
    have hrest := ih fun v hv w hw => h v (List.mem_cons_of_mem _ hv) w (List.mem_cons_of_mem _ hw)
    unfold lookup
    split
    · next hk =>
      subst hk
      constructor
      · intro hv
        cases hv
        exact List.mem_cons_self
      · intro hmem
        have hvalue : v = value := congrArg Prod.snd (h _ List.mem_cons_self _ hmem rfl rfl)
        rw [hvalue]
    · next hk =>
      rw [hrest, List.mem_cons]
      constructor
      · exact Or.inr
      · rintro (heq | hmem)
        · exact absurd (congrArg Prod.fst heq).symm hk
        · exact hmem

theorem lookup_eq_none_iff {key : String} {fields : List (String × α)} :
    lookup key fields = none ↔ ∀ field ∈ fields, field.1 ≠ key := by
  induction fields with
  | nil => simp [lookup]
  | cons field rest ih =>
    unfold lookup
    split
    · next hk => simp [hk]
    · next hk => simp [hk, ih]

theorem lookup_map {β : Type} (key : String) (f : α → β) (fields : List (String × α)) :
    lookup key (fields.map fun (k, v) => (k, f v)) = (lookup key fields).map f := by
  induction fields with
  | nil => rfl
  | cons field rest ih =>
    simp only [List.map_cons, lookup, ih]
    split <;> rfl

/-- All the fields of a record are found among others. -/
def Carries (fields record : List (String × α)) : Prop :=
  ∀ field ∈ record, lookup field.1 fields = some field.2

theorem carries_of_perm {fields record : List (String × α)} (hkeys : (record.map Prod.fst).Nodup)
    (h : fields.Perm record) : Carries fields record := by
  have hkeys : (fields.map Prod.fst).Nodup := (h.map Prod.fst).nodup_iff.mpr hkeys
  intro field hfield
  refine (lookup_eq_some_iff ?_).mpr (h.mem_iff.mpr hfield)
  intro v hv w hw hv' hw'
  exact List.inj_on_of_nodup_map hkeys hv hw (hv'.trans hw'.symm)

/-- The fields of an object; anything else has none. -/
def fieldsOf (j : Json) : List (String × Json) := j.object?.getD []

def keys (j : Json) : List String := j.fieldsOf.map Prod.fst

theorem field?_eq_lookup (j : Json) (key : String) : j.field? key = lookup key j.fieldsOf := by
  cases j <;> rfl

theorem mem_keys_of_mem_fieldsOf {j : Json} {field : String × Json} (h : field ∈ j.fieldsOf) :
    field.1 ∈ j.keys :=
  List.mem_map_of_mem h

theorem field?_eq_some_iff {j : Json} (h : j.keys.Nodup) {key : String} {value : Json} :
    j.field? key = some value ↔ (key, value) ∈ j.fieldsOf := by
  rw [field?_eq_lookup]
  apply lookup_eq_some_iff
  intro v hv w hw hv' hw'
  exact List.inj_on_of_nodup_map h hv hw (hv'.trans hw'.symm)

end VenueGateway.Json
