import Mathlib.Data.List.Infix
import Mathlib.Data.List.TakeDrop
import Mathlib.Data.List.TakeWhile
import VenueGateway.Text.Blank
import VenueGateway.Text.Integer

namespace VenueGateway.Text

variable {sep : Char}

theorem bne_of_not_mem {cs : List Char} (h : sep ∉ cs) : ∀ c ∈ cs, (c != sep) = true := by
  intro c hc
  have hne : c ≠ sep := fun he => h (he ▸ hc)
  simpa using hne

theorem splitOnce_append {l : List Char} (h : sep ∉ l) (r : List Char) :
    splitOnce sep (l ++ sep :: r) = some (l, r) := by
  have hspan : (l ++ sep :: r).span (· != sep) = (l, sep :: r) := by
    rw [List.span_eq_takeWhile_dropWhile, List.takeWhile_append_of_pos (bne_of_not_mem h),
      List.dropWhile_append_of_pos (bne_of_not_mem h)]
    simp
  simp only [splitOnce, hspan]

theorem splitOnce_of_not_mem {cs : List Char} (h : sep ∉ cs) : splitOnce sep cs = none := by
  have hspan : cs.span (· != sep) = (cs, []) := by
    rw [List.span_eq_takeWhile_dropWhile, List.takeWhile_eq_self_iff.mpr (bne_of_not_mem h),
      List.dropWhile_eq_nil_iff.mpr (bne_of_not_mem h)]
  simp only [splitOnce, hspan]

theorem splitOnce_eq_none_iff {cs : List Char} : splitOnce sep cs = none ↔ sep ∉ cs := by
  refine ⟨fun h hmem => ?_, splitOnce_of_not_mem⟩
  obtain ⟨before, behind, rfl, hbefore⟩ := List.eq_append_cons_of_mem hmem
  rw [splitOnce_append hbefore] at h
  cases h

theorem splitOnce_eq_some {cs l r : List Char} (h : splitOnce sep cs = some (l, r)) :
    sep ∉ l ∧ cs = l ++ sep :: r := by
  have hmem : sep ∈ cs := by
    by_contra hnot
    rw [splitOnce_of_not_mem hnot] at h
    cases h
  obtain ⟨before, behind, rfl, hbefore⟩ := List.eq_append_cons_of_mem hmem
  rw [splitOnce_append hbefore] at h
  cases h
  exact ⟨hbefore, rfl⟩

theorem splitLast_append {r : List Char} (h : sep ∉ r) (l : List Char) :
    splitLast sep (l ++ sep :: r) = some (l, r) := by
  have hr : sep ∉ r.reverse := by simpa using h
  have hreverse : (l ++ sep :: r).reverse = r.reverse ++ sep :: l.reverse := by simp
  simp [splitLast, hreverse, splitOnce_append hr]

theorem splitLast_eq_none_iff {cs : List Char} : splitLast sep cs = none ↔ sep ∉ cs := by
  rw [splitLast, Option.map_eq_none_iff, splitOnce_eq_none_iff, List.mem_reverse]

theorem splitLast_eq_some {cs l r : List Char} (h : splitLast sep cs = some (l, r)) :
    sep ∉ r ∧ cs = l ++ sep :: r := by
  obtain ⟨⟨behind, before⟩, hsplit, hlr⟩ := Option.map_eq_some_iff.mp h
  cases hlr
  obtain ⟨hnot, hcs⟩ := splitOnce_eq_some hsplit
  have hback := congrArg List.reverse hcs
  rw [List.reverse_reverse] at hback
  exact ⟨by simpa using hnot, by simpa using hback⟩

theorem splitAll_ne_nil (sep : Char) (cs : List Char) : splitAll sep cs ≠ [] := by
  induction cs with
  | nil => simp [splitAll]
  | cons c cs ih =>
    unfold splitAll
    split
    · simp
    · split <;> simp

theorem splitAll_append {l : List Char} (h : sep ∉ l) (rest : List Char) :
    splitAll sep (l ++ sep :: rest) = l :: splitAll sep rest := by
  induction l with
  | nil =>
    obtain ⟨p, ps, hp⟩ := List.exists_cons_of_ne_nil (splitAll_ne_nil sep rest)
    simp [splitAll, hp]
  | cons c cs ih =>
    have hc : c ≠ sep := fun he => h (by simp [he])
    have hcs : sep ∉ cs := fun hm => h (by simp [hm])
    simp [splitAll, ih hcs, hc]

theorem splitAll_of_not_mem {l : List Char} (h : sep ∉ l) : splitAll sep l = [l] := by
  induction l with
  | nil => rfl
  | cons c cs ih =>
    have hc : c ≠ sep := fun he => h (by simp [he])
    have hcs : sep ∉ cs := fun hm => h (by simp [hm])
    simp [splitAll, ih hcs, hc]

/-- Pieces with the separator between them. -/
theorem splitAll_intercalate {ps : List (List Char)} (h : ∀ p ∈ ps, sep ∉ p) (hne : ps ≠ []) :
    splitAll sep ([sep].intercalate ps) = ps := by
  induction ps with
  | nil => contradiction
  | cons p ps ih =>
    obtain ⟨hp, hps⟩ := List.forall_mem_cons.mp h
    cases ps with
    | nil => simpa using splitAll_of_not_mem hp
    | cons q qs =>
      rw [List.intercalate_cons_cons, List.append_assoc, List.singleton_append,
        splitAll_append hp, ih hps (by simp)]

/-- Pieces that are ended by the separator, each of them; nothing stands behind the last. -/
theorem splitAll_flatMap {ps : List (List Char)} (h : ∀ p ∈ ps, sep ∉ p) :
    splitAll sep (ps.flatMap (· ++ [sep])) = ps ++ [[]] := by
  induction ps with
  | nil => rfl
  | cons p ps ih =>
    obtain ⟨hp, hps⟩ := List.forall_mem_cons.mp h
    have ha := splitAll_append hp (ps.flatMap (· ++ [sep]))
    simpa [ih hps] using ha

theorem dropStart?_eq_some_iff {start cs rest : List Char} :
    dropStart? start cs = some rest ↔ cs = start ++ rest := by
  induction start generalizing cs with
  | nil => simp [dropStart?, eq_comm]
  | cons p ps ih =>
    cases cs with
    | nil => simp [dropStart?]
    | cons c cs =>
      unfold dropStart?
      split
      · next heq => simp [heq, ih]
      · next hne => simp [Ne.symm hne]

theorem isSome_dropStart?_iff {start cs : List Char} :
    (dropStart? start cs).isSome ↔ start <+: cs := by
  rw [Option.isSome_iff_exists]
  constructor
  · rintro ⟨rest, h⟩
    exact ⟨rest, (dropStart?_eq_some_iff.mp h).symm⟩
  · rintro ⟨rest, h⟩
    exact ⟨rest, dropStart?_eq_some_iff.mpr h.symm⟩

theorem occursIn_iff (part text : List Char) : occursIn part text ↔ part <:+: text := by
  induction text with
  | nil => simp [occursIn]
  | cons c cs ih => rw [occursIn, Bool.or_eq_true, isSome_dropStart?_iff, ih, List.infix_cons_iff]

theorem trimChars_blank_cons {c : Char} (h : isBlank c = true) (cs : List Char) :
    trimChars (c :: cs) = trimChars cs := by
  simp [trimChars, h]

theorem trimChars_of_not_blank {cs : List Char} (h : ∀ c ∈ cs, isBlank c = false) :
    trimChars cs = cs := by
  have hdrop : ∀ ds : List Char, (∀ c ∈ ds, isBlank c = false) → ds.dropWhile isBlank = ds := by
    intro ds hds
    cases ds with
    | nil => rfl
    | cons d ds => simp [hds d (by simp)]
  have hrev : ∀ c ∈ cs.reverse, isBlank c = false := fun c hc => h c (List.mem_reverse.mp hc)
  rw [trimChars, hdrop cs h, trimEnd, hdrop cs.reverse hrev, List.reverse_reverse]

theorem not_blank_of_all {cs : List Char} (h : cs.all (!isBlank ·) = true) :
    ∀ c ∈ cs, isBlank c = false := by
  simpa using h

theorem isBlank_of_isDigit {c : Char} (h : c.isDigit = true) : isBlank c = false := by
  have hn : 48 ≤ c.toNat ∧ c.toNat ≤ 57 := by
    simpa [Char.isDigit, UInt32.le_iff_toNat_le] using h
  simp [isBlank]
  omega

theorem isDigit_of_mem_natDigits {n : Nat} : ∀ c ∈ natDigits n, c.isDigit = true :=
  fun _ hc => Nat.isDigit_of_mem_toDigits (by decide) (by decide) hc

theorem not_blank_natDigits (n : Nat) : ∀ c ∈ natDigits n, isBlank c = false :=
  fun c hc => isBlank_of_isDigit (isDigit_of_mem_natDigits c hc)

theorem sameLetters_eq (a b : String) :
    sameLetters a b = (a.toList.map Char.toLower == b.toList.map Char.toLower) := by
  have hlower : ∀ s : String, s.toLower.toList = s.toList.map Char.toLower := fun _ =>
    String.toList_map
  rw [sameLetters, Bool.eq_iff_iff, beq_iff_eq, beq_iff_eq, ← String.toList_inj, hlower, hlower]

theorem readDigits_eq {cs : List Char} (h : ∀ c ∈ cs, c.isDigit = true) (n : Nat) :
    readDigits n cs = some (Nat.ofDigitChars 10 cs n) := by
  induction cs generalizing n with
  | nil => rfl
  | cons c cs ih =>
    obtain ⟨hc, hcs⟩ := List.forall_mem_cons.mp h
    have hdigit : digit? c = some (c.toNat - 48) := by
      have hrange : '0' ≤ c ∧ c ≤ '9' := by simpa [Char.isDigit, Char.le_def] using hc
      rw [digit?, if_pos hrange]
    simp only [readDigits, hdigit, Option.bind_eq_bind, Option.bind_some, ih hcs]
    rfl

theorem readNat_natDigits (n : Nat) : readNat (natDigits n) = some n := by
  have hdigits : ∀ c ∈ natDigits n, c.isDigit = true := isDigit_of_mem_natDigits
  have hread : readNat (natDigits n) = readDigits 0 (natDigits n) := by
    unfold readNat
    split
    · next hnil => exact absurd hnil Nat.toDigits_ne_nil
    · next hplus => exact absurd (hdigits '+' (by simp [hplus])) (by decide)
    · next cs hplus => exact absurd (hdigits '+' (by simp [hplus])) (by decide)
    · rfl
  rw [hread, readDigits_eq hdigits]
  exact congrArg some Nat.ofDigitChars_ten_toDigits

theorem readBelow_natDigits {n bound : Nat} (h : n < bound) :
    readBelow bound (natDigits n) = some n := by
  simp [readBelow, readNat_natDigits, h]

theorem lt_of_readBelow {bound n : Nat} {cs : List Char} (h : readBelow bound cs = some n) :
    n < bound := by
  simpa using (Option.filter_eq_some_iff.mp h).2

end VenueGateway.Text
