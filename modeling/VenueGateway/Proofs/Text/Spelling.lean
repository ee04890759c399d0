import VenueGateway.Proofs.Text.Pieces

namespace VenueGateway.Text

/-- A number's digits, behind zeros and perhaps a plus sign. -/
def spelling (plus : Bool) (zeros n : Nat) : List Char :=
  (if plus then ['+'] else []) ++ (List.replicate zeros '0' ++ natDigits n)

theorem isDigit_of_digit? {c : Char} {d : Nat} (h : digit? c = some d) : c.isDigit = true := by
  unfold digit? at h
  split at h
  · next hrange => simpa [Char.isDigit, Char.le_def] using hrange
  · cases h

theorem readDigits_eq_some_iff {cs : List Char} {s n : Nat} :
    readDigits s cs = some n ↔ (∀ c ∈ cs, c.isDigit = true) ∧ Nat.ofDigitChars 10 cs s = n := by
  constructor
  · intro h
    have hdigits : ∀ c ∈ cs, c.isDigit = true := by
      induction cs generalizing s with
      | nil => simp
      | cons c cs ih =>
        obtain ⟨d, hd, hrest⟩ := Option.bind_eq_some_iff.mp h
        exact List.forall_mem_cons.mpr ⟨isDigit_of_digit? hd, ih hrest⟩
    rw [readDigits_eq hdigits] at h
    exact ⟨hdigits, Option.some.inj h⟩
  · rintro ⟨hdigits, rfl⟩
    exact readDigits_eq hdigits s

/-- A digit is written as itself. -/
theorem natDigits_of_isDigit {c : Char} (h : c.isDigit = true) :
    c.toNat - 48 < 10 ∧ natDigits (c.toNat - 48) = [c] := by
  have hrange : 48 ≤ c.toNat ∧ c.toNat ≤ 57 := by
    simpa [Char.isDigit, UInt32.le_iff_toNat_le] using h
  have hsmall : c.toNat - 48 < 10 := by omega
  refine ⟨hsmall, ?_⟩
  rw [natDigits, Nat.toDigits_of_lt_base hsmall]
  congr 1
  apply Char.toNat_inj.mp
  rw [Nat.toNat_digitChar_of_lt_ten hsmall]
  omega

/-- Digits behind a number that is not zero are the last digits of what they make of it. -/
theorem natDigits_ofDigitChars {cs : List Char} {s : Nat} (h : ∀ c ∈ cs, c.isDigit = true)
    (hs : 0 < s) : natDigits (Nat.ofDigitChars 10 cs s) = natDigits s ++ cs := by
  induction cs generalizing s with
  | nil => simp
  | cons c cs ih =>
    obtain ⟨hc, hcs⟩ := List.forall_mem_cons.mp h
    obtain ⟨hsmall, hdigit⟩ := natDigits_of_isDigit hc
    have hstep : natDigits (10 * s + (c.toNat - 48)) = natDigits s ++ [c] := by
      rw [← hdigit]
      exact (Nat.toDigits_append_toDigits (by decide) hs hsmall).symm
    calc natDigits (Nat.ofDigitChars 10 (c :: cs) s)
      _ = natDigits (Nat.ofDigitChars 10 cs (10 * s + (c.toNat - 48))) :=
        congrArg natDigits Nat.ofDigitChars_cons
      _ = natDigits (10 * s + (c.toNat - 48)) ++ cs := ih hcs (by omega)
      _ = natDigits s ++ [c] ++ cs := congrArg (· ++ cs) hstep
      _ = natDigits s ++ c :: cs := List.append_cons _ _ _ |>.symm

theorem exists_zeros_of_isDigit {ds : List Char} (h : ∀ c ∈ ds, c.isDigit = true) (hne : ds ≠ []) :
    ∃ zeros, ds = List.replicate zeros '0' ++ natDigits (Nat.ofDigitChars 10 ds 0) := by
  induction ds with
  | nil => exact absurd rfl hne
  | cons c cs ih =>
    obtain ⟨hc, hcs⟩ := List.forall_mem_cons.mp h
    -- A zero in front adds nothing to the value; from the first other digit on the text is how the
    -- value is written.
    by_cases hzero : c = '0'
    · subst hzero
      have hvalue : Nat.ofDigitChars 10 ('0' :: cs) 0 = Nat.ofDigitChars 10 cs 0 := by
        simp [Nat.ofDigitChars_cons]
      by_cases hlast : cs = []
      · subst hlast
        exact ⟨0, rfl⟩
      · obtain ⟨zeros, hzeros⟩ := ih hcs hlast
        refine ⟨zeros + 1, ?_⟩
        rw [hvalue, List.replicate_succ, List.cons_append, ← hzeros]
    · obtain ⟨-, hdigit⟩ := natDigits_of_isDigit hc
      refine ⟨0, ?_⟩
      have hpos : 0 < c.toNat - 48 := by
        apply Nat.pos_of_ne_zero
        intro hval
        rw [hval] at hdigit
        exact hzero (List.singleton_inj.mp hdigit).symm
      have hall := natDigits_ofDigitChars hcs hpos
      rw [hdigit] at hall
      have hvalue : Nat.ofDigitChars 10 (c :: cs) 0 = Nat.ofDigitChars 10 cs (c.toNat - 48) := by
        simp [Nat.ofDigitChars_cons]
      rw [hvalue, hall]
      rfl

theorem readDigits_zeros (zeros n : Nat) :
    readDigits 0 (List.replicate zeros '0' ++ natDigits n) = some n := by
  rw [readDigits_eq_some_iff]
  constructor
  · intro c hc
    rcases List.mem_append.mp hc with hzero | hdigit
    · rw [List.eq_of_mem_replicate hzero]
      rfl
    · exact isDigit_of_mem_natDigits c hdigit
  · rw [Nat.ofDigitChars_append, Nat.ofDigitChars_replicate_zero, Nat.mul_zero]
    exact Nat.ofDigitChars_ten_toDigits

theorem readNat_eq_some_iff {cs : List Char} {n : Nat} :
    readNat cs = some n ↔ ∃ plus zeros, cs = spelling plus zeros n := by
  constructor
  · intro h
    -- An empty text and a sign alone are not read; in the two other cases digits follow.
    unfold readNat at h
    split at h
    · cases h
    · cases h
    · next ds hne =>
      obtain ⟨hdigits, rfl⟩ := readDigits_eq_some_iff.mp h
      obtain ⟨zeros, hzeros⟩ := exists_zeros_of_isDigit hdigits (by simpa using hne)
      exact ⟨true, zeros, congrArg ('+' :: ·) hzeros⟩
    · next hne _ _ =>
      obtain ⟨hdigits, rfl⟩ := readDigits_eq_some_iff.mp h
      obtain ⟨zeros, hzeros⟩ := exists_zeros_of_isDigit hdigits (by simpa using hne)
      exact ⟨false, zeros, hzeros⟩
  · rintro ⟨plus, zeros, rfl⟩
    have hread := readDigits_zeros zeros n
    have hne : List.replicate zeros '0' ++ natDigits n ≠ [] := by
      simp [natDigits, Nat.toDigits_ne_nil]
    obtain ⟨c, cs, hcs⟩ := List.exists_cons_of_ne_nil hne
    have hc : c.isDigit = true := (readDigits_eq_some_iff.mp hread).1 c (by simp [hcs])
    unfold spelling
    rw [hcs] at hread ⊢
    cases plus with
    | true => exact hread
    | false =>
      have hplus : c ≠ '+' := by
        rintro rfl
        cases hc
      change readNat (c :: cs) = some n
      rw [← hread]
      unfold readNat
      split
      · next heq => cases heq
      · next heq => exact absurd (List.cons.inj heq).1 hplus
      · next heq => exact absurd (List.cons.inj heq).1 hplus
      · rfl

theorem spelling_eq_natDigits_iff {plus : Bool} {zeros n : Nat} :
    spelling plus zeros n = natDigits n ↔ plus = false ∧ zeros = 0 := by
  constructor
  · intro h
    have hlength := congrArg List.length h
    cases plus with
    | true => simp [spelling] at hlength; omega
    | false => simpa [spelling] using hlength
  · rintro ⟨rfl, rfl⟩
    rfl

end VenueGateway.Text
