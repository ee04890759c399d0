import Mathlib.Algebra.Order.Field.Basic
import Mathlib.Algebra.Order.Field.Rat
import Mathlib.Algebra.Order.Ring.Abs
import Mathlib.Algebra.Ring.Int.Parity
import Mathlib.Data.List.DropRight
import Mathlib.Tactic.Linarith
import Mathlib.Tactic.Positivity
import Mathlib.Tactic.Ring
import VenueGateway.Decimal.Fixed
import VenueGateway.Proofs.Text.Pieces

namespace VenueGateway.Decimal

/-- Of the multiples of the last place the nearest one; of two as near as each other the even one. -/
def IsRounded (places : Nat) (v w : Rat) : Prop :=
  ∃ k : Int, w = k / 10 ^ places ∧ |v * 10 ^ places - k| ≤ 1 / 2 ∧
    (|v * 10 ^ places - k| = 1 / 2 → Even k)

theorem roundDiv_spec (num : Nat) {den : Nat} (hden : 0 < den) :
    |(num : Rat) / den - roundDiv num den| ≤ 1 / 2 ∧
      (|(num : Rat) / den - roundDiv num den| = 1 / 2 → Even (roundDiv num den)) := by
  have hpos : (0 : Rat) < den := by exact_mod_cast hden
  have hsplit : (num : Rat) / den = (num / den : Nat) + ((num % den : Nat) : Rat) / den := by
    conv_lhs => rw [← Nat.div_add_mod num den]
    push_cast
    rw [add_div, mul_div_cancel_left₀ _ hpos.ne']
  have hbelow : ((num % den : Nat) : Rat) / den < 1 := by
    rw [div_lt_one hpos]
    exact_mod_cast Nat.mod_lt num hden
  have habove : (0 : Rat) ≤ ((num % den : Nat) : Rat) / den := by positivity
  rw [hsplit]
  -- What is left over is less than a half, more, or just that.
  rcases lt_trichotomy (2 * (num % den)) den with hless | hhalf | hmore
  · have hround : roundDiv num den = num / den := by simp [roundDiv, hless]
    have hleft : ((num % den : Nat) : Rat) / den < 1 / 2 := by
      rw [div_lt_iff₀ hpos]
      have : (2 : Rat) * (num % den : Nat) < den := by exact_mod_cast hless
      linarith
    rw [hround, add_sub_cancel_left, abs_of_nonneg habove]
    exact ⟨hleft.le, fun heq => absurd heq hleft.ne⟩
  · have hleft : ((num % den : Nat) : Rat) / den = 1 / 2 := by
      rw [div_eq_iff hpos.ne']
      have : (2 : Rat) * (num % den : Nat) = den := by exact_mod_cast hhalf
      linarith
    have hround : roundDiv num den =
        if num / den % 2 = 0 then num / den else num / den + 1 := by
      simp [roundDiv, hhalf]
    rw [hleft, hround]
    split
    · next heven =>
      refine ⟨?_, fun _ => Nat.even_iff.mpr heven⟩
      rw [add_sub_cancel_left, abs_of_pos (by norm_num)]
    · next hodd =>
      refine ⟨?_, fun _ => Nat.even_iff.mpr (by omega)⟩
      rw [abs_le]
      push_cast
      constructor <;> linarith
  · have hround : roundDiv num den = num / den + 1 := by
      simp [roundDiv, hmore, Nat.not_lt.mpr hmore.le]
    have hleft : 1 / 2 < ((num % den : Nat) : Rat) / den := by
      rw [lt_div_iff₀ hpos]
      have : (den : Rat) < 2 * (num % den : Nat) := by exact_mod_cast hmore
      linarith
    have hnear : |((num / den : Nat) : Rat) + ((num % den : Nat) : Rat) / den -
        (roundDiv num den : Nat)| < 1 / 2 := by
      rw [hround, abs_lt]
      push_cast
      constructor <;> linarith
    exact ⟨hnear.le, fun heq => absurd heq hnear.ne⟩

/-- Half of the last place and less comes to nothing. -/
theorem IsRounded.pos_iff {places : Nat} {v w : Rat} (h : IsRounded places v w) :
    0 < w ↔ 1 / (2 * 10 ^ places) < v := by
  obtain ⟨k, rfl, hnear, heven⟩ := h
  have hscale : (0 : Rat) < 10 ^ places := by positivity
  have hbounds := abs_le.mp hnear
  rw [div_lt_iff₀ (by positivity), div_pos_iff_of_pos_right hscale, Int.cast_pos]
  constructor
  · intro hk
    have hone : (1 : Rat) ≤ k := by exact_mod_cast hk
    rcases lt_or_eq_of_le (show 1 / 2 ≤ v * 10 ^ places by linarith) with hlt | heq
    · linarith
    · -- Half of the last place is as near to nothing, which is even.
      exfalso
      have hk1 : k = 1 := by
        have : (k : Rat) ≤ 1 := by linarith
        have : k ≤ 1 := by exact_mod_cast this
        omega
      subst hk1
      have hodd : Even (1 : Int) := heven (by rw [← heq]; norm_num [abs_of_neg])
      exact absurd hodd (by decide)
  · intro hv
    have : (0 : Rat) < k := by linarith
    exact_mod_cast this

/-- A whole number and the places behind its point; there is no zero at their end. -/
structure Numeral where
  whole : Nat
  places : List Char
  isDigit : ∀ c ∈ places, c.isDigit = true
  trimmed : places.getLast? ≠ some '0'

namespace Numeral

/-- Without places there is no point. -/
def chars (n : Numeral) : List Char :=
  Text.natDigits n.whole ++ if n.places = [] then [] else '.' :: n.places

def text (n : Numeral) : String := String.ofList n.chars

def value (n : Numeral) : Rat :=
  n.whole + (Nat.ofDigitChars 10 n.places 0 : Nat) / 10 ^ n.places.length

theorem ne_point_of_isDigit {c : Char} (h : c.isDigit = true) : (c != '.') = true := by
  rw [bne_iff_ne]
  rintro rfl
  cases h

theorem takeWhile_chars (n : Numeral) :
    n.chars.takeWhile (· != '.') = Text.natDigits n.whole ∧
      n.chars.dropWhile (· != '.') = if n.places = [] then [] else '.' :: n.places := by
  have hwhole : ∀ c ∈ Text.natDigits n.whole, (c != '.') = true :=
    fun c hc => ne_point_of_isDigit (Text.isDigit_of_mem_natDigits c hc)
  rw [chars, List.takeWhile_append_of_pos hwhole, List.dropWhile_append_of_pos hwhole]
  split <;> simp

/-- A text is the numeral of one number only. -/
theorem value_eq_of_text_eq {n n' : Numeral} (h : n.text = n'.text) : n.value = n'.value := by
  have hchars : n.chars = n'.chars := String.ofList_injective h
  obtain ⟨htake, hdrop⟩ := n.takeWhile_chars
  obtain ⟨htake', hdrop'⟩ := n'.takeWhile_chars
  -- The digits before the point give the whole part back, and the text behind it is the places
  -- themselves.
  have hwhole : n.whole = n'.whole := by
    have hdigits : Text.natDigits n.whole = Text.natDigits n'.whole := by
      rw [← htake, hchars, htake']
    calc n.whole
      _ = Nat.ofDigitChars 10 (Text.natDigits n.whole) 0 := Nat.ofDigitChars_ten_toDigits.symm
      _ = n'.whole := by rw [hdigits]; exact Nat.ofDigitChars_ten_toDigits
  have hplaces : n.places = n'.places := by
    rw [hchars, hdrop'] at hdrop
    split at hdrop
    · next hnil =>
      split at hdrop
      · next hnil' => rw [hnil, hnil']
      · cases hdrop
    · next hnil =>
      split at hdrop
      · cases hdrop
      · exact (List.cons.inj hdrop).2.symm
  rw [value, value, hwhole, hplaces]

end Numeral

theorem exists_zeros_behind (cs : List Char) :
    ∃ ds zeros, cs = ds ++ List.replicate zeros '0' ∧ ds.getLast? ≠ some '0' := by
  induction cs using List.reverseRecOn with
  | nil => exact ⟨[], 0, rfl, by simp⟩
  | append_singleton cs c ih =>
    by_cases hzero : c = '0'
    · obtain ⟨ds, zeros, rfl, hlast⟩ := ih
      refine ⟨ds, zeros + 1, ?_, hlast⟩
      rw [hzero, List.replicate_succ', List.append_assoc]
    · exact ⟨cs ++ [c], 0, by simp, by simpa using hzero⟩

theorem trimZeros_eq (cs : List Char) :
    trimZeros cs = (cs.rdropWhile (· == '0')).rdropWhile (· == '.') := by
  simp only [trimZeros, List.rdropWhile, List.reverse_reverse]

theorem rdropWhile_of_getLast? {cs : List Char} {c : Char} (h : cs.getLast? ≠ some c) :
    cs.rdropWhile (· == c) = cs := by
  rw [List.rdropWhile_eq_self_iff]
  intro hne heq
  rw [List.getLast?_eq_getLast_of_ne_nil hne, beq_iff_eq.mp heq] at h
  exact h rfl

theorem rdropWhile_append_replicate (cs : List Char) (c : Char) (n : Nat) :
    (cs ++ List.replicate n c).rdropWhile (· == c) = cs.rdropWhile (· == c) := by
  induction n with
  | zero => simp
  | succ n ih =>
    rw [List.replicate_succ', ← List.append_assoc, List.rdropWhile_concat_pos _ _ _ (by simp), ih]

theorem trimZeros_append {whole ds : List Char} (zeros : Nat) (hwhole : whole.getLast? ≠ some '.')
    (hpoint : ds.getLast? ≠ some '.') (hzero : ds.getLast? ≠ some '0') :
    trimZeros (whole ++ '.' :: (ds ++ List.replicate zeros '0')) =
      whole ++ if ds = [] then [] else '.' :: ds := by
  have hassoc : whole ++ '.' :: (ds ++ List.replicate zeros '0') =
      (whole ++ '.' :: ds) ++ List.replicate zeros '0' := by
    simp only [List.append_assoc, List.cons_append]
  rw [trimZeros_eq, hassoc, rdropWhile_append_replicate]
  by_cases hnil : ds = []
  · subst hnil
    have hkept : (whole ++ ['.']).rdropWhile (· == '0') = whole ++ ['.'] :=
      rdropWhile_of_getLast? (by simp)
    rw [hkept, List.rdropWhile_concat_pos _ _ _ (by simp), rdropWhile_of_getLast? hwhole, if_pos rfl,
      List.append_nil]
  · -- The last place is the last character of the whole text.
    have hlast : (whole ++ '.' :: ds).getLast? = ds.getLast? := by
      rw [List.getLast?_append_of_ne_nil _ (List.cons_ne_nil _ _), List.getLast?_cons_of_ne_nil hnil]
    rw [← hlast] at hzero hpoint
    rw [rdropWhile_of_getLast? hzero, rdropWhile_of_getLast? hpoint, if_neg hnil]

/-- Digits in front of which zeros fill up the places. -/
def padded (places m : Nat) : List Char :=
  List.replicate (places - (Text.natDigits m).length) '0' ++ Text.natDigits m

section Padded
variable {places m : Nat}

theorem length_padded (hplaces : 0 < places) (hm : m < 10 ^ places) :
    (padded places m).length = places := by
  have hle : (Text.natDigits m).length ≤ places :=
    (Nat.length_toDigits_le_iff (by decide) hplaces).mpr hm
  simp only [padded, List.length_append, List.length_replicate]
  omega

theorem isDigit_of_mem_padded : ∀ c ∈ padded places m, c.isDigit = true := by
  intro c hc
  rcases List.mem_append.mp hc with hzero | hdigit
  · rw [List.eq_of_mem_replicate hzero]
    rfl
  · exact Text.isDigit_of_mem_natDigits c hdigit

theorem ofDigitChars_padded : Nat.ofDigitChars 10 (padded places m) 0 = m := by
  rw [padded, Nat.ofDigitChars_append, Nat.ofDigitChars_replicate_zero, Nat.mul_zero]
  exact Nat.ofDigitChars_ten_toDigits

end Padded

theorem getLast?_ne_of_isDigit {cs : List Char} {c : Char} (h : ∀ c ∈ cs, c.isDigit = true)
    (hc : c.isDigit = false) : cs.getLast? ≠ some c := by
  intro hlast
  rw [h c (List.mem_of_getLast? hlast)] at hc
  cases hc

/-- What is left of a fixed number of places is the numeral of the same number. -/
theorem exists_numeral {places : Nat} (hplaces : 0 < places) (k : Nat) :
    ∃ n : Numeral, n.value = k / 10 ^ places ∧
      trimZeros (Text.natDigits (k / 10 ^ places) ++ '.' :: padded places (k % 10 ^ places)) =
        n.chars := by
  have hm : k % 10 ^ places < 10 ^ places := Nat.mod_lt k (by positivity)
  have hlength := length_padded hplaces hm
  have hvalue : Nat.ofDigitChars 10 (padded places (k % 10 ^ places)) 0 = k % 10 ^ places :=
    ofDigitChars_padded
  have hdigits : ∀ c ∈ padded places (k % 10 ^ places), c.isDigit = true := isDigit_of_mem_padded
  -- The zeros at the end weigh nothing: without them the places are fewer and the value is the
  -- same.
  obtain ⟨ds, zeros, hds, htrimmed⟩ := exists_zeros_behind (padded places (k % 10 ^ places))
  rw [hds] at hlength hvalue hdigits ⊢
  have hds : ∀ c ∈ ds, c.isDigit = true := fun c hc => hdigits c (List.mem_append_left _ hc)
  refine ⟨⟨k / 10 ^ places, ds, hds, htrimmed⟩, ?_, ?_⟩
  · rw [Nat.ofDigitChars_append, Nat.ofDigitChars_replicate_zero] at hvalue
    rw [List.length_append, List.length_replicate] at hlength
    have hplace : ((Nat.ofDigitChars 10 ds 0 : Nat) : Rat) / 10 ^ ds.length =
        (k % 10 ^ places : Nat) / 10 ^ places := by
      rw [div_eq_div_iff (by positivity) (by positivity), ← hvalue, ← hlength, pow_add]
      push_cast
      ring
    have hsplit : (k : Rat) = (k / 10 ^ places : Nat) * 10 ^ places + (k % 10 ^ places : Nat) := by
      conv_lhs => rw [← Nat.div_add_mod k (10 ^ places)]
      push_cast
      ring
    simp only [Numeral.value]
    rw [hplace, eq_div_iff (by positivity), add_mul, div_mul_cancel₀ _ (by positivity), ← hsplit]
  · exact trimZeros_append zeros (getLast?_ne_of_isDigit Text.isDigit_of_mem_natDigits rfl)
      (getLast?_ne_of_isDigit hds rfl) htrimmed

variable {places : Nat} {x : Float} {b : Binary}

/-- The number, where it has no sign. -/
theorem Binary.value_of_nonneg (hsign : b.negative = false) :
    b.value = (b.ratio.1 : Rat) / b.ratio.2 := by
  simp only [Binary.value, hsign, Bool.false_eq_true, if_false]

theorem Binary.value_pos (hsign : b.negative = false) (hmantissa : 0 < b.mantissa) :
    0 < b.value := by
  rw [Binary.value_of_nonneg hsign]
  have hnum : 0 < b.ratio.1 := Nat.mul_pos hmantissa (Nat.pow_pos (by decide))
  have hden : 0 < b.ratio.2 := Nat.pow_pos (by decide)
  positivity

/-- A text is the numeral of a double, rounded. -/
structure Tells (places : Nat) (x : Float) (text : String) (b : Binary) (n : Numeral) : Prop where
  exact : Binary.ofFloat? x = some b
  spelt : text = n.text
  rounded : IsRounded places b.value n.value

theorem exists_tells (hplaces : 0 < places) (hx : Binary.ofFloat? x = some b)
    (hsign : b.negative = false) : ∃ n, Tells places x (trimmedText places x) b n := by
  have hden : 0 < b.ratio.2 := Nat.pow_pos (by decide)
  let k := roundDiv (b.ratio.1 * 10 ^ places) b.ratio.2
  obtain ⟨n, hvalue, hchars⟩ := exists_numeral hplaces k
  have htext : trimmedText places x = n.text := by
    simp only [trimmedText, hx, hsign, Bool.false_eq_true, if_false, List.nil_append]
    exact congrArg String.ofList hchars
  -- Rounding is done on the whole numbers of the ratio; dividing both sides by the scale gives it
  -- for the value.
  have hround : IsRounded places b.value n.value := by
    obtain ⟨hnear, heven⟩ := roundDiv_spec (b.ratio.1 * 10 ^ places) hden
    have hscaled : b.value * 10 ^ places = (b.ratio.1 * 10 ^ places : Nat) / b.ratio.2 := by
      rw [Binary.value_of_nonneg hsign]
      push_cast
      ring
    refine ⟨k, hvalue, ?_, ?_⟩
    · rw [hscaled]
      exact_mod_cast hnear
    · rw [hscaled]
      exact_mod_cast heven
  exact ⟨n, hx, htext, hround⟩

end VenueGateway.Decimal
