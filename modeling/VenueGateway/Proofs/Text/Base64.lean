import Mathlib.Tactic.IntervalCases
import VenueGateway.Text.Base64
import VenueGateway.Text.Blank

namespace VenueGateway.Text

theorem not_blank_base64Char {n : Nat} (h : n < 64) : isBlank (base64Char n) = false := by
  interval_cases n <;> decide

theorem not_blank_base64Chars (bs : List UInt8) : ∀ c ∈ base64Chars bs, isBlank c = false := by
  have hlt : ∀ b : UInt8, b.toNat < 256 := fun b => b.toNat_lt
  have hpad : isBlank '=' = false := by decide
  -- Three bytes at a time, with one or two left at the end and padding behind them.
  fun_induction base64Chars bs with
  | case1 a b c rest n ih =>
    have ha := hlt a
    have hb := hlt b
    have hc := hlt c
    simp only [List.forall_mem_cons]
    exact ⟨not_blank_base64Char (by omega), not_blank_base64Char (by omega),
      not_blank_base64Char (by omega), not_blank_base64Char (by omega), ih⟩
  | case2 a b n =>
    have ha := hlt a
    have hb := hlt b
    simp only [List.forall_mem_cons]
    exact ⟨not_blank_base64Char (by omega), not_blank_base64Char (by omega),
      not_blank_base64Char (by omega), hpad, by simp⟩
  | case3 a =>
    have ha := hlt a
    simp only [List.forall_mem_cons]
    exact ⟨not_blank_base64Char (by omega), not_blank_base64Char (by omega), hpad, hpad, by simp⟩
  | case4 => simp

theorem length_base64Chars (bs : List UInt8) :
    (base64Chars bs).length = (bs.length + 2) / 3 * 4 := by
  fun_induction base64Chars bs with
  | case1 a b c rest n ih =>
    simp only [List.length_cons, ih]
    omega
  | case2 a b n => simp
  | case3 a => simp
  | case4 => rfl

end VenueGateway.Text
