import Mathlib.Tactic.IntervalCases
import VenueGateway.Text.Utf8

namespace VenueGateway.Text

theorem toNat_valid (c : Char) :
    c.toNat < 0xD800 ∨ (0xDFFF < c.toNat ∧ c.toNat < 0x110000) := c.valid

theorem start_ascii {n : Nat} (h : n < 0x80) :
    Partial.start n.toUInt8 = .char (Char.ofNat n) := by
  have hn : n.toUInt8.toNat = n := by
    simp
    omega
  have hlt : n.toUInt8 < 0x80 := by
    rw [UInt8.lt_iff_toNat_lt, hn]
    exact h
  rw [Partial.start, if_pos hlt, hn]

theorem start_two {n : Nat} (hl : 2 ≤ n) (hn : n < 32) :
    Partial.start (0xC0 + n).toUInt8 = .more ⟨n, 1, 0x80, 0xBF⟩ := by
  interval_cases n <;> rfl

/-- The first tail byte excludes what two bytes can write, and the surrogates. -/
theorem start_three {n : Nat} (hn : n < 16) :
    Partial.start (0xE0 + n).toUInt8 =
      .more ⟨n, 2, if n = 0 then 0xA0 else 0x80, if n = 13 then 0x9F else 0xBF⟩ := by
  interval_cases n <;> rfl

/-- The first tail byte excludes what three bytes can write, and what lies above all characters. -/
theorem start_four {n : Nat} (hn : n < 5) :
    Partial.start (0xF0 + n).toUInt8 =
      .more ⟨n, 3, if n = 0 then 0x90 else 0x80, if n = 4 then 0x8F else 0xBF⟩ := by
  interval_cases n <;> rfl

/-- A byte that goes on with a character. -/
theorem next_tail {p : Partial} {n : Nat} (hn : n < 64) (hl : p.low.toNat ≤ 0x80 + n)
    (hh : 0x80 + n ≤ p.high.toNat) :
    p.next (0x80 + n).toUInt8 =
      if p.missing ≤ 1 then .char (Char.ofNat (p.value * 64 + n))
      else .more ⟨p.value * 64 + n, p.missing - 1, 0x80, 0xBF⟩ := by
  have hb : (0x80 + n).toUInt8.toNat = 0x80 + n := by
    simp
    omega
  -- The bounds are on the byte, and `n` is what it holds below its two marking bits.
  have hlow : ¬ (0x80 + n).toUInt8 < p.low := by
    rw [UInt8.lt_iff_toNat_lt, hb]
    omega
  have hhigh : ¬ p.high < (0x80 + n).toUInt8 := by
    rw [UInt8.lt_iff_toNat_lt, hb]
    omega
  have hmod : (0x80 + n) % 64 = n := by omega
  simp only [Partial.next, hlow, hhigh, decide_false, Bool.or_self, Bool.false_eq_true, if_false,
    hb, hmod]

theorem decodeFrom_start {acc : List Char} {b : UInt8} {p : Partial}
    (h : Partial.start b = .more p) (bs : List UInt8) :
    decodeFrom none acc (b :: bs) = decodeFrom (some p) acc bs := by
  simp [decodeFrom, h]

theorem decodeFrom_tail {acc : List Char} {value missing n : Nat} {low high : UInt8} (hn : n < 64)
    (hl : low.toNat ≤ 0x80 + n) (hh : 0x80 + n ≤ high.toNat) (bs : List UInt8) :
    decodeFrom (some ⟨value, missing + 2, low, high⟩) acc ((0x80 + n).toUInt8 :: bs) =
      decodeFrom (some ⟨value * 64 + n, missing + 1, 0x80, 0xBF⟩) acc bs := by
  have h : Partial.next ⟨value, missing + 2, low, high⟩ (0x80 + n).toUInt8 =
      .more ⟨value * 64 + n, missing + 1, 0x80, 0xBF⟩ := by
    rw [next_tail hn hl hh, if_neg (by dsimp only; omega)]
    rfl
  simp only [decodeFrom, Option.map_some, Option.getD_some, h]

/-- The last byte of a character may be any tail byte, unless it is the first one, too. -/
theorem decodeFrom_last {acc : List Char} {value n : Nat} (hn : n < 64) (bs : List UInt8) :
    decodeFrom (some ⟨value, 1, 0x80, 0xBF⟩) acc ((0x80 + n).toUInt8 :: bs) =
      decodeFrom none (Char.ofNat (value * 64 + n) :: acc) bs := by
  have h : Partial.next ⟨value, 1, 0x80, 0xBF⟩ (0x80 + n).toUInt8 =
      .char (Char.ofNat (value * 64 + n)) := next_tail hn (by simp) (by simp; omega)
  simp only [decodeFrom, Option.map_some, Option.getD_some, h]

theorem decodeFrom_encodeChar (c : Char) (acc : List Char) (bs : List UInt8) :
    decodeFrom none acc (encodeChar c ++ bs) = decodeFrom none (c :: acc) bs := by
  have hc : Char.ofNat c.toNat = c := Char.ofNat_toNat c
  have hv := toNat_valid c
  unfold encodeChar
  generalize c.toNat = n at hc hv ⊢
  -- One case for each length. The bounds on the second byte are those that keep overlong forms,
  -- surrogates and values past the last character out.
  have h64 : ∀ k : Nat, k % 64 < 64 := fun k => Nat.mod_lt k (by decide)
  by_cases h1 : n < 0x80
  · simp [h1, decodeFrom, start_ascii, hc]
  by_cases h2 : n < 0x800
  · have he : n / 64 * 64 + n % 64 = n := by omega
    simp only [h1, h2, if_false, if_true, List.cons_append, List.nil_append]
    rw [decodeFrom_start (start_two (by omega) (by omega)), decodeFrom_last (h64 _), he, hc]
  by_cases h3 : n < 0x10000
  · have he : (n / 4096 * 64 + n / 64 % 64) * 64 + n % 64 = n := by omega
    have hlow : (if n / 4096 = 0 then (0xA0 : UInt8) else 0x80).toNat ≤ 0x80 + n / 64 % 64 := by
      split <;> simp
      omega
    have hhigh : 0x80 + n / 64 % 64 ≤ (if n / 4096 = 13 then (0x9F : UInt8) else 0xBF).toNat := by
      split <;> simp <;> omega
    simp only [h1, h2, h3, if_false, if_true, List.cons_append, List.nil_append]
    rw [decodeFrom_start (start_three (by omega))]
    calc
      _ = decodeFrom (some ⟨n / 4096 * 64 + n / 64 % 64, 1, 0x80, 0xBF⟩) acc
          ((0x80 + n % 64).toUInt8 :: bs) := decodeFrom_tail (h64 _) hlow hhigh _
      _ = decodeFrom none (c :: acc) bs := by rw [decodeFrom_last (h64 _), he, hc]
  · have he : ((n / 262144 * 64 + n / 4096 % 64) * 64 + n / 64 % 64) * 64 + n % 64 = n := by omega
    have hlow : (if n / 262144 = 0 then (0x90 : UInt8) else 0x80).toNat ≤
        0x80 + n / 4096 % 64 := by
      split <;> simp
      omega
    have hhigh : 0x80 + n / 4096 % 64 ≤
        (if n / 262144 = 4 then (0x8F : UInt8) else 0xBF).toNat := by
      split <;> simp <;> omega
    simp only [h1, h2, h3, if_false, List.cons_append, List.nil_append]
    rw [decodeFrom_start (start_four (by omega))]
    calc
      _ = decodeFrom (some ⟨n / 262144 * 64 + n / 4096 % 64, 2, 0x80, 0xBF⟩) acc
          ((0x80 + n / 64 % 64).toUInt8 :: (0x80 + n % 64).toUInt8 :: bs) :=
        decodeFrom_tail (h64 _) hlow hhigh _
      _ = decodeFrom (some ⟨(n / 262144 * 64 + n / 4096 % 64) * 64 + n / 64 % 64, 1, 0x80, 0xBF⟩)
          acc ((0x80 + n % 64).toUInt8 :: bs) :=
        decodeFrom_tail (h64 _) (by simp) (by simp; omega) _
      _ = decodeFrom none (c :: acc) bs := by rw [decodeFrom_last (h64 _), he, hc]

/-- An ASCII byte is a character of its own, never a part of another one. -/
theorem toNat_of_mem_encodeChar {c : Char} {b : UInt8} (hb : b ∈ encodeChar c)
    (h : b.toNat < 0x80) : c.toNat = b.toNat := by
  have hv := toNat_valid c
  unfold encodeChar at hb
  generalize c.toNat = n at hb hv ⊢
  by_cases h1 : n < 0x80
  · simp only [h1, if_true, List.mem_singleton] at hb
    subst hb
    simp
    omega
  · -- All bytes of a longer form have their highest bit set.
    exfalso
    have hhigh : ∀ k : Nat, 0x80 ≤ k → k < 0x100 → b ≠ k.toUInt8 := by
      intro k hk hk' he
      rw [he] at h
      simp at h
      omega
    simp only [h1, if_false] at hb
    split at hb
    · simp only [List.mem_cons, List.not_mem_nil, or_false] at hb
      rcases hb with hb | hb <;> exact hhigh _ (by omega) (by omega) hb
    · split at hb
      · simp only [List.mem_cons, List.not_mem_nil, or_false] at hb
        rcases hb with hb | hb | hb <;> exact hhigh _ (by omega) (by omega) hb
      · simp only [List.mem_cons, List.not_mem_nil, or_false] at hb
        rcases hb with hb | hb | hb | hb <;> exact hhigh _ (by omega) (by omega) hb

theorem encodeChars_append (cs ds : List Char) :
    encodeChars (cs ++ ds) = encodeChars cs ++ encodeChars ds := List.flatMap_append

theorem decodeFrom_encodeChars (cs acc : List Char) (bs : List UInt8) :
    decodeFrom none acc (encodeChars cs ++ bs) = decodeFrom none (cs.reverse ++ acc) bs := by
  induction cs generalizing acc with
  | nil => rfl
  | cons c cs ih =>
    have hc := decodeFrom_encodeChar c acc (encodeChars cs ++ bs)
    rw [ih] at hc
    simpa [encodeChars] using hc

theorem decodeUtf8_utf8 (s : String) : decodeUtf8 (utf8 s) = some s := by
  have h := decodeFrom_encodeChars s.toList [] []
  rw [List.append_nil, List.append_nil] at h
  simp [decodeUtf8, utf8, h, decodeFrom]

/-- Where no byte has to be replaced, nothing is replaced. -/
theorem decodeLossyFrom_of_decodeFrom {p : Option Partial} {acc cs : List Char} {bs : List UInt8}
    (h : decodeFrom p acc bs = some cs) : decodeLossyFrom p acc bs = cs := by
  induction bs generalizing p acc with
  | nil =>
    cases p with
    | none => exact Option.some.inj h
    | some p => cases h
  | cons b bs ih =>
    simp only [decodeFrom] at h
    simp only [decodeLossyFrom]
    generalize (p.map (·.next b)).getD (Partial.start b) = step at h ⊢
    cases step with
    | char c => exact ih h
    | more q => exact ih h
    | bad => cases h

theorem decodeUtf8Lossy_utf8 (s : String) : decodeUtf8Lossy (utf8 s) = s := by
  obtain ⟨cs, hcs, rfl⟩ := Option.map_eq_some_iff.mp (decodeUtf8_utf8 s)
  rw [decodeUtf8Lossy, decodeLossyFrom_of_decodeFrom hcs]

theorem length_encodeChars_le (cs : List Char) : (encodeChars cs).length ≤ 4 * cs.length := by
  have hchar : ∀ c : Char, (encodeChar c).length ≤ 4 := by
    intro c
    simp only [encodeChar]
    split_ifs <;> simp
  induction cs with
  | nil => simp [encodeChars]
  | cons c cs ih =>
    have hc := hchar c
    have hsplit : encodeChars (c :: cs) = encodeChar c ++ encodeChars cs := rfl
    rw [hsplit, List.length_append, List.length_cons]
    omega

theorem byteLength_le (s : String) : byteLength s ≤ 4 * s.toList.length :=
  length_encodeChars_le s.toList

theorem encodeChars_ne_nil {cs : List Char} (h : cs ≠ []) : encodeChars cs ≠ [] := by
  obtain ⟨c, cs, rfl⟩ := List.exists_cons_of_ne_nil h
  have hc : encodeChar c ≠ [] := by
    simp only [encodeChar]
    repeat' split
    all_goals simp
  simp [encodeChars, hc]

theorem mem_of_mem_encodeChars {cs : List Char} {b : UInt8} (hb : b ∈ encodeChars cs)
    (h : b.toNat < 0x80) : Char.ofNat b.toNat ∈ cs := by
  obtain ⟨c, hc, hbc⟩ := List.mem_flatMap.mp hb
  rw [← toNat_of_mem_encodeChar hbc h, Char.ofNat_toNat]
  exact hc

theorem toNat_ofNat {n : Nat} (h : n < 0xD800 ∨ (0xDFFF < n ∧ n < 0x110000)) :
    (Char.ofNat n).toNat = n := by
  unfold Char.ofNat
  rw [dif_pos h]
  rfl

theorem toUInt8_of_toNat {b : UInt8} {n : Nat} (h : b.toNat = n) : n.toUInt8 = b := by
  rw [← h]
  exact UInt8.ofNat_toNat

/-- The bytes read so far of a character that is not complete, and what they come to. -/
inductive Begun : Option Partial → List UInt8 → Prop
  | nothing : Begun none []
  | two {n : Nat} : 2 ≤ n → n < 32 → Begun (some ⟨n, 1, 0x80, 0xBF⟩) [(0xC0 + n).toUInt8]
  | three {n : Nat} : n < 16 →
    Begun (some ⟨n, 2, if n = 0 then 0xA0 else 0x80, if n = 13 then 0x9F else 0xBF⟩)
      [(0xE0 + n).toUInt8]
  | threeMore {n : Nat} : 32 ≤ n → n < 1024 → (n < 864 ∨ 896 ≤ n) →
    Begun (some ⟨n, 1, 0x80, 0xBF⟩) [(0xE0 + n / 64).toUInt8, (0x80 + n % 64).toUInt8]
  | four {n : Nat} : n < 5 →
    Begun (some ⟨n, 3, if n = 0 then 0x90 else 0x80, if n = 4 then 0x8F else 0xBF⟩)
      [(0xF0 + n).toUInt8]
  | fourMore {n : Nat} : 16 ≤ n → n < 272 →
    Begun (some ⟨n, 2, 0x80, 0xBF⟩) [(0xF0 + n / 64).toUInt8, (0x80 + n % 64).toUInt8]
  | fourLast {n : Nat} : 1024 ≤ n → n < 17408 →
    Begun (some ⟨n, 1, 0x80, 0xBF⟩)
      [(0xF0 + n / 4096).toUInt8, (0x80 + n / 64 % 64).toUInt8, (0x80 + n % 64).toUInt8]

/-- What a byte may lead to, given the bytes of its character. -/
def ByteStep.Faithful (bytes : List UInt8) : ByteStep → Prop
  | .char c => encodeChar c = bytes
  | .more p => Begun (some p) bytes
  | .bad => True

theorem start_bad {b : UInt8} (hb : 0x80 ≤ b.toNat) (h : b.toNat < 0xC2 ∨ 0xF5 ≤ b.toNat) :
    Partial.start b = .bad := by
  have hascii : ¬ b < 0x80 := by
    rw [UInt8.lt_iff_toNat_lt]
    exact Nat.not_lt.mpr hb
  -- No row of the table has a byte below 0xC2 or from 0xF5 on.
  have hlead : leadByte b = none := by
    rcases h with hlow | hhigh
    · exact if_pos (UInt8.lt_iff_toNat_lt.mpr hlow)
    · have hlt : ∀ k : UInt8, k.toNat < 0xF5 → ¬ b < k := by
        intro k hk hbk
        rw [UInt8.lt_iff_toNat_lt] at hbk
        omega
      have hne : ∀ k : UInt8, k.toNat < 0xF5 → b ≠ k := by
        rintro k hk rfl
        omega
      simp [leadByte, hlt, hne]
  simp [Partial.start, hascii, hlead]

theorem start_faithful (b : UInt8) : (Partial.start b).Faithful [b] := by
  -- One case for each range of the first byte, in the order of the table.
  have hlt := b.toNat_lt
  by_cases hascii : b.toNat < 0x80
  · have hc : (Char.ofNat b.toNat).toNat = b.toNat := toNat_ofNat (by omega)
    have hs := start_ascii hascii
    rw [toUInt8_of_toNat rfl] at hs
    rw [hs]
    simp [ByteStep.Faithful, encodeChar, hc, hascii]
  by_cases hbad : b.toNat < 0xC2 ∨ 0xF5 ≤ b.toNat
  · rw [start_bad (by omega) hbad]
    trivial
  by_cases htwo : b.toNat < 0xE0
  · obtain ⟨n, hn, rfl⟩ : ∃ n, (2 ≤ n ∧ n < 32) ∧ (0xC0 + n).toUInt8 = b :=
      ⟨b.toNat - 0xC0, by omega, toUInt8_of_toNat (by omega)⟩
    rw [start_two hn.1 hn.2]
    exact .two hn.1 hn.2
  by_cases hthree : b.toNat < 0xF0
  · obtain ⟨n, hn, rfl⟩ : ∃ n, n < 16 ∧ (0xE0 + n).toUInt8 = b :=
      ⟨b.toNat - 0xE0, by omega, toUInt8_of_toNat (by omega)⟩
    rw [start_three hn]
    exact .three hn
  · obtain ⟨n, hn, rfl⟩ : ∃ n, n < 5 ∧ (0xF0 + n).toUInt8 = b :=
      ⟨b.toNat - 0xF0, by omega, toUInt8_of_toNat (by omega)⟩
    rw [start_four hn]
    exact .four hn

theorem encodeChar_two {n : Nat} (hl : 0x80 ≤ n) (hn : n < 0x800) :
    encodeChar (Char.ofNat n) = [(0xC0 + n / 64).toUInt8, (0x80 + n % 64).toUInt8] := by
  have hc : (Char.ofNat n).toNat = n := toNat_ofNat (by omega)
  simp only [encodeChar, hc, Nat.not_lt.mpr hl, hn, if_false, if_true]

theorem encodeChar_three {n : Nat} (hl : 0x800 ≤ n) (hn : n < 0x10000)
    (hv : n < 0xD800 ∨ 0xE000 ≤ n) :
    encodeChar (Char.ofNat n) =
      [(0xE0 + n / 4096).toUInt8, (0x80 + n / 64 % 64).toUInt8, (0x80 + n % 64).toUInt8] := by
  have hc : (Char.ofNat n).toNat = n := toNat_ofNat (by omega)
  have hone : ¬ n < 0x80 := by omega
  simp only [encodeChar, hc, hone, Nat.not_lt.mpr hl, hn, if_false, if_true]

theorem encodeChar_four {n : Nat} (hl : 0x10000 ≤ n) (hn : n < 0x110000) :
    encodeChar (Char.ofNat n) =
      [(0xF0 + n / 262144).toUInt8, (0x80 + n / 4096 % 64).toUInt8,
        (0x80 + n / 64 % 64).toUInt8, (0x80 + n % 64).toUInt8] := by
  have hc : (Char.ofNat n).toNat = n := toNat_ofNat (by omega)
  have hone : ¬ n < 0x80 := by omega
  have htwo : ¬ n < 0x800 := by omega
  simp only [encodeChar, hc, hone, htwo, Nat.not_lt.mpr hl, if_false]

/-- A byte that goes on with a character is a tail byte; any other is bad. -/
theorem next_faithful {p : Partial} {bytes : List UInt8} (hlow : 0x80 ≤ p.low.toNat)
    (hhigh : p.high.toNat ≤ 0xBF)
    (h : ∀ k < 64, p.low.toNat ≤ 0x80 + k → 0x80 + k ≤ p.high.toNat →
      (if p.missing ≤ 1 then ByteStep.char (Char.ofNat (p.value * 64 + k))
        else .more ⟨p.value * 64 + k, p.missing - 1, 0x80, 0xBF⟩).Faithful
          (bytes ++ [(0x80 + k).toUInt8])) (b : UInt8) :
    (p.next b).Faithful (bytes ++ [b]) := by
  -- A byte within the bounds is a continuation with six bits of its own; any other one ends the
  -- decoding.
  by_cases hfits : p.low.toNat ≤ b.toNat ∧ b.toNat ≤ p.high.toNat
  · obtain ⟨k, hk, rfl⟩ : ∃ k, k < 64 ∧ (0x80 + k).toUInt8 = b :=
      ⟨b.toNat - 0x80, by omega, toUInt8_of_toNat (by omega)⟩
    have hb : (0x80 + k).toUInt8.toNat = 0x80 + k := by
      simp
      omega
    rw [hb] at hfits
    rw [next_tail hk hfits.1 hfits.2]
    exact h k hk hfits.1 hfits.2
  · have hbad : b < p.low ∨ p.high < b := by
      rw [UInt8.lt_iff_toNat_lt, UInt8.lt_iff_toNat_lt]
      omega
    have hnext : p.next b = .bad := by simp [Partial.next, hbad]
    rw [hnext]
    trivial

theorem Begun.next {p : Partial} {bytes : List UInt8} (h : Begun (some p) bytes) (b : UInt8) :
    (p.next b).Faithful (bytes ++ [b]) := by
  have hdiv : ∀ {n k : Nat}, k < 64 → (n * 64 + k) / 64 = n := by omega
  have hmod : ∀ {n k : Nat}, k < 64 → (n * 64 + k) % 64 = k := by omega
  cases h with
  | @two n hl hn =>
    refine next_faithful (Nat.le_refl _) (Nat.le_refl _) (fun k hk _ _ => ?_) b
    have he := encodeChar_two (n := n * 64 + k) (by omega) (by omega)
    rw [hdiv hk, hmod hk] at he
    exact he
  | @three n hn =>
    refine next_faithful (by dsimp only; split <;> simp) (by dsimp only; split <;> simp)
      (fun k hk hlow hhigh => ?_) b
    -- What two bytes can write, and the surrogates, are excluded by the first tail byte.
    have hzero : n = 0 → 32 ≤ k := by
      rintro rfl
      exact Nat.le_of_add_le_add_left hlow
    have hsurrogate : n = 13 → k < 32 := by
      rintro rfl
      exact Nat.lt_succ_of_le (Nat.le_of_add_le_add_left hhigh)
    have hbegun := Begun.threeMore (n := n * 64 + k) (by omega) (by omega) (by omega)
    rw [hdiv hk, hmod hk] at hbegun
    exact hbegun
  | @threeMore n hl hn hv =>
    refine next_faithful (Nat.le_refl _) (Nat.le_refl _) (fun k hk _ _ => ?_) b
    have he := encodeChar_three (n := n * 64 + k) (by omega) (by omega) (by omega)
    have hlead : (n * 64 + k) / 4096 = n / 64 := by omega
    rw [hlead, hdiv hk, hmod hk] at he
    exact he
  | @four n hn =>
    refine next_faithful (by dsimp only; split <;> simp) (by dsimp only; split <;> simp)
      (fun k hk hlow hhigh => ?_) b
    have hzero : n = 0 → 16 ≤ k := by
      rintro rfl
      exact Nat.le_of_add_le_add_left hlow
    have hlast : n = 4 → k < 16 := by
      rintro rfl
      exact Nat.lt_succ_of_le (Nat.le_of_add_le_add_left hhigh)
    have hbegun := Begun.fourMore (n := n * 64 + k) (by omega) (by omega)
    rw [hdiv hk, hmod hk] at hbegun
    exact hbegun
  | @fourMore n hl hn =>
    refine next_faithful (Nat.le_refl _) (Nat.le_refl _) (fun k hk _ _ => ?_) b
    have hbegun := Begun.fourLast (n := n * 64 + k) (by omega) (by omega)
    have hlead : (n * 64 + k) / 4096 = n / 64 := by omega
    rw [hlead, hdiv hk, hmod hk] at hbegun
    exact hbegun
  | @fourLast n hl hn =>
    refine next_faithful (Nat.le_refl _) (Nat.le_refl _) (fun k hk _ _ => ?_) b
    have he := encodeChar_four (n := n * 64 + k) (by omega) (by omega)
    have hlead : (n * 64 + k) / 262144 = n / 4096 := by omega
    have hsecond : (n * 64 + k) / 4096 % 64 = n / 64 % 64 := by omega
    rw [hlead, hsecond, hdiv hk, hmod hk] at he
    exact he

theorem encodeChars_of_decodeFrom {p : Option Partial} {begun : List UInt8} (hp : Begun p begun)
    {acc cs : List Char} {bs : List UInt8} (h : decodeFrom p acc bs = some cs) :
    ∃ ds, cs = acc.reverse ++ ds ∧ encodeChars ds = begun ++ bs := by
  -- Induction along the bytes. The ones that the open character has taken are in `begun`, and its
  -- completion makes them the bytes of that character.
  induction bs generalizing p begun acc with
  | nil =>
    cases hp with
    | nothing => exact ⟨[], by simpa [decodeFrom] using h.symm, rfl⟩
    | two | three | threeMore | four | fourMore | fourLast => cases h
  | cons b bs ih =>
    have hstep : ((p.map (·.next b)).getD (Partial.start b)).Faithful (begun ++ [b]) := by
      cases p with
      | none =>
        cases hp
        exact start_faithful b
      | some p => exact hp.next b
    have happend : begun ++ b :: bs = begun ++ [b] ++ bs := List.append_cons begun b bs
    simp only [decodeFrom] at h
    generalize (p.map (·.next b)).getD (Partial.start b) = step at h hstep
    cases step with
    | char c =>
      obtain ⟨ds, hcs, hds⟩ := ih .nothing h
      refine ⟨c :: ds, by simpa using hcs, ?_⟩
      have hc : encodeChar c = begun ++ [b] := hstep
      rw [happend, ← hc, ← List.nil_append bs, ← hds]
      rfl
    | more q =>
      obtain ⟨ds, hcs, hds⟩ := ih hstep h
      exact ⟨ds, hcs, by rw [hds, happend]⟩
    | bad => cases h

/-- A text that is read is the one that these very bytes write. -/
theorem utf8_of_decodeUtf8 {bs : List UInt8} {s : String} (h : decodeUtf8 bs = some s) :
    utf8 s = bs := by
  obtain ⟨cs, hcs, rfl⟩ := Option.map_eq_some_iff.mp h
  obtain ⟨ds, rfl, hds⟩ := encodeChars_of_decodeFrom .nothing hcs
  rw [utf8, String.toList_ofList]
  exact hds

end VenueGateway.Text
