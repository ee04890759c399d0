import VenueGateway.Decimal.Binary

namespace VenueGateway.Decimal

open Float.Model

theorem compare_swap (a b : UnpackedFloat) : b.compare a = (a.compare b).map Ordering.swap := by
  cases a with
  | notANumber => cases b <;> rfl
  | infinity s =>
    cases b with
    | notANumber => cases s <;> rfl
    | infinity t => cases s <;> cases t <;> rfl
    | zero _ => cases s <;> rfl
    | finite t _ _ _ => cases s <;> cases t <;> rfl
  | zero s =>
    cases b with
    | notANumber => rfl
    | infinity t => cases t <;> rfl
    | zero _ => rfl
    | finite t _ _ _ => cases t <;> rfl
  | finite s m e _ =>
    cases b with
    | notANumber => cases s <;> rfl
    | infinity t => cases s <;> cases t <;> rfl
    | zero _ => cases s <;> rfl
    | finite t n k _ =>
      -- Two finite numbers of one sign compare by exponent and then by mantissa; below zero the
      -- result is turned round.
      have hsize : (compare k e).then (compare n m) =
          ((compare e k).then (compare m n)).swap := by
        rw [Ordering.swap_then, ← Std.OrientedCmp.eq_swap, ← Std.OrientedCmp.eq_swap]
      cases s with
      | negative =>
        cases t with
        | negative => exact congrArg (fun o => some (Ordering.swap o)) hsize
        | positive => rfl
      | positive =>
        cases t with
        | negative => rfl
        | positive => exact congrArg some hsize

theorem isSome_compare {a b : UnpackedFloat} (ha : a.isFinite = true) (hb : b.isFinite = true) :
    (a.compare b).isSome = true := by
  cases a with
  | notANumber => cases ha
  | infinity _ => cases ha
  | zero _ =>
    cases b with
    | notANumber => cases hb
    | infinity _ => cases hb
    | zero _ => rfl
    | finite t _ _ _ => cases t <;> rfl
  | finite s _ _ _ =>
    cases b with
    | notANumber => cases hb
    | infinity _ => cases hb
    | zero _ => cases s <;> rfl
    | finite t _ _ _ => cases s <;> cases t <;> rfl

variable {a b : Float}

theorem lt_iff_compare : a < b ↔ a.toModel.unpack.compare b.toModel.unpack = some .lt := by
  have hlt : a < b ↔ Float.lt a b = true := Iff.rfl
  have hmodel : a.toModel < b.toModel ↔ a.toModel.unpack.lt b.toModel.unpack = true := Iff.rfl
  rw [hlt, Float.lt, decide_eq_true_iff, hmodel, UnpackedFloat.lt, beq_iff_eq]

theorem le_iff_compare : a ≤ b ↔
    (a.toModel.unpack.compare b.toModel.unpack).any Ordering.isLE = true := by
  have hle : a ≤ b ↔ Float.le a b = true := Iff.rfl
  have hmodel : a.toModel ≤ b.toModel ↔ a.toModel.unpack.le b.toModel.unpack = true := Iff.rfl
  rw [hle, Float.le, decide_eq_true_iff, hmodel, UnpackedFloat.le]

theorem not_lt_iff_le (ha : a.isFinite = true) (hb : b.isFinite = true) : ¬ a < b ↔ b ≤ a := by
  have hsome : (a.toModel.unpack.compare b.toModel.unpack).isSome = true := isSome_compare ha hb
  obtain ⟨order, horder⟩ := Option.isSome_iff_exists.mp hsome
  rw [lt_iff_compare, le_iff_compare, compare_swap a.toModel.unpack, horder]
  cases order <;> decide

/-- The parts of an unpacked double; zero has the exponent of the smallest. -/
def Binary.ofUnpacked? : UnpackedFloat → Option Binary
  | .notANumber | .infinity _ => none
  | .zero s => some ⟨s == .negative, 0, -1074⟩
  | .finite s m e _ => some ⟨s == .negative, m, e⟩

section Bits
variable (b : BitVec 64)

theorem toNat_unpackMantissa :
    (@UnpackedFloat.unpackMantissa Format.binary64 b).toNat = b.toNat % hiddenBit := by
  simp [UnpackedFloat.unpackMantissa, BitVec.extractLsb_toNat, hiddenBit]

theorem toNat_unpackExponent :
    (@UnpackedFloat.unpackExponent Format.binary64 b).toNat = b.toNat / hiddenBit % 2048 := by
  simp [UnpackedFloat.unpackExponent, BitVec.extractLsb_toNat, hiddenBit, Nat.shiftRight_eq_div_pow]

theorem toNat_unpackSign :
    (@UnpackedFloat.unpackSign Format.binary64 b).toNat = b.toNat / hiddenBit / 2048 := by
  have hlt : b.toNat / (hiddenBit * 2048) < 2 :=
    Nat.div_lt_of_lt_mul (show b.toNat < hiddenBit * 2048 * 2 from b.isLt)
  have hsign : @UnpackedFloat.unpackSign Format.binary64 b = b.extractLsb 63 63 := rfl
  rw [Nat.div_div_eq_div_mul, hsign]
  simpa [BitVec.extractLsb_toNat, hiddenBit, Nat.shiftRight_eq_div_pow] using hlt

theorem ofUnpacked?_unpack :
    Binary.ofUnpacked? (UnpackedFloat.unpack Format.binary64 b) =
      let negative := UnpackedFloat.Sign.ofBitVec (@UnpackedFloat.unpackSign Format.binary64 b) ==
        .negative
      let m := @UnpackedFloat.unpackMantissa Format.binary64 b
      let e := @UnpackedFloat.unpackExponent Format.binary64 b
      if e = -1#11 then none
      else if e = 0#11 then some ⟨negative, m.toNat, -1074⟩
      else some ⟨negative, (1#1 ++ m).toNat, (e.toNat : Int) - 1075⟩ := by
  delta UnpackedFloat.unpack
  dsimp only
  by_cases hones : @UnpackedFloat.unpackExponent Format.binary64 b = -1#11
  · rw [if_pos hones, if_pos hones]
    split <;> rfl
  · rw [if_neg hones, if_neg hones]
    by_cases hsmall : @UnpackedFloat.unpackExponent Format.binary64 b = 0#11
    · rw [if_pos hsmall, if_pos hsmall]
      by_cases hzero : @UnpackedFloat.unpackMantissa Format.binary64 b = 0#52
      · rw [dif_pos hzero, hzero]
        rfl
      · -- A subnormal number has the exponent of the smallest normal ones.
        rw [dif_neg hzero, hsmall]
        rfl
    · rw [if_neg hsmall, if_neg hsmall]
      rfl

end Bits

theorem signBit_eq (x : Float) :
    signBit x =
      (UnpackedFloat.Sign.ofBitVec (@UnpackedFloat.unpackSign Format.binary64 x.toBits.toBitVec) ==
        .negative) := by
  have hsign : (@UnpackedFloat.unpackSign Format.binary64 x.toBits.toBitVec).toNat =
      x.toBits.toNat / hiddenBit / 2048 := toNat_unpackSign _
  have hbit : signBit x = decide (x.toBits.toNat / hiddenBit / 2048 = 1) := by
    rw [signBit, Bool.eq_iff_iff, beq_iff_eq, decide_eq_true_iff, ← UInt64.toNat_inj,
      Nat.div_div_eq_div_mul]
    simp [Nat.shiftRight_eq_div_pow, hiddenBit]
  rw [hbit, ← hsign]
  -- A vector of one bit is one of two, and both sides compute on each.
  rcases BitVec.eq_zero_or_eq_one (@UnpackedFloat.unpackSign Format.binary64 x.toBits.toBitVec) with
    h | h
  · rw [h]
    rfl
  · rw [h]
    rfl

theorem toNat_one_append (m : BitVec 52) : (1#1 ++ m).toNat = hiddenBit + m.toNat := by
  have hlt : m.toNat < 2 ^ 52 := m.isLt
  rw [BitVec.toNat_append, ← Nat.shiftLeft_add_eq_or_of_lt hlt]
  rfl

/-- The bits of a double are read as the language reads them. -/
theorem ofFloat?_eq_ofUnpacked? (x : Float) :
    Binary.ofFloat? x = Binary.ofUnpacked? x.toModel.unpack := by
  have hmantissa : (@UnpackedFloat.unpackMantissa Format.binary64 x.toBits.toBitVec).toNat =
      x.toBits.toNat % hiddenBit := toNat_unpackMantissa _
  have hexponent : (@UnpackedFloat.unpackExponent Format.binary64 x.toBits.toBitVec).toNat =
      x.toBits.toNat / hiddenBit % 2048 := toNat_unpackExponent _
  have hones : @UnpackedFloat.unpackExponent Format.binary64 x.toBits.toBitVec = -1#11 ↔
      x.toBits.toNat / hiddenBit % 2048 = 2047 := by
    rw [← BitVec.toNat_inj, hexponent]
    rfl
  have hsmall : @UnpackedFloat.unpackExponent Format.binary64 x.toBits.toBitVec = 0#11 ↔
      x.toBits.toNat / hiddenBit % 2048 = 0 := by
    rw [← BitVec.toNat_inj, hexponent]
    rfl
  change Binary.ofFloat? x =
    Binary.ofUnpacked? (UnpackedFloat.unpack Format.binary64 x.toBits.toBitVec)
  -- The fields of the bit vector are quotients and remainders of its number, as `Binary.ofFloat?`
  -- has them.
  rw [ofUnpacked?_unpack]
  simp only [Binary.ofFloat?, signBit_eq, hones, hsmall, toNat_one_append, hmantissa, hexponent]

/-- A positive number has a mantissa and no sign. -/
theorem exists_ofFloat?_of_pos {x : Float} (hfinite : x.isFinite = true) (hpos : 0 < x) :
    ∃ b, Binary.ofFloat? x = some b ∧ b.negative = false ∧ 0 < b.mantissa := by
  have hfinite : x.toModel.unpack.isFinite = true := hfinite
  have hzero : (0 : Float).toModel.unpack = .zero .positive := by rfl
  rw [lt_iff_compare, hzero] at hpos
  rw [ofFloat?_eq_ofUnpacked?]
  -- The hypotheses leave a finite number with a positive sign, and its mantissa is positive by
  -- construction.
  cases hx : x.toModel.unpack with
  | notANumber =>
    rw [hx] at hfinite
    cases hfinite
  | infinity s =>
    rw [hx] at hfinite
    cases hfinite
  | zero s =>
    rw [hx] at hpos
    cases hpos
  | finite s m e hm =>
    rw [hx] at hpos
    cases s with
    | negative => cases hpos
    | positive => exact ⟨_, rfl, rfl, hm⟩

end VenueGateway.Decimal
