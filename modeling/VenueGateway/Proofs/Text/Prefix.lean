import Mathlib.Data.List.Infix
import VenueGateway.Proofs.Text.Utf8

namespace VenueGateway.Text

/-- Whether a place in some bytes is their beginning, their end or that of a character in them. -/
def isBoundary (bytes : List UInt8) (n : Nat) : Bool :=
  n == 0 ||
    match bytes[n]? with
    | some b => !isContinuation b
    | none => n == bytes.length

/-- The first boundary from a place downwards; none if the search goes below the first byte. -/
def boundaryBelow? (bytes : List UInt8) : Nat → Option Nat
  | 0 => if isBoundary bytes 0 then some 0 else none
  | n + 1 => if isBoundary bytes (n + 1) then some (n + 1) else boundaryBelow? bytes n

theorem boundaryBelow?_eq_some {bytes : List UInt8} {m n : Nat} (hle : m ≤ n)
    (hm : isBoundary bytes m = true)
    (hnone : ∀ k, m < k → k ≤ n → isBoundary bytes k = false) :
    boundaryBelow? bytes n = some m := by
  induction n with
  | zero =>
    obtain rfl : m = 0 := Nat.le_zero.mp hle
    rw [boundaryBelow?, if_pos hm]
  | succ n ih =>
    by_cases heq : m = n + 1
    · subst heq
      rw [boundaryBelow?, if_pos hm]
    · have hlast := hnone (n + 1) (by omega) (Nat.le_refl _)
      rw [boundaryBelow?, hlast, if_neg Bool.false_ne_true]
      exact ih (by omega) fun k hk hkn => hnone k hk (Nat.le_succ_of_le hkn)

theorem isContinuation_ascii {k : Nat} (h : k < 128) : isContinuation k.toUInt8 = false := by
  have hall : ∀ k < 128, isContinuation (Nat.toUInt8 k) = false := by decide
  exact hall k h

theorem isContinuation_lead {k : Nat} (hl : 0xC0 ≤ k) (h : k < 256) :
    isContinuation k.toUInt8 = false := by
  have hall : ∀ j < 64, isContinuation (0xC0 + j).toUInt8 = false := by decide
  obtain ⟨j, rfl⟩ := Nat.exists_eq_add_of_le hl
  exact hall j (by omega)

theorem isContinuation_tail (n : Nat) : isContinuation (0x80 + n % 64).toUInt8 = true := by
  have hall : ∀ j < 64, isContinuation (0x80 + j).toUInt8 = true := by decide
  exact hall (n % 64) (Nat.mod_lt n (by decide))

/-- A character is a byte that begins it, and at most three bytes that go on with it. -/
theorem encodeChar_eq (c : Char) :
    ∃ first rest, encodeChar c = first :: rest ∧ isContinuation first = false ∧
      (∀ b ∈ rest, isContinuation b = true) ∧ rest.length ≤ 3 := by
  have hv := toNat_valid c
  unfold encodeChar
  generalize c.toNat = n at hv ⊢
  dsimp only
  -- One to four bytes, of which the first never is a continuation.
  split_ifs with h1 h2 h3
  · exact ⟨_, _, rfl, isContinuation_ascii h1, by simp, by simp⟩
  · exact ⟨_, _, rfl, isContinuation_lead (by omega) (by omega),
      List.forall_mem_singleton.mpr (isContinuation_tail _), by simp⟩
  · exact ⟨_, _, rfl, isContinuation_lead (by omega) (by omega),
      List.forall_mem_cons.mpr ⟨isContinuation_tail _,
        List.forall_mem_singleton.mpr (isContinuation_tail _)⟩, by simp⟩
  · exact ⟨_, _, rfl, isContinuation_lead (by omega) (by omega),
      List.forall_mem_cons.mpr ⟨isContinuation_tail _, List.forall_mem_cons.mpr
        ⟨isContinuation_tail _, List.forall_mem_singleton.mpr (isContinuation_tail _)⟩⟩, by simp⟩

theorem length_encodeChar_pos (c : Char) : 0 < (encodeChar c).length := by
  obtain ⟨first, rest, hc, -⟩ := encodeChar_eq c
  rw [hc]
  exact Nat.succ_pos _

theorem isBoundary_zero (bytes : List UInt8) : isBoundary bytes 0 = true := rfl

theorem encodeChars_cons (c : Char) (cs : List Char) :
    encodeChars (c :: cs) = encodeChar c ++ encodeChars cs := rfl

theorem length_encodeChars_cons (c : Char) (cs : List Char) :
    (encodeChars (c :: cs)).length = (encodeChar c).length + (encodeChars cs).length :=
  List.length_append

/-- The bytes of a character that comes first lie between two boundaries. -/
theorem isBoundary_within (c : Char) (cs : List Char) {n : Nat} (hn : 0 < n)
    (hlt : n < (encodeChar c).length) : isBoundary (encodeChars (c :: cs)) n = false := by
  obtain ⟨first, rest, hc, -, hrest, -⟩ := encodeChar_eq c
  obtain ⟨k, rfl⟩ := Nat.exists_eq_succ_of_ne_zero (Nat.ne_of_gt hn)
  rw [hc, List.length_cons] at hlt
  have hk : k < rest.length := by omega
  have hbyte : (encodeChars (c :: cs))[k + 1]? = some rest[k] := by
    rw [encodeChars_cons, hc, List.cons_append, List.getElem?_cons_succ,
      List.getElem?_append_left hk, List.getElem?_eq_getElem hk]
  simp [isBoundary, hbyte, hrest _ (List.getElem_mem hk)]

theorem isBoundary_behind (c : Char) (cs : List Char) (n : Nat) :
    isBoundary (encodeChars (c :: cs)) ((encodeChar c).length + n) =
      isBoundary (encodeChars cs) n := by
  have hbyte : (encodeChars (c :: cs))[(encodeChar c).length + n]? = (encodeChars cs)[n]? := by
    rw [encodeChars_cons, List.getElem?_append_right (Nat.le_add_right _ _),
      Nat.add_sub_cancel_left]
  -- Right behind the first character stands the first byte of the next one, or the end.
  cases n with
  | zero =>
    rw [isBoundary_zero, isBoundary, hbyte]
    cases cs with
    | nil => simp [encodeChars]
    | cons d ds =>
      obtain ⟨first, rest, hd, hfirst, -, -⟩ := encodeChar_eq d
      simp [encodeChars_cons, hd, hfirst]
  | succ n =>
    have hinside : ((encodeChar c).length + (n + 1) == 0) = false := by simp
    have hend : ((encodeChar c).length + (n + 1) == (encodeChars (c :: cs)).length) =
        (n + 1 == (encodeChars cs).length) := by
      rw [length_encodeChars_cons, Bool.eq_iff_iff, beq_iff_eq, beq_iff_eq]
      exact Nat.add_left_cancel_iff
    simp only [isBoundary, hbyte, hinside, hend]
    rfl

theorem length_encodeChars_le_of_front {p cs : List Char} (h : p <+: cs) :
    (encodeChars p).length ≤ (encodeChars cs).length := by
  obtain ⟨behind, rfl⟩ := h
  rw [encodeChars_append, List.length_append]
  exact Nat.le_add_right _ _

/-- A place is a boundary if and only if a front of the text ends there. -/
theorem isBoundary_encodeChars_iff (cs : List Char) (n : Nat) :
    isBoundary (encodeChars cs) n = true ↔ ∃ p, p <+: cs ∧ (encodeChars p).length = n := by
  induction cs generalizing n with
  | nil =>
    have hempty : isBoundary (encodeChars []) n = true ↔ n = 0 := by
      simp [isBoundary, encodeChars]
    rw [hempty]
    constructor
    · rintro rfl
      exact ⟨[], List.prefix_refl _, rfl⟩
    · rintro ⟨p, hp, rfl⟩
      rw [List.prefix_nil.mp hp]
      rfl
  | cons c cs ih =>
    have hpos := length_encodeChar_pos c
    -- A place behind the first character is one of the rest; a place within its bytes is a boundary
    -- only where they start.
    by_cases hbehind : (encodeChar c).length ≤ n
    · obtain ⟨m, rfl⟩ := Nat.exists_eq_add_of_le hbehind
      rw [isBoundary_behind, ih]
      constructor
      · rintro ⟨p, hp, rfl⟩
        exact ⟨c :: p, List.cons_prefix_cons.mpr ⟨rfl, hp⟩, length_encodeChars_cons c p⟩
      · rintro ⟨p, hp, hlength⟩
        cases p with
        | nil =>
          rw [encodeChars, List.flatMap_nil, List.length_nil] at hlength
          omega
        | cons d p =>
          obtain ⟨rfl, htail⟩ := List.cons_prefix_cons.mp hp
          rw [length_encodeChars_cons] at hlength
          exact ⟨p, htail, Nat.add_left_cancel hlength⟩
    · by_cases hzero : n = 0
      · subst hzero
        exact ⟨fun _ => ⟨[], List.nil_prefix, rfl⟩, fun _ => isBoundary_zero _⟩
      · rw [isBoundary_within c cs (Nat.pos_of_ne_zero hzero) (Nat.lt_of_not_le hbehind)]
        refine ⟨fun h => absurd h Bool.false_ne_true, ?_⟩
        rintro ⟨p, hp, rfl⟩
        cases p with
        | nil => exact absurd rfl hzero
        | cons d p =>
          obtain ⟨rfl, -⟩ := List.cons_prefix_cons.mp hp
          rw [length_encodeChars_cons] at hbehind
          omega

/-- The longest front that fits into a number of bytes. -/
def fittingChars (room : Nat) : List Char → List Char
  | [] => []
  | c :: cs =>
    if (encodeChar c).length ≤ room then c :: fittingChars (room - (encodeChar c).length) cs
    else []

variable {room : Nat} {cs : List Char}

theorem fittingChars_front (room : Nat) (cs : List Char) : fittingChars room cs <+: cs := by
  induction cs generalizing room with
  | nil => exact List.prefix_refl _
  | cons c cs ih =>
    rw [fittingChars]
    split_ifs
    · exact List.cons_prefix_cons.mpr ⟨rfl, ih _⟩
    · exact List.nil_prefix

theorem length_fittingChars_le (room : Nat) (cs : List Char) :
    (encodeChars (fittingChars room cs)).length ≤ room := by
  induction cs generalizing room with
  | nil => exact Nat.zero_le _
  | cons c cs ih =>
    rw [fittingChars]
    split_ifs with hfits
    · have htail := ih (room - (encodeChar c).length)
      rw [length_encodeChars_cons]
      omega
    · exact Nat.zero_le _

/-- No front that fits is longer. -/
theorem front_fittingChars {p : List Char} (hp : p <+: cs)
    (hlen : (encodeChars p).length ≤ room) : p <+: fittingChars room cs := by
  induction cs generalizing room p with
  | nil => exact hp
  | cons c cs ih =>
    cases p with
    | nil => exact List.nil_prefix
    | cons d p =>
      obtain ⟨rfl, htail⟩ := List.cons_prefix_cons.mp hp
      rw [length_encodeChars_cons] at hlen
      rw [fittingChars, if_pos (by omega)]
      exact List.cons_prefix_cons.mpr ⟨rfl, ih htail (by omega)⟩

/-- No more than three bytes of room are left over, unless the whole text fits. -/
theorem min_le_length_fittingChars (room : Nat) (cs : List Char) :
    min (encodeChars cs).length room ≤ (encodeChars (fittingChars room cs)).length + 3 := by
  induction cs generalizing room with
  | nil => exact Nat.le_trans (Nat.min_le_left _ _) (Nat.zero_le _)
  | cons c cs ih =>
    rw [fittingChars]
    split_ifs with hfits
    · have htail := ih (room - (encodeChar c).length)
      rw [length_encodeChars_cons, length_encodeChars_cons]
      omega
    · obtain ⟨first, rest, hc, -, -, hrest⟩ := encodeChar_eq c
      rw [hc, List.length_cons] at hfits
      omega

/-- The search from the last byte that fits downwards finds the end of the longest front. -/
theorem boundaryBelow?_fittingChars (room : Nat) (cs : List Char) :
    boundaryBelow? (encodeChars cs) (min (encodeChars cs).length room) =
      some (encodeChars (fittingChars room cs)).length := by
  have hfront := fittingChars_front room cs
  have hfits := length_fittingChars_le room cs
  apply boundaryBelow?_eq_some
  · exact Nat.le_min.mpr ⟨length_encodeChars_le_of_front hfront, hfits⟩
  · exact (isBoundary_encodeChars_iff cs _).mpr ⟨_, hfront, rfl⟩
  · intro k hk hle
    by_contra hboundary
    obtain ⟨p, hp, rfl⟩ := (isBoundary_encodeChars_iff cs k).mp (by simpa using hboundary)
    have hroom := hle.trans (Nat.min_le_right _ _)
    have hlonger := length_encodeChars_le_of_front (front_fittingChars hp hroom)
    omega

end VenueGateway.Text
