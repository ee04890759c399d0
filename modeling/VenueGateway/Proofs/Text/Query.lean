import VenueGateway.Text.Percent
import VenueGateway.Proofs.Text.Pieces
import VenueGateway.Proofs.Text.Utf8

namespace VenueGateway.Text

/-- The bytes that a text stands for: a percent sign needs two hexadecimal digits behind it. -/
def percentBytes? : List Char → Option (List UInt8)
  | [] => some []
  | '%' :: a :: b :: cs => do
    let high ← hexValue? a
    let low ← hexValue? b
    (percentBytes? cs).map ((16 * high + low).toUInt8 :: ·)
  | '%' :: _ => none
  | c :: cs => (percentBytes? cs).map (encodeChar c ++ ·)

def percentDecode? (cs : List Char) : Option String := (percentBytes? cs).bind decodeUtf8

/-- A key and a value, cut at the first equals sign. -/
def readPair? (piece : List Char) : Option (String × String) := do
  let (key, value) ← splitOnce '=' piece
  pure (← percentDecode? key, ← percentDecode? value)

/-- The keys and values of a query. -/
def readQuery? (query : String) : Option (List (String × String)) :=
  (splitAll '&' query.toList).mapM readPair?

theorem hexValue?_upperHexDigit (n : Nat) : hexValue? (upperHexDigit n) = some (n % 16) := by
  have h : ∀ k < 16, hexValue? (Nat.digitChar k).toUpper = some k := by decide
  exact h _ (Nat.mod_lt n (by decide))

theorem isUnreserved_upperHexDigit (n : Nat) : isUnreserved (upperHexDigit n) = true := by
  have h : ∀ k < 16, isUnreserved (Nat.digitChar k).toUpper = true := by decide
  exact h _ (Nat.mod_lt n (by decide))

theorem percentBytes?_percentByte (b : UInt8) (cs : List Char) :
    percentBytes? (percentByte b ++ cs) = (percentBytes? cs).map (b :: ·) := by
  have hb : b.toNat < 256 := b.toNat_lt
  have he : 16 * (b.toNat / 16 % 16) + b.toNat % 16 = b.toNat := by omega
  have hbyte : (16 * (b.toNat / 16 % 16) + b.toNat % 16).toUInt8 = b := by
    rw [he]
    exact UInt8.ofNat_toNat
  simp only [percentByte, List.cons_append, List.nil_append, percentBytes?,
    hexValue?_upperHexDigit, Option.bind_eq_bind, Option.bind_some, hbyte]

theorem percentBytes?_flatMap (bs : List UInt8) (cs : List Char) :
    percentBytes? (bs.flatMap percentByte ++ cs) = (percentBytes? cs).map (bs ++ ·) := by
  induction bs with
  | nil => simp
  | cons b bs ih =>
    rw [List.flatMap_cons, List.append_assoc, percentBytes?_percentByte, ih]
    simp [Function.comp_def]

theorem percentBytes?_percentChar (c : Char) (cs : List Char) :
    percentBytes? (percentChar c ++ cs) = (percentBytes? cs).map (encodeChar c ++ ·) := by
  unfold percentChar
  split
  · have hc : c ≠ '%' := by
      rintro rfl
      contradiction
    simp [percentBytes?, hc]
  · exact percentBytes?_flatMap _ cs

theorem percentBytes?_percentChars (cs : List Char) :
    percentBytes? (percentChars cs) = some (encodeChars cs) := by
  induction cs with
  | nil => rfl
  | cons c cs ih =>
    have hsplit : percentChars (c :: cs) = percentChar c ++ percentChars cs := rfl
    rw [hsplit, percentBytes?_percentChar, ih]
    rfl

theorem percentDecode?_percentChars (s : String) :
    percentDecode? (percentChars s.toList) = some s := by
  rw [percentDecode?, percentBytes?_percentChars]
  exact decodeUtf8_utf8 s

theorem percentChars_of_unreserved {cs : List Char} (h : ∀ c ∈ cs, isUnreserved c = true) :
    percentChars cs = cs := by
  induction cs with
  | nil => rfl
  | cons c cs ih =>
    obtain ⟨hc, hcs⟩ := List.forall_mem_cons.mp h
    have hsplit : percentChars (c :: cs) = percentChar c ++ percentChars cs := rfl
    rw [hsplit, ih hcs, percentChar, if_pos hc]
    rfl

theorem percentEncode_of_unreserved {s : String} (h : ∀ c ∈ s.toList, isUnreserved c = true) :
    percentEncode s = s := by
  rw [percentEncode, percentChars_of_unreserved h, String.ofList_toList]

/-- A reserved character other than the percent sign never stands in an encoded text. -/
theorem not_mem_percentChars {sep : Char} (h : isUnreserved sep = false) (hp : sep ≠ '%')
    (cs : List Char) : sep ∉ percentChars cs := by
  have hne : ∀ c, isUnreserved c = true → sep ≠ c := by
    rintro c hc rfl
    simp [h] at hc
  intro hm
  obtain ⟨c, -, hc⟩ := List.mem_flatMap.mp hm
  unfold percentChar at hc
  split at hc
  · exact hne c ‹_› (List.mem_singleton.mp hc)
  · -- An escaped byte is a percent sign and two digits, which are unreserved.
    obtain ⟨b, -, hb⟩ := List.mem_flatMap.mp hc
    simp only [percentByte, List.mem_cons, List.not_mem_nil, or_false] at hb
    rcases hb with hb | hb | hb
    · exact hp hb
    · exact hne _ (isUnreserved_upperHexDigit _) hb
    · exact hne _ (isUnreserved_upperHexDigit _) hb

def pairChars (p : String × String) : List Char :=
  percentChars p.1.toList ++ '=' :: percentChars p.2.toList

theorem toList_encodeQuery (params : List (String × String)) :
    (encodeQuery params).toList = ['&'].intercalate (params.map pairChars) := by
  have hpair : ∀ p : String × String,
      (percentEncode p.1 ++ "=" ++ percentEncode p.2).toList = pairChars p := by
    intro p
    simp [percentEncode, pairChars]
  simp only [encodeQuery, String.toList_intercalate, List.map_map]
  exact congrArg _ (List.map_congr_left fun p _ => hpair p)

theorem readPair?_pairChars (p : String × String) : readPair? (pairChars p) = some p := by
  have hkey : '=' ∉ percentChars p.1.toList := not_mem_percentChars (by decide) (by decide) _
  simp [readPair?, pairChars, splitOnce_append hkey, percentDecode?_percentChars]

theorem not_mem_pairChars {sep : Char} (h : isUnreserved sep = false) (hp : sep ≠ '%')
    (he : sep ≠ '=') (p : String × String) : sep ∉ pairChars p := by
  simp [pairChars, not_mem_percentChars h hp, he]

theorem not_mem_encodeQuery {sep : Char} (h : isUnreserved sep = false) (hp : sep ≠ '%')
    (he : sep ≠ '=') (ha : sep ≠ '&') (params : List (String × String)) :
    sep ∉ (encodeQuery params).toList := by
  rw [toList_encodeQuery]
  induction params with
  | nil => simp
  | cons p ps ih =>
    cases ps with
    | nil => simpa using not_mem_pairChars h hp he p
    | cons q qs => simpa [not_mem_pairChars h hp he p, ha] using ih

theorem readQuery?_encodeQuery {params : List (String × String)} (h : params ≠ []) :
    readQuery? (encodeQuery params) = some params := by
  have hamp : ∀ piece ∈ params.map pairChars, '&' ∉ piece := by
    intro piece hm
    obtain ⟨p, -, rfl⟩ := List.mem_map.mp hm
    exact not_mem_pairChars (by decide) (by decide) (by decide) p
  have hread : readPair? ∘ pairChars = some := funext readPair?_pairChars
  rw [readQuery?, toList_encodeQuery, splitAll_intercalate hamp (by simpa using h),
    List.mapM_map, hread]
  simpa using List.mapM_pure (m := Option) (l := params) (f := id)

theorem encodeQuery_singleton (key value : String) :
    encodeQuery [(key, value)] = percentEncode key ++ "=" ++ percentEncode value :=
  String.intercalate_singleton

theorem encodeQuery_append {ps qs : List (String × String)} (hp : ps ≠ []) (hq : qs ≠ []) :
    encodeQuery (ps ++ qs) = encodeQuery ps ++ "&" ++ encodeQuery qs := by
  simp only [encodeQuery, List.map_append]
  exact String.intercalate_append_of_ne_nil (by simpa using hp) (by simpa using hq)

end VenueGateway.Text
