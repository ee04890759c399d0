import VenueGateway.Proofs.Rest.Signing

namespace VenueGateway

namespace Text

def isUpperHex (c : Char) : Bool := c.isDigit || ('A' ≤ c && c ≤ 'F')

/-- Unreserved characters, escaped bytes, and the marks between keys and values. -/
inductive IsQueryText : List Char → Prop
  | nil : IsQueryText []
  | plain {c : Char} {cs : List Char} (h : isUnreserved c = true) (rest : IsQueryText cs) :
      IsQueryText (c :: cs)
  | escape {a b : Char} {cs : List Char} (ha : isUpperHex a = true) (hb : isUpperHex b = true)
      (rest : IsQueryText cs) : IsQueryText ('%' :: a :: b :: cs)
  | mark {c : Char} {cs : List Char} (h : c = '&' ∨ c = '=') (rest : IsQueryText cs) :
      IsQueryText (c :: cs)

namespace IsQueryText

theorem append {cs ds : List Char} (hcs : IsQueryText cs) (hds : IsQueryText ds) :
    IsQueryText (cs ++ ds) := by
  induction hcs with
  | nil => exact hds
  | plain h _ ih => exact .plain h ih
  | escape ha hb _ ih => exact .escape ha hb ih
  | mark h _ ih => exact .mark h ih

theorem flatMap {α : Type} {f : α → List Char} {xs : List α} (h : ∀ x ∈ xs, IsQueryText (f x)) :
    IsQueryText (xs.flatMap f) := by
  induction xs with
  | nil => exact .nil
  | cons x xs ih =>
    obtain ⟨hx, hxs⟩ := List.forall_mem_cons.mp h
    exact hx.append (ih hxs)

theorem intercalate {pieces : List (List Char)} (h : ∀ p ∈ pieces, IsQueryText p) :
    IsQueryText (['&'].intercalate pieces) := by
  induction pieces with
  | nil => exact .nil
  | cons p ps ih =>
    obtain ⟨hp, hps⟩ := List.forall_mem_cons.mp h
    cases ps with
    | nil => simpa using hp
    | cons q qs =>
      rw [List.intercalate_cons_cons]
      exact (hp.append (.mark (.inl rfl) .nil)).append (ih hps)

end IsQueryText

theorem isUpperHex_upperHexDigit (n : Nat) : isUpperHex (upperHexDigit n) = true := by
  have h : ∀ k < 16, isUpperHex (Nat.digitChar k).toUpper = true := by decide
  exact h _ (Nat.mod_lt n (by decide))

theorem isQueryText_percentChars (cs : List Char) : IsQueryText (percentChars cs) := by
  have hbyte : ∀ b : UInt8, IsQueryText (percentByte b) := fun b =>
    .escape (isUpperHex_upperHexDigit _) (isUpperHex_upperHexDigit _) .nil
  refine IsQueryText.flatMap fun c _ => ?_
  unfold percentChar
  split
  · exact .plain ‹_› .nil
  · exact IsQueryText.flatMap fun b _ => hbyte b

theorem isQueryText_encodeQuery (params : List (String × String)) :
    IsQueryText (encodeQuery params).toList := by
  rw [toList_encodeQuery]
  refine IsQueryText.intercalate fun piece hm => ?_
  obtain ⟨p, -, rfl⟩ := List.mem_map.mp hm
  exact (isQueryText_percentChars _).append (.mark (.inr rfl) (isQueryText_percentChars _))

/-- The parameters of a query; the empty one has none. -/
def parameters? (query : String) : Option (List (String × String)) :=
  if query = "" then some [] else readQuery? query

theorem parameters?_encodeQuery (params : List (String × String)) :
    parameters? (encodeQuery params) = some params := by
  by_cases h : params = []
  · subst h
    rfl
  · rw [parameters?, if_neg (mt encodeQuery_eq_empty.mp h), readQuery?_encodeQuery h]

theorem encodeQuery_injective : Function.Injective encodeQuery := by
  intro ps qs h
  have hread := congrArg parameters? h
  rw [parameters?_encodeQuery, parameters?_encodeQuery] at hread
  exact Option.some.inj hread

theorem percentEncode_hexOf (bytes : List UInt8) : percentEncode (hexOf bytes) = hexOf bytes := by
  have hdigit : ∀ n, isUnreserved (hexDigit n) = true := by
    have h : ∀ k < 16, isUnreserved (Nat.digitChar k) = true := by decide
    exact fun n => h _ (Nat.mod_lt n (by decide))
  refine percentEncode_of_unreserved fun c hc => ?_
  rw [hexOf, String.toList_ofList] at hc
  obtain ⟨b, -, hb⟩ := List.mem_flatMap.mp hc
  simp only [hexByte, List.mem_cons, List.not_mem_nil, or_false] at hb
  rcases hb with rfl | rfl
  · exact hdigit _
  · exact hdigit _

end Text

open Text

/-- The signature is the last of the parameters, and covers those before it. -/
theorem signQuery_eq_encodeQuery (secret : String) (params : List (String × String))
    (timestampMs : Int) :
    signQuery secret params timestampMs = encodeQuery (params ++
      [("timestamp", ofInt timestampMs), ("signature", Digest.hmacSha256Hex secret
        (encodeQuery (params ++ [("timestamp", ofInt timestampMs)])))]) := by
  have hsplit : ∀ signature : String,
      params ++ [("timestamp", ofInt timestampMs), ("signature", signature)] =
        (params ++ [("timestamp", ofInt timestampMs)]) ++ [("signature", signature)] := by
    simp
  rw [signQuery_eq, hsplit]
  generalize hmessage : encodeQuery (params ++ [("timestamp", ofInt timestampMs)]) = message
  -- The digits of the signature need no escape, so writing it as a parameter changes nothing in it.
  have hsignature : encodeQuery [("signature", Digest.hmacSha256Hex secret message)] =
      "signature=" ++ Digest.hmacSha256Hex secret message := by
    rw [encodeQuery_singleton, Digest.hmacSha256Hex, percentEncode_hexOf]
    rfl
  have hmark : "&signature=" = "&" ++ "signature=" := rfl
  rw [encodeQuery_append (by simp) (by simp), hmessage, hsignature, hmark]
  simp only [String.append_assoc]

/-- What signing adds to the parameters of a call. -/
def Dialect.addedParams (d : Dialect) (timestampMs : Int) (signature : String) :
    List (String × String) :=
  match d with
  | .binance receiveWindow =>
    [("recvWindow", ofNat receiveWindow), ("timestamp", ofInt timestampMs),
      ("signature", signature)]
  | .deribit | .grvt .. => []

/-- The query of a signed call is nothing but parameters, those given and those added. -/
theorem Dialect.query_of_sign {d : Dialect} {c : Credentials} {r : SigningInput}
    {s : SignedRequest} (hsigned : r.query.signed = true) (h : d.sign c r = .ok s) :
    ∃ signature, s.query =
      encodeQuery (r.query.params ++ d.addedParams r.timestampMs signature) := by
  -- Only one dialect adds to the query; the other two send the parameters as they are.
  cases d with
  | binance receiveWindow =>
    cases c with
    | apiKey key secret =>
      simp only [sign, hsigned, if_true] at h
      cases h
      rw [signQuery_eq_encodeQuery, List.append_assoc]
      exact ⟨_, rfl⟩
    | none => cases h
    | cookie => cases h
  | deribit =>
    have hquery : s.query = encodeQuery r.query.params := by
      cases c with
      | apiKey key secret =>
        simp only [sign, hsigned] at h
        cases h
        rfl
      | none => simp [sign, hsigned] at h
      | cookie => simp [sign, hsigned] at h
    exact ⟨"", by simpa [addedParams] using hquery⟩
  | grvt =>
    have hquery : s.query = encodeQuery r.query.params := by
      simp only [sign, hsigned] at h
      split at h
      · contradiction
      · split at h
        · contradiction
        · cases h
          rfl
    exact ⟨"", by simpa [addedParams] using hquery⟩

/-- A value is told apart from everything around it, whatever characters it has. -/
theorem query_lossless (params : List (String × String)) :
    (params ≠ [] → readQuery? (encodeQuery params) = some params) ∧
    (encodeQuery params = "" ↔ params = []) ∧
    IsQueryText (encodeQuery params).toList ∧
    (∀ others, encodeQuery others = encodeQuery params → others = params) ∧
    ∀ (d : Dialect) (c : Credentials) (r : SigningInput) (s : SignedRequest),
      r.query.params = params → r.query.signed = true → d.sign c r = .ok s →
        ∃ signature, parameters? s.query =
          some (params ++ d.addedParams r.timestampMs signature) := by
  refine ⟨readQuery?_encodeQuery, encodeQuery_eq_empty, isQueryText_encodeQuery params,
    fun others h => encodeQuery_injective h, ?_⟩
  rintro d c r s rfl hsigned h
  obtain ⟨signature, hquery⟩ := Dialect.query_of_sign hsigned h
  exact ⟨signature, by rw [hquery, parameters?_encodeQuery]⟩

/-- Marks and wide characters in a key and in a value, and a pair of empty texts. -/
theorem query_lossless_reserved :
    let params := [("a&b", "x=1&timestamp=0 %é"), ("", "")]
    let r : SigningInput := ⟨⟨.get, "/fapi/v2/account", params, none, true⟩, none, 1000, ""⟩
    params ≠ [] ∧
    encodeQuery params = "a%26b=x%3D1%26timestamp%3D0%20%25%C3%A9&=" ∧
    readQuery? (encodeQuery params) = some params ∧
    ∃ s, (Dialect.binance 5000).sign (.apiKey "id" "secret") r = .ok s ∧
      ∃ signature, parameters? s.query = some [("a&b", "x=1&timestamp=0 %é"), ("", ""),
        ("recvWindow", "5000"), ("timestamp", "1000"), ("signature", signature)] := by
  intro params r
  have hne : params ≠ [] := by simp [params]
  obtain ⟨hread, -, -, -, hsign⟩ := query_lossless params
  obtain ⟨signature, hs⟩ := hsign (.binance 5000) (.apiKey "id" "secret") r _ rfl rfl rfl
  exact ⟨hne, by decide +kernel, hread hne, _, rfl, signature, hs⟩

end VenueGateway
