import VenueGateway.Proofs.Text.Query
import VenueGateway.Rest.Client

namespace VenueGateway

open Text

/-- A whole number is sent as it is written. -/
theorem percentEncode_ofInt (n : Int) : percentEncode (ofInt n) = ofInt n := by
  have hnat : ∀ k : Nat, ∀ c ∈ (ofNat k).toList, isUnreserved c = true := by
    intro k c hc
    rw [ofNat, String.toList_ofList] at hc
    have hd : c.isDigit = true := isDigit_of_mem_natDigits c hc
    simp [isUnreserved, Char.isAlphanum, hd]
  have hint : ∀ c ∈ (ofInt n).toList, isUnreserved c = true := by
    cases n with
    | ofNat k => exact hnat k
    | negSucc k =>
      intro c hc
      rcases List.mem_cons.mp (by simpa [ofInt] using hc) with rfl | hm
      · rfl
      · exact hnat (k + 1) c hm
  exact percentEncode_of_unreserved hint

theorem encodeQuery_eq_empty {params : List (String × String)} :
    encodeQuery params = "" ↔ params = [] := by
  refine ⟨fun h => ?_, fun h => h ▸ rfl⟩
  by_contra hne
  have hread := readQuery?_encodeQuery hne
  rw [h] at hread
  have hnone : readQuery? "" = none := rfl
  rw [hnone] at hread
  contradiction

/-- The time is encoded as the last parameter, also where it is the only one. -/
theorem signQuery_eq (secret : String) (params : List (String × String)) (timestampMs : Int) :
    signQuery secret params timestampMs =
      encodeQuery (params ++ [("timestamp", ofInt timestampMs)]) ++ "&signature=" ++
        Digest.hmacSha256Hex secret
          (encodeQuery (params ++ [("timestamp", ofInt timestampMs)])) := by
  have htime : encodeQuery [("timestamp", ofInt timestampMs)] =
      "timestamp=" ++ ofInt timestampMs := by
    rw [encodeQuery_singleton, percentEncode_ofInt]
    rfl
  -- Only where nothing stands before the time is there no ampersand before it.
  by_cases h : params = []
  · subst h
    have hempty : encodeQuery [] = "" := rfl
    simp only [signQuery, hempty, List.nil_append, htime]
    rfl
  · have hne : (encodeQuery params).isEmpty = false := by
      simpa [encodeQuery_eq_empty] using h
    rw [encodeQuery_append h (by simp), htime]
    simp only [signQuery, hne, Bool.false_eq_true, if_false, String.append_assoc]

/-- A query that is not empty stands behind the first question mark of the URL. -/
theorem splitOnce_urlFor {base path query : String} (hb : '?' ∉ base.toList)
    (hp : '?' ∉ path.toList) (hq : query ≠ "") :
    splitOnce '?' (Http.urlFor base path query).toList =
      some ((if Http.isAbsolute path then path else base ++ path).toList, query.toList) := by
  have hurl : '?' ∉ (if Http.isAbsolute path then path else base ++ path).toList := by
    split
    · exact hp
    · simp [hb, hp]
  have hempty : query.isEmpty = false := by simpa using hq
  simp only [Http.urlFor, hempty, Bool.false_eq_true, if_false]
  generalize (if Http.isAbsolute path then path else base ++ path) = url at hurl ⊢
  simpa [hurl] using splitOnce_append hurl query.toList

namespace RestClient

theorem prepare_binance {c : RestClient} {q : RestQuery} {window : Nat} {key secret : String}
    (hd : c.dialect = .binance window) (hc : c.credentials = .apiKey key secret)
    (hs : q.signed = true) (stamp : CallStamp) :
    ∃ request, c.prepare q stamp = .ok request ∧ request.url = Http.urlFor c.base q.path
      (signQuery secret (q.params ++ [("recvWindow", ofNat window)]) stamp.timestampMs) := by
  have hsign : c.dialect.sign c.credentials
      ⟨q, q.body.map Json.text, stamp.timestampMs, stamp.nonce⟩ =
      .ok ⟨[("X-MBX-APIKEY", key)],
        signQuery secret (q.params ++ [("recvWindow", ofNat window)]) stamp.timestampMs,
        q.body.map Json.text⟩ := by
    simp [Dialect.sign, hd, hc, hs]
  rw [prepare, hsign]
  refine ⟨_, rfl, ?_⟩
  rfl

theorem sent_message_is_signed (c : RestClient) (q : RestQuery) (stamp : CallStamp)
    {window : Nat} {key secret : String} (hd : c.dialect = .binance window)
    (hc : c.credentials = .apiKey key secret) (hs : q.signed = true)
    (hb : '?' ∉ c.base.toList) (hp : '?' ∉ q.path.toList) :
    ∃ request message,
      c.prepare q stamp = .ok request ∧
      splitOnce '?' request.url.toList =
        some ((if Http.isAbsolute q.path then q.path else c.base ++ q.path).toList,
          (message ++ "&signature=" ++
            hexOf (Digest.hmacSha256 (utf8 secret) (utf8 message))).toList) ∧
      readQuery? message = some (q.params ++
        [("recvWindow", ofNat window), ("timestamp", ofInt stamp.timestampMs)]) := by
  obtain ⟨request, hprepare, hurl⟩ := prepare_binance hd hc hs stamp
  refine ⟨request, encodeQuery (q.params ++
    [("recvWindow", ofNat window), ("timestamp", ofInt stamp.timestampMs)]), hprepare, ?_,
    readQuery?_encodeQuery (by simp)⟩
  -- No question mark stands before the query, so the first one of the URL is where the query
  -- begins.
  rw [hurl, signQuery_eq, Digest.hmacSha256Hex, List.append_assoc]
  exact splitOnce_urlFor hb hp (by simp)

/-- Values with reserved and with wide characters, and a time before 1970. -/
theorem sent_message_is_signed_reserved :
    let c : RestClient := ⟨.binance 5000, "https://fapi.binance.com", .apiKey "id" "clé", none⟩
    let q : RestQuery :=
      ⟨.post, "/fapi/v1/order", [("symbol", "BTC&side=BUY?"), ("größe", "")], none, true⟩
    c.dialect = .binance 5000 ∧ c.credentials = .apiKey "id" "clé" ∧ q.signed = true ∧
    '?' ∉ c.base.toList ∧ '?' ∉ q.path.toList ∧
    ∃ request message,
      c.prepare q ⟨-1, ""⟩ = .ok request ∧
      splitOnce '?' request.url.toList = some ("https://fapi.binance.com/fapi/v1/order".toList,
        (message ++ "&signature=" ++
          hexOf (Digest.hmacSha256 (utf8 "clé") (utf8 message))).toList) ∧
      readQuery? message = some [("symbol", "BTC&side=BUY?"), ("größe", ""),
        ("recvWindow", "5000"), ("timestamp", "-1")] := by
  intro c q
  have hb : '?' ∉ c.base.toList := by decide
  have hp : '?' ∉ q.path.toList := by decide
  have hplace : (if Http.isAbsolute q.path then q.path else c.base ++ q.path) =
      "https://fapi.binance.com/fapi/v1/order" := by decide +kernel
  have hsent : q.params ++ [("recvWindow", ofNat 5000), ("timestamp", ofInt (-1))] =
      [("symbol", "BTC&side=BUY?"), ("größe", ""), ("recvWindow", "5000"),
        ("timestamp", "-1")] := by
    decide +kernel
  obtain ⟨request, message, hprepare, hurl, hread⟩ :=
    sent_message_is_signed c q ⟨-1, ""⟩ rfl rfl rfl hb hp
  rw [hplace] at hurl
  rw [hsent] at hread
  exact ⟨rfl, rfl, rfl, hb, hp, request, message, hprepare, hurl, hread⟩

end RestClient

end VenueGateway
