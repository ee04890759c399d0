import VenueGateway.Proofs.Text.Base64
import VenueGateway.Proofs.WebSocket.Head

namespace VenueGateway.Handshake

theorem length_digest (message : Bytes) : (Digest.Sha1.digest message).length = 20 := by
  unfold Digest.Sha1.digest
  generalize (Digest.blocks message).foldl Digest.Sha1.compress Digest.Sha1.State.start = s
  simp [Digest.Sha1.State.words, Digest.bytesOfWord, Digest.bigEndian]

/-- The headers that every request begins with. -/
def fixedHeaders (e : Endpoint) (key : String) : List (String × String) :=
  [("Host", e.hostHeader), ("Upgrade", "websocket"), ("Connection", "Upgrade"),
    ("Sec-WebSocket-Key", key), ("Sec-WebSocket-Version", "13")]

def requestLine (resource : String) : List Char :=
  "GET".toList ++ ' ' :: (resource.toList ++ ' ' :: "HTTP/1.1".toList)

def answerHeaders (key : String) : List (String × String) :=
  [("Upgrade", "websocket"), ("Connection", "Upgrade"), ("Sec-WebSocket-Accept", acceptKey key)]

def answerLine : List Char := "HTTP/1.1".toList ++ ' ' :: "101 Switching Protocols".toList

theorem toList_crlf : crlf.toList = ['\r', '\n'] := by decide

theorem toList_headerLine (h : String × String) :
    (headerLine h.1 h.2).toList = headerChars h ++ ['\r', '\n'] := by
  have hcolon : (": " : String).toList = [':', ' '] := by decide
  simp only [headerLine, String.toList_append, toList_crlf, hcolon, headerChars]
  simp

theorem toList_headOf (first : List Char) (headers : List (String × String)) :
    (headOf first headers).toList =
      first ++ crlf.toList ++ headers.flatMap (fun h => (headerLine h.1 h.2).toList) ++
        crlf.toList := by
  simp only [headOf, String.toList_ofList, endedLines, toList_headerLine, toList_crlf]
  simp [List.flatMap_map]

theorem request_eq (e : Endpoint) (key : String) (headers : List (String × String)) :
    request e key headers = headOf (requestLine e.resource) (fixedHeaders e key ++ headers) := by
  have hget : ("GET " : String).toList = "GET".toList ++ [' '] := by decide
  have hversion : (" HTTP/1.1" : String).toList = ' ' :: "HTTP/1.1".toList := by decide
  apply String.toList_inj.mp
  rw [toList_headOf]
  simp only [request, String.toList_append, String.toList_join, List.flatMap_map, hget, hversion,
    requestLine, fixedHeaders, List.append_assoc, List.cons_append, List.nil_append]

theorem response_eq (key : String) : response key = headOf answerLine (answerHeaders key) := by
  have hline : ("HTTP/1.1 101 Switching Protocols" : String).toList = answerLine := by decide
  apply String.toList_inj.mp
  rw [toList_headOf]
  unfold response answerHeaders
  -- The digest stays closed.
  generalize acceptKey key = accept
  simp only [String.toList_append, hline, List.flatMap_cons, List.flatMap_nil, List.append_assoc,
    List.append_nil]

theorem acceptKey_toList (key : String) :
    (acceptKey key).toList = Text.base64Chars (Digest.Sha1.digest (Text.utf8 (key ++ guid))) := by
  rw [acceptKey, Text.base64, String.toList_ofList]

theorem length_acceptKey (key : String) : (acceptKey key).toList.length = 28 := by
  rw [acceptKey_toList, Text.length_base64Chars, length_digest]

theorem byteLength_response_le (key : String) : Text.byteLength (response key) ≤ maxHead := by
  have hlen : (response key).toList.length ≤ 200 := by
    have hkey := length_acceptKey key
    rw [response_eq, toList_headOf]
    unfold answerHeaders
    generalize acceptKey key = accept at hkey ⊢
    simp only [List.flatMap_cons, List.flatMap_nil, List.length_append, headerLine,
      String.toList_append, hkey]
    decide
  have hbytes := Text.byteLength_le (response key)
  rw [maxHead]
  omega

section WellFormed

variable {e : Endpoint} {key : String}

theorem not_blank_hostHeader (hhost : ∀ c ∈ e.host.toList, Text.isBlank c = false) :
    ∀ c ∈ e.hostHeader.toList, Text.isBlank c = false := by
  intro c hc
  unfold Endpoint.hostHeader at hc
  split at hc
  · exact hhost c hc
  · simp only [String.toList_append, List.mem_append] at hc
    rcases hc with (hc | hc) | hc
    · exact hhost c hc
    · have hcolon : c = ':' := List.mem_singleton.mp hc
      rw [hcolon]
      decide
    · exact Text.not_blank_natDigits e.port c (by simpa [Text.ofNat] using hc)

theorem isHeader_fixedHeaders (hhost : ∀ c ∈ e.host.toList, Text.isBlank c = false)
    (hkey : ∀ c ∈ key.toList, Text.isBlank c = false) : ∀ h ∈ fixedHeaders e key, IsHeader h := by
  simp only [fixedHeaders, List.forall_mem_cons]
  exact ⟨.of_not_blank (by decide) (not_blank_hostHeader hhost), by decide, by decide,
    .of_not_blank (by decide) hkey, by decide, by simp⟩

theorem isHeader_answerHeaders (key : String) : ∀ h ∈ answerHeaders key, IsHeader h := by
  have haccept : ∀ c ∈ (acceptKey key).toList, Text.isBlank c = false := by
    rw [acceptKey_toList]
    exact Text.not_blank_base64Chars _
  unfold answerHeaders
  generalize acceptKey key = accept at haccept ⊢
  simp only [List.forall_mem_cons]
  exact ⟨by decide, by decide, .of_not_blank (by decide) haccept, by simp⟩

theorem isLine_requestLine {resource : String}
    (hresource : ∀ c ∈ resource.toList, Text.isBlank c = false) :
    IsLine (requestLine resource) := by
  -- The ends of a line are blank characters, and no part of the line holds one but for the two
  -- spaces.
  have hmem : ∀ c ∈ requestLine resource, c = '\r' ∨ c = '\n' → False := by
    intro c hc hend
    have hblank : Text.isBlank c = true := by
      rcases hend with rfl | rfl <;> decide
    have hget : c ∈ "GET".toList → Text.isBlank c = false :=
      Text.not_blank_of_all (by decide) c
    have hversion : c ∈ "HTTP/1.1".toList → Text.isBlank c = false :=
      Text.not_blank_of_all (by decide) c
    have hspace : c ≠ ' ' := by
      rcases hend with rfl | rfl <;> decide
    simp only [requestLine, List.mem_append, List.mem_cons, hspace, false_or] at hc
    rcases hc with hc | hc | hc
    · exact absurd (hget hc) (by simp [hblank])
    · exact absurd (hresource c hc) (by simp [hblank])
    · exact absurd (hversion hc) (by simp [hblank])
  exact {
    ne_nil := by simp [requestLine]
    no_return := fun hm => hmem _ hm (.inl rfl)
    no_newline := fun hm => hmem _ hm (.inr rfl) }

theorem isLine_answerLine : IsLine answerLine := ⟨by decide, by decide, by decide⟩

/-- The first header of a name is the one that counts. -/
theorem header?_append (before : List (String × String)) {k name : String}
    (hbefore : ∀ p ∈ before, Text.sameLetters p.1 name = false)
    (hk : Text.sameLetters k name = true) (v : String) (behind : List (String × String)) :
    header? name (before ++ (k, v) :: behind) = some v := by
  have hnone : before.find? (fun p => Text.sameLetters p.1 name) = none := by
    simpa using hbefore
  simp [header?, List.find?_append, hnone, hk]

theorem header?_fixedHeaders (e : Endpoint) (key : String) (headers : List (String × String)) :
    header? "sec-websocket-key" (fixedHeaders e key ++ headers) = some key := by
  apply header?_append [("Host", e.hostHeader), ("Upgrade", "websocket"),
    ("Connection", "Upgrade")]
  · simp only [List.forall_mem_cons, Text.sameLetters_eq]
    exact ⟨by decide, by decide, by decide, by simp⟩
  · rw [Text.sameLetters_eq]
    decide

theorem header?_answerHeaders (key : String) :
    header? "upgrade" (answerHeaders key) = some "websocket" ∧
      header? "sec-websocket-accept" (answerHeaders key) = some (acceptKey key) := by
  constructor
  · apply header?_append []
    · simp
    · rw [Text.sameLetters_eq]
      decide
  · apply header?_append [("Upgrade", "websocket"), ("Connection", "Upgrade")]
    · simp only [List.forall_mem_cons, Text.sameLetters_eq]
      exact ⟨by decide, by decide, by simp⟩
    · rw [Text.sameLetters_eq]
      decide

end WellFormed

/-- A request as the server reads it; behind it, nothing is touched. -/
theorem serve_request (e : Endpoint) (key : String) {headers : List (String × String)}
    (hhost : ∀ c ∈ e.host.toList, Text.isBlank c = false)
    (hresource : ∀ c ∈ e.resource.toList, Text.isBlank c = false)
    (hkey : ∀ c ∈ key.toList, Text.isBlank c = false) (hheaders : ∀ h ∈ headers, IsHeader h)
    (hsize : Text.byteLength (request e key headers) ≤ maxHead) (behind : Bytes) :
    serve (Text.utf8 (request e key headers) ++ behind) =
      (.ok (⟨((words (requestLine e.resource))[1]?.map String.ofList).getD "/",
        fixedHeaders e key ++ headers⟩, response key), behind) := by
  have hfirst := isLine_requestLine hresource
  have hall : ∀ h ∈ fixedHeaders e key ++ headers, IsHeader h :=
    List.forall_mem_append.mpr ⟨isHeader_fixedHeaders hhost hkey, hheaders⟩
  rw [request_eq] at hsize ⊢
  have hhead := readHead_headOf hfirst hall hsize behind
  have hheadersOf := headersOf_headOf hfirst hall
  have hword := secondWord_headOf hfirst hall
  unfold serve
  rw [hhead]
  simp only [UpgradeRequest.ofHead, hheadersOf, hword, UpgradeRequest.answer,
    UpgradeRequest.header?, header?_fixedHeaders, Except.map]

theorem words_requestLine {resource : String} (hne : resource ≠ "")
    (hresource : ∀ c ∈ resource.toList, Text.isBlank c = false) :
    words (requestLine resource) = ["GET".toList, resource.toList, "HTTP/1.1".toList] := by
  have hblank : Text.isBlank ' ' = true := by decide
  have hres : resource.toList ≠ [] := by simpa using hne
  rw [requestLine, words_append (by decide) (Text.not_blank_of_all (by decide)) hblank,
    words_append hres hresource hblank,
    words_of_not_blank (by decide) (Text.not_blank_of_all (by decide))]

theorem readHead_response (key : String) (behind : Bytes) :
    readHead (Text.utf8 (response key) ++ behind) = (.ok (response key), behind) := by
  have hsize := byteLength_response_le key
  rw [response_eq] at hsize ⊢
  exact readHead_headOf isLine_answerLine (isHeader_answerHeaders key) hsize behind

theorem checkResponse_response (key : String) : checkResponse (response key) key = .ok () := by
  have hall := isHeader_answerHeaders key
  have hheaders := headersOf_headOf isLine_answerLine hall
  have hstatus : (secondWord (headOf answerLine (answerHeaders key))).bind (Text.readBelow 65536) =
      some 101 := by
    rw [secondWord_headOf isLine_answerLine hall]
    decide
  obtain ⟨hupgrade, haccept⟩ := header?_answerHeaders key
  have hsame : Text.sameLetters "websocket" "websocket" = true := by
    rw [Text.sameLetters_eq]
    decide
  rw [response_eq, checkResponse]
  simp only [hstatus, hheaders, hupgrade, haccept, Option.getD_some, hsame]
  simp

/-- The two ends of the upgrade agree: the server finds the request's resource and all of its
headers and answers it, the client accepts the answer, and neither touches what comes behind. -/
theorem upgrade_agreed (e : Endpoint) (key : String) {headers : List (String × String)}
    (hhost : ∀ c ∈ e.host.toList, Text.isBlank c = false)
    (hresource : ∀ c ∈ e.resource.toList, Text.isBlank c = false) (hne : e.resource ≠ "")
    (hkey : ∀ c ∈ key.toList, Text.isBlank c = false) (hheaders : ∀ h ∈ headers, IsHeader h)
    (hsize : Text.byteLength (request e key headers) ≤ maxHead) (behind more : Bytes) :
    serve (Text.utf8 (request e key headers) ++ behind) =
        (.ok (⟨e.resource, [("Host", e.hostHeader), ("Upgrade", "websocket"),
          ("Connection", "Upgrade"), ("Sec-WebSocket-Key", key),
          ("Sec-WebSocket-Version", "13")] ++ headers⟩, response key), behind) ∧
      readHead (Text.utf8 (response key) ++ more) = (.ok (response key), more) ∧
      checkResponse (response key) key = .ok () := by
  have hserve := serve_request e key hhost hresource hkey hheaders hsize behind
  rw [words_requestLine hne hresource] at hserve
  simp only [List.getElem?_cons_succ, List.getElem?_cons_zero, Option.map_some,
    String.ofList_toList, Option.getD_some] at hserve
  exact ⟨hserve, readHead_response key more, checkResponse_response key⟩

/-- An extra header may even repeat the key's name, and frames may follow at once. -/
theorem upgrade_agreed_on_repeated_key :
    serve (Text.utf8 (request ⟨true, "[::1]", 8443, "/ws?v=2"⟩ "dGhlIHNhbXBsZQ=="
        [("sec-websocket-key", "other"), ("X-Note", "a: b")]) ++ [0x81, 0x00]) =
        (.ok (⟨"/ws?v=2", [("Host", "[::1]:8443"), ("Upgrade", "websocket"),
          ("Connection", "Upgrade"), ("Sec-WebSocket-Key", "dGhlIHNhbXBsZQ=="),
          ("Sec-WebSocket-Version", "13"), ("sec-websocket-key", "other"), ("X-Note", "a: b")]⟩,
          response "dGhlIHNhbXBsZQ=="), [0x81, 0x00]) ∧
      readHead (Text.utf8 (response "dGhlIHNhbXBsZQ==") ++ [0x81]) =
        (.ok (response "dGhlIHNhbXBsZQ=="), [0x81]) ∧
      checkResponse (response "dGhlIHNhbXBsZQ==") "dGhlIHNhbXBsZQ==" = .ok () := by
  have hport : (Endpoint.mk true "[::1]" 8443 "/ws?v=2").hostHeader = "[::1]:8443" := by decide
  have hheaders : ∀ h ∈ [("sec-websocket-key", "other"), ("X-Note", "a: b")], IsHeader h := by
    simp only [List.forall_mem_cons]
    exact ⟨by decide, by decide, by simp⟩
  have hsize : Text.byteLength (request ⟨true, "[::1]", 8443, "/ws?v=2"⟩ "dGhlIHNhbXBsZQ=="
      [("sec-websocket-key", "other"), ("X-Note", "a: b")]) ≤ maxHead := by
    rw [request_eq, headOf, Text.byteLength, Text.utf8, String.toList_ofList]
    decide +kernel
  have h := upgrade_agreed ⟨true, "[::1]", 8443, "/ws?v=2"⟩ "dGhlIHNhbXBsZQ=="
    (Text.not_blank_of_all (by decide)) (Text.not_blank_of_all (by decide)) (by decide)
    (Text.not_blank_of_all (by decide)) hheaders hsize [0x81, 0x00] [0x81]
  rw [hport] at h
  exact h

/-- Without a resource the request's first line has two words, and the second is the protocol. -/
theorem serve_without_resource :
    Text.byteLength (request ⟨false, "h", 80, ""⟩ "k" []) ≤ maxHead ∧
      (∀ c ∈ "h".toList, Text.isBlank c = false) ∧ (∀ c ∈ "".toList, Text.isBlank c = false) ∧
      (∀ c ∈ "k".toList, Text.isBlank c = false) ∧
      serve (Text.utf8 (request ⟨false, "h", 80, ""⟩ "k" [])) =
        (.ok (⟨"HTTP/1.1", fixedHeaders ⟨false, "h", 80, ""⟩ "k"⟩, response "k"), []) ∧
      "HTTP/1.1" ≠ (Endpoint.mk false "h" 80 "").resource := by
  have hsize : Text.byteLength (request ⟨false, "h", 80, ""⟩ "k" []) ≤ maxHead := by
    rw [request_eq, headOf, Text.byteLength, Text.utf8, String.toList_ofList]
    decide +kernel
  have hhost : ∀ c ∈ "h".toList, Text.isBlank c = false := Text.not_blank_of_all (by decide)
  have hresource : ∀ c ∈ "".toList, Text.isBlank c = false := Text.not_blank_of_all (by decide)
  have hkey : ∀ c ∈ "k".toList, Text.isBlank c = false := Text.not_blank_of_all (by decide)
  have hserve := serve_request ⟨false, "h", 80, ""⟩ "k" hhost hresource hkey (by simp) hsize []
  have hword : ((words (requestLine ""))[1]?.map String.ofList).getD "/" = "HTTP/1.1" := by decide
  rw [List.append_nil, List.append_nil, hword] at hserve
  exact ⟨hsize, hhost, hresource, hkey, hserve, by decide⟩

end VenueGateway.Handshake
