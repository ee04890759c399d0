import VenueGateway.Proofs.Text.Pieces
import VenueGateway.WebSocket.Endpoint

namespace VenueGateway.Endpoint

/-- What holds of every endpoint that was read. -/
structure IsRead (e : Endpoint) : Prop where
  port_lt : e.port < 65536
  host_ne : e.host.toList ≠ []
  host_chars : ∀ c ∈ e.host.toList, c ≠ '/' ∧ c ≠ '?'
  bracket : e.host.toList.head? = some '[' → ']' ∉ e.host.toList
  resource : e.resource.toList.head? = some '/'

theorem readPort_eq_ok {cs : List Char} {port : Nat} (h : readPort cs = .ok port) :
    port < 65536 := by
  unfold readPort at h
  split at h
  · next hport =>
    cases h
    exact Text.lt_of_readBelow hport
  · cases h

theorem readPort_natDigits {port : Nat} (h : port < 65536) :
    readPort (Text.natDigits port) = .ok port := by
  rw [readPort, Text.readBelow_natDigits h]

theorem defaultPort_lt (secure : Bool) : defaultPort secure < 65536 := by
  cases secure <;> decide

/-- A host with a port behind it. -/
theorem map_readPort_eq_ok {host cs host' : List Char} {port : Nat}
    (h : (readPort cs).map (fun p => (host, p)) = .ok (host', port)) :
    host' = host ∧ readPort cs = .ok port := by
  cases hport : readPort cs with
  | error e =>
    rw [hport] at h
    cases h
  | ok p =>
    rw [hport] at h
    cases h
    exact ⟨rfl, rfl⟩

theorem readAuthority_bracket (secure : Bool) (cs : List Char) :
    readAuthority secure ('[' :: cs) =
      match Text.splitOnce ']' cs with
      | none => .error "unterminated ipv6 literal"
      | some (host, ':' :: port) => (readPort port).map fun p => (host, p)
      | some (host, _) => .ok (host, defaultPort secure) := rfl

theorem readAuthority_plain (secure : Bool) {cs : List Char} (h : cs.head? ≠ some '[') :
    readAuthority secure cs =
      match Text.splitLast ':' cs with
      | some (host, port) => (readPort port).map fun p => (host, p)
      | none => .ok (cs, defaultPort secure) := by
  unfold readAuthority
  split
  · exact absurd rfl h
  · rfl

/-- A host is a part of what it is read from; if it begins with a bracket, none closes it. -/
theorem readAuthority_eq_ok {secure : Bool} {cs host : List Char} {port : Nat}
    (h : readAuthority secure cs = .ok (host, port)) :
    port < 65536 ∧ host ⊆ cs ∧ (host.head? = some '[' → ']' ∉ host) := by
  -- A host in brackets ends at the bracket; any other one ends at the last colon or takes the whole
  -- authority.
  by_cases hbracket : cs.head? = some '['
  · obtain ⟨rest, rfl⟩ := List.head?_eq_some_iff.mp hbracket
    rw [readAuthority_bracket] at h
    cases hsplit : Text.splitOnce ']' rest with
    | none =>
      rw [hsplit] at h
      cases h
    | some parts =>
      obtain ⟨inside, tail⟩ := parts
      obtain ⟨hclosed, rfl⟩ := Text.splitOnce_eq_some hsplit
      have hinside : inside ⊆ '[' :: (inside ++ ']' :: tail) := by
        intro c hc
        simp [hc]
      rw [hsplit] at h
      split at h
      · cases h
      · next hparts =>
        cases hparts
        obtain ⟨rfl, hport⟩ := map_readPort_eq_ok h
        exact ⟨readPort_eq_ok hport, hinside, fun _ => hclosed⟩
      · next hparts =>
        cases hparts
        cases h
        exact ⟨defaultPort_lt secure, hinside, fun _ => hclosed⟩
  · rw [readAuthority_plain secure hbracket] at h
    cases hsplit : Text.splitLast ':' cs with
    | none =>
      rw [hsplit] at h
      cases h
      exact ⟨defaultPort_lt secure, List.Subset.refl _, fun hb => absurd hb hbracket⟩
    | some parts =>
      obtain ⟨before, digits⟩ := parts
      obtain ⟨-, rfl⟩ := Text.splitLast_eq_some hsplit
      rw [hsplit] at h
      obtain ⟨rfl, hport⟩ := map_readPort_eq_ok h
      refine ⟨readPort_eq_ok hport, List.subset_append_left _ _, fun hb => ?_⟩
      obtain ⟨rest, hrest⟩ := List.head?_eq_some_iff.mp hb
      exact absurd (by rw [hrest]; rfl) hbracket

/-- Whether an authority goes on with a character. -/
def isInAuthority (c : Char) : Bool := c != '/' && c != '?'

theorem readAfterScheme_eq (secure : Bool) (cs : List Char) :
    readAfterScheme secure cs =
      match readAuthority secure (cs.takeWhile isInAuthority) with
      | .error reason => .error reason
      | .ok (host, port) =>
        if host.isEmpty then .error "empty host"
        else .ok ⟨secure, String.ofList host, port,
          String.ofList (resourceOf (cs.dropWhile isInAuthority))⟩ := by
  unfold readAfterScheme
  rw [List.span_eq_takeWhile_dropWhile]
  show Except.bind (readAuthority secure (cs.takeWhile isInAuthority)) _ = _
  cases readAuthority secure (cs.takeWhile isInAuthority) <;> rfl

theorem head?_resourceOf_dropWhile (cs : List Char) :
    (resourceOf (cs.dropWhile isInAuthority)).head? = some '/' := by
  cases hd : cs.dropWhile isInAuthority with
  | nil => rfl
  | cons c rest =>
    have hc : isInAuthority c = false := by
      have hhead := List.head_dropWhile_not isInAuthority (l := cs) (by simp [hd])
      simpa [hd] using hhead
    by_cases hslash : c = '/'
    · subst hslash
      rfl
    · have hquery : c = '?' := by simpa [isInAuthority, hslash] using hc
      subst hquery
      rfl

theorem isRead_of_readAfterScheme {secure : Bool} {cs : List Char} {e : Endpoint}
    (h : readAfterScheme secure cs = .ok e) : e.IsRead := by
  rw [readAfterScheme_eq] at h
  -- What is read was cut out of the authority, which ends before the resource begins.
  split at h
  · cases h
  · next host port hauthority =>
    obtain ⟨hport, hhost, hbracket⟩ := readAuthority_eq_ok hauthority
    split_ifs at h with hempty
    cases h
    refine ⟨hport, ?_, ?_, ?_, ?_⟩
    · simpa using hempty
    · rw [String.toList_ofList]
      intro c hc
      have hin := List.mem_takeWhile_imp (hhost hc)
      simpa [isInAuthority] using hin
    · rwa [String.toList_ofList]
    · rw [String.toList_ofList]
      exact head?_resourceOf_dropWhile cs

theorem read_eq_ok_iff {url : String} {e : Endpoint} :
    read url = .ok e ↔ readChars url.toList = .ok e := by
  unfold read
  cases readChars url.toList <;> simp

theorem isRead_of_read {url : String} {e : Endpoint} (h : read url = .ok e) : e.IsRead := by
  rw [read_eq_ok_iff] at h
  unfold readChars at h
  split at h
  · exact isRead_of_readAfterScheme h
  · exact isRead_of_readAfterScheme h
  · cases h

/-- Host and port as they are written. -/
def authority (e : Endpoint) : List Char :=
  if e.port = defaultPort e.secure then e.host.toList
  else e.host.toList ++ ':' :: Text.natDigits e.port

theorem readChars_text (e : Endpoint) :
    readChars e.text.toList = readAfterScheme e.secure (e.authority ++ e.resource.toList) := by
  have hauthority : e.hostHeader.toList = e.authority := by
    unfold hostHeader authority
    split_ifs
    · rfl
    · simp [Text.ofNat]
  cases hs : e.secure <;> simp [text, hs, hauthority, readChars, Text.dropStart?]

theorem isInAuthority_authority {e : Endpoint} (h : e.IsRead) :
    ∀ c ∈ e.authority, isInAuthority c = true := by
  have hhost : ∀ c ∈ e.host.toList, isInAuthority c = true := by
    intro c hc
    simpa [isInAuthority] using h.host_chars c hc
  have hdigits : ∀ c ∈ Text.natDigits e.port, isInAuthority c = true := by
    intro c hc
    have hdigit := Text.isDigit_of_mem_natDigits c hc
    have hne : c ≠ '/' ∧ c ≠ '?' := by
      constructor <;> (rintro rfl; exact absurd hdigit (by decide))
    simpa [isInAuthority] using hne
  unfold authority
  split_ifs
  · exact hhost
  · exact List.forall_mem_append.mpr ⟨hhost, List.forall_mem_cons.mpr ⟨by decide, hdigits⟩⟩

/-- The resource begins where the authority ends, so that it is the authority that decides. -/
theorem readAfterScheme_authority_iff {e : Endpoint} (h : e.IsRead) :
    readAfterScheme e.secure (e.authority ++ e.resource.toList) = .ok e ↔
      readAuthority e.secure e.authority = .ok (e.host.toList, e.port) := by
  obtain ⟨path, hpath⟩ := List.head?_eq_some_iff.mp h.resource
  have hin := isInAuthority_authority h
  have hslash : isInAuthority '/' = false := by decide
  -- The authority holds none of the marks that end it, and the resource begins with one.
  have htake : (e.authority ++ e.resource.toList).takeWhile isInAuthority = e.authority := by
    rw [List.takeWhile_append_of_pos hin, hpath, List.takeWhile_cons_of_neg (by simp [hslash]),
      List.append_nil]
  have hdrop : (e.authority ++ e.resource.toList).dropWhile isInAuthority = e.resource.toList := by
    rw [List.dropWhile_append_of_pos hin, hpath, List.dropWhile_cons_of_neg (by simp [hslash])]
  have hresource : resourceOf e.resource.toList = e.resource.toList := by
    rw [hpath]
    rfl
  rw [readAfterScheme_eq, htake, hdrop, hresource, String.ofList_toList]
  constructor
  · intro hread
    split at hread
    · cases hread
    · next host port hauthority =>
      split_ifs at hread
      rw [hauthority, ← Except.ok.inj hread, String.toList_ofList]
  · intro hread
    rw [hread]
    simp [h.host_ne]

theorem readAuthority_of_bracket {secure : Bool} {cs : List Char} (hbracket : cs.head? = some '[')
    (hopen : ']' ∉ cs) : readAuthority secure cs = .error "unterminated ipv6 literal" := by
  obtain ⟨rest, rfl⟩ := List.head?_eq_some_iff.mp hbracket
  have hrest : ']' ∉ rest := fun hmem => hopen (List.mem_cons_of_mem _ hmem)
  rw [readAuthority_bracket, Text.splitOnce_of_not_mem hrest]

/-- Host and port are found again if neither a bracket nor a colon in the host misleads the reader:
a colon does not, if a port stands behind it. -/
theorem readAuthority_authority_iff {e : Endpoint} (h : e.IsRead) :
    readAuthority e.secure e.authority = .ok (e.host.toList, e.port) ↔
      e.host.toList.head? ≠ some '[' ∧ (':' ∈ e.host.toList → e.port ≠ defaultPort e.secure) := by
  have hcolon : ∀ c ∈ Text.natDigits e.port, c ≠ ':' ∧ c ≠ ']' := by
    intro c hc
    have hdigit := Text.isDigit_of_mem_natDigits c hc
    constructor <;> (rintro rfl; exact absurd hdigit (by decide))
  obtain ⟨first, rest, hhost⟩ := List.exists_cons_of_ne_nil h.host_ne
  have hhead : e.authority.head? = e.host.toList.head? := by
    unfold authority
    split_ifs <;> simp [hhost]
  by_cases hbracket : e.host.toList.head? = some '['
  · have hopen : ']' ∉ e.authority := by
      have hclosed := h.bracket hbracket
      unfold authority
      split_ifs
      · exact hclosed
      · intro hmem
        rcases List.mem_append.mp hmem with hmem | hmem
        · exact hclosed hmem
        · rcases List.mem_cons.mp hmem with heq | hmem
          · exact absurd heq (by decide)
          · exact (hcolon _ hmem).2 rfl
    rw [readAuthority_of_bracket (hhead.trans hbracket) hopen]
    simp [hbracket]
  · rw [readAuthority_plain _ (by rwa [hhead])]
    unfold authority
    by_cases hport : e.port = defaultPort e.secure
    · rw [if_pos hport]
      cases hsplit : Text.splitLast ':' e.host.toList with
      | none =>
        have hmem := Text.splitLast_eq_none_iff.mp hsplit
        simp [hbracket, hmem, hport]
      | some parts =>
        -- The last part of the host is taken for a port, and the host comes out shorter.
        obtain ⟨before, behind⟩ := parts
        obtain ⟨-, hparts⟩ := Text.splitLast_eq_some hsplit
        have hmem : ':' ∈ e.host.toList := by simp [hparts]
        have hshort : e.host.toList ≠ before := by
          intro heq
          have hlength := congrArg List.length hparts
          simp [heq] at hlength
        constructor
        · intro hread
          exact absurd (map_readPort_eq_ok hread).1 hshort
        · intro hplain
          exact absurd hport (hplain.2 hmem)
    · have hdigits : ':' ∉ Text.natDigits e.port := fun hmem => (hcolon _ hmem).1 rfl
      rw [if_neg hport, Text.splitLast_append hdigits]
      simp [readPort_natDigits h.port_lt, Except.map, hbracket, hport]

/-- An endpoint that was read from a URL is read from its own text again, unless its host begins
with a bracket or is an address with colons whose port is left out. -/
theorem read_text_iff {url : String} {e : Endpoint} (h : read url = .ok e) :
    read e.text = .ok e ↔
      e.host.toList.head? ≠ some '[' ∧ (':' ∈ e.host.toList → e.port ≠ defaultPort e.secure) := by
  have hread := isRead_of_read h
  rw [read_eq_ok_iff, readChars_text, readAfterScheme_authority_iff hread,
    readAuthority_authority_iff hread]

/-- An address is written without its brackets; a port behind it keeps it whole. -/
theorem read_text_iff_address :
    let e : Endpoint := ⟨true, "2001:db8::1", 8443, "/?v=2"⟩
    read "wss://[2001:db8::1]:8443?v=2" = .ok e ∧ e.text = "wss://2001:db8::1:8443/?v=2" ∧
      read e.text = .ok e := by
  intro e
  have hread : read "wss://[2001:db8::1]:8443?v=2" = .ok e := by decide
  have hport : ':' ∈ e.host.toList → e.port ≠ defaultPort e.secure := fun _ => by decide
  exact ⟨hread, by decide, (read_text_iff hread).mpr ⟨by decide, hport⟩⟩

/-- Without a port, the last part of an address is read as one. -/
theorem address_read_as_port :
    let e : Endpoint := ⟨false, "::1", 80, "/feed"⟩
    read "ws://[::1]/feed" = .ok e ∧ e.text = "ws://::1/feed" ∧
      read e.text = .ok ⟨false, ":", 1, "/feed"⟩ ∧ read e.text ≠ .ok e := by
  decide

end VenueGateway.Endpoint
