import VenueGateway.Proofs.Rest.Signing
import VenueGateway.Proofs.Text.Pieces

namespace VenueGateway

namespace Http

/-- A URL that is a scheme and an authority, with nothing behind them. -/
def IsOrigin (base : String) : Prop :=
  ∃ scheme authority : List Char, base.toList = scheme ++ ':' :: '/' :: '/' :: authority ∧
    (∀ c ∈ scheme, Url.isSchemeChar c = true) ∧ ∀ c ∈ authority, c ≠ '/' ∧ c ≠ '?' ∧ c ≠ '#'

/-- What a request line names of a URL: path and query, up to the fragment. -/
def pathAndQuery (url : String) : String :=
  target (String.ofList (url.toList.takeWhile (· != '#')))

theorem afterScheme_append {scheme : List Char} (h : ':' ∉ scheme) (rest : List Char) :
    afterScheme (scheme ++ ':' :: '/' :: '/' :: rest) = rest := by
  induction scheme with
  | nil => rfl
  | cons c cs ih =>
    have hc : c ≠ ':' := fun he => h (by simp [he])
    rw [List.cons_append, afterScheme]
    · exact ih fun hm => h (List.mem_cons_of_mem _ hm)
    · intro tail he
      exact absurd he hc

variable {base path query : String}

theorem IsOrigin.not_mem (h : IsOrigin base) : '?' ∉ base.toList ∧ '#' ∉ base.toList := by
  obtain ⟨scheme, authority, hbase, hscheme, hauthority⟩ := h
  have hout : ∀ c, Url.isSchemeChar c = false → c ∉ scheme := by
    intro c hc hmem
    rw [hscheme c hmem] at hc
    contradiction
  -- Neither mark may stand in a scheme or in an authority.
  rw [hbase]
  constructor
  · intro hmem
    rcases List.mem_append.mp hmem with hmem | hmem
    · exact hout '?' (by decide) hmem
    · have hin : '?' ∈ authority := by simpa using hmem
      exact (hauthority '?' hin).2.1 rfl
  · intro hmem
    rcases List.mem_append.mp hmem with hmem | hmem
    · exact hout '#' (by decide) hmem
    · have hin : '#' ∈ authority := by simpa using hmem
      exact (hauthority '#' hin).2.2 rfl

theorem isOrigin_deribit : IsOrigin "https://www.deribit.com" := by
  have hscheme : "https".toList.all Url.isSchemeChar = true := by decide
  have hauthority : ("www.deribit.com".toList.all fun c => c != '/' && c != '?' && c != '#') =
      true := by decide
  refine ⟨"https".toList, "www.deribit.com".toList, by decide, List.all_eq_true.mp hscheme,
    fun c hc => ?_⟩
  simpa [and_assoc] using List.all_eq_true.mp hauthority c hc

/-- Behind an origin, all that is left of a URL is its path, its query and its fragment. -/
theorem pathAndQuery_append (hb : IsOrigin base) {tail : List Char} (ht : tail.head? = some '/') :
    pathAndQuery (String.ofList (base.toList ++ tail)) =
      String.ofList (tail.takeWhile (· != '#')) := by
  have hnot := hb.not_mem.2
  obtain ⟨scheme, authority, hbase, hscheme, hauthority⟩ := hb
  obtain ⟨rest, rfl⟩ := List.head?_eq_some_iff.mp ht
  have hcolon : ':' ∉ scheme := by
    intro hmem
    exact absurd (hscheme ':' hmem) (by decide)
  have hin : ∀ c ∈ authority, isAuthority c = true := by
    intro c hc
    obtain ⟨hslash, hquery, -⟩ := hauthority c hc
    simp [isAuthority, hslash, hquery]
  have hslash : isAuthority '/' = false := by decide
  -- The fragment goes first, from the whole URL, and the origin holds no mark of one.
  have hcut : (base.toList ++ '/' :: rest).takeWhile (· != '#') =
      scheme ++ ':' :: '/' :: '/' :: (authority ++ '/' :: rest.takeWhile (· != '#')) := by
    rw [List.takeWhile_append_of_pos (Text.bne_of_not_mem hnot), hbase,
      List.takeWhile_cons_of_pos (by decide)]
    simp
  rw [pathAndQuery, String.toList_ofList, hcut, target, String.toList_ofList,
    afterScheme_append hcolon, List.dropWhile_append_of_pos hin,
    List.dropWhile_cons_of_neg (by simp [hslash]), List.takeWhile_cons_of_pos (by decide)]
  rfl

theorem isAbsolute_of_slash (hp : path.toList.head? = some '/') : isAbsolute path = false := by
  obtain ⟨rest, hpath⟩ := List.head?_eq_some_iff.mp hp
  have hno : ∀ scheme : String, scheme.toList.head? = some 'h' →
      path.startsWith scheme = false := by
    intro scheme hs
    obtain ⟨more, hscheme⟩ := List.head?_eq_some_iff.mp hs
    rw [Bool.eq_false_iff]
    intro hstart
    rw [String.startsWith_string_iff, hscheme, hpath, List.cons_prefix_cons] at hstart
    exact absurd hstart.1 (by decide)
  simp [isAbsolute, hno "http://" rfl, hno "https://" rfl]

theorem pathAndQuery_urlFor_nil (hb : IsOrigin base) (hp : path.toList.head? = some '/') :
    pathAndQuery (urlFor base path "") = String.ofList (path.toList.takeWhile (· != '#')) := by
  have hurl : urlFor base path "" = String.ofList (base.toList ++ path.toList) := by
    simp [urlFor, isAbsolute_of_slash hp, String.ofList_append]
  rw [hurl, pathAndQuery_append hb hp]

theorem pathAndQuery_urlFor (hb : IsOrigin base) (hp : path.toList.head? = some '/')
    (hq : query ≠ "") :
    pathAndQuery (urlFor base path query) = String.ofList
      ((path.toList ++ (if '?' ∈ path.toList then '&' else '?') :: query.toList).takeWhile
        (· != '#')) := by
  have hmark : '?' ∈ (base ++ path).toList ↔ '?' ∈ path.toList := by
    simp [hb.not_mem.1]
  have hempty : query.isEmpty = false := by simpa using hq
  have hurl : urlFor base path query = String.ofList (base.toList ++
      (path.toList ++ (if '?' ∈ path.toList then '&' else '?') :: query.toList)) := by
    rw [← String.toList_inj, String.toList_ofList]
    by_cases h : '?' ∈ path.toList
    · simp [urlFor, isAbsolute_of_slash hp, hempty, h]
    · simp [urlFor, isAbsolute_of_slash hp, hempty, h, hb.not_mem.1]
  obtain ⟨rest, hpath⟩ := List.head?_eq_some_iff.mp hp
  rw [hurl, pathAndQuery_append hb (by rw [hpath]; rfl)]

/-- Up to the fragment, a text without one is all there. -/
theorem takeWhile_eq_self_iff {cs : List Char} : cs.takeWhile (· != '#') = cs ↔ '#' ∉ cs := by
  rw [List.takeWhile_eq_self_iff]
  constructor
  · intro h hmem
    exact absurd (h '#' hmem) (by decide)
  · exact Text.bne_of_not_mem

/-- What is called is what is signed, if the path has no fragment and no query to be added to. -/
theorem pathAndQuery_urlFor_eq_iff (hb : IsOrigin base) (hp : path.toList.head? = some '/')
    (hq : '#' ∉ query.toList) :
    pathAndQuery (urlFor base path query) = signedTarget path query ↔
      '#' ∉ path.toList ∧ (query = "" ∨ '?' ∉ path.toList) := by
  by_cases hempty : query = ""
  · subst hempty
    have hsigned : signedTarget path "" = path := rfl
    rw [pathAndQuery_urlFor_nil hb hp, hsigned, ← String.toList_inj, String.toList_ofList,
      takeWhile_eq_self_iff]
    simp
  · have hne : query.isEmpty = false := by simpa using hempty
    have hsigned : (signedTarget path query).toList = path.toList ++ '?' :: query.toList := by
      simp [signedTarget, hne]
    rw [pathAndQuery_urlFor hb hp hempty, ← String.toList_inj, String.toList_ofList, hsigned]
    constructor
    · intro heq
      -- What is called has no fragment, so that what is signed has none either.
      have hfragment : '#' ∉ path.toList ++ '?' :: query.toList := by
        rw [← heq]
        intro hmem
        exact absurd (List.mem_takeWhile_imp hmem) (by decide)
      have hpath : '#' ∉ path.toList := fun hmem => hfragment (List.mem_append_left _ hmem)
      refine ⟨hpath, Or.inr fun hquery => ?_⟩
      rw [if_pos hquery, takeWhile_eq_self_iff.mpr (by simp [hpath, hq])] at heq
      have hmarks := List.append_cancel_left heq
      exact absurd (List.cons.inj hmarks).1 (by decide)
    · rintro ⟨hpath, hquery⟩
      rw [if_neg (hquery.resolve_left hempty), takeWhile_eq_self_iff.mpr (by simp [hpath, hq])]

end Http

namespace RestClient

variable {c : RestClient} {q : RestQuery} {key secret : String}

theorem prepare_deribit (hd : c.dialect = .deribit) (hc : c.credentials = .apiKey key secret)
    (hs : q.signed = true) (stamp : CallStamp) :
    ∃ request, c.prepare q stamp = .ok request ∧
      request.url = Http.urlFor c.base q.path (Text.encodeQuery q.params) ∧
      ("Authorization", authorization key secret
        ⟨q, q.body.map Json.text, stamp.timestampMs, stamp.nonce⟩
        (signedTarget q.path (Text.encodeQuery q.params))) ∈ request.headers := by
  have hsign : c.dialect.sign c.credentials
      ⟨q, q.body.map Json.text, stamp.timestampMs, stamp.nonce⟩ =
      .ok ⟨[("Authorization", authorization key secret
        ⟨q, q.body.map Json.text, stamp.timestampMs, stamp.nonce⟩
        (signedTarget q.path (Text.encodeQuery q.params)))],
        Text.encodeQuery q.params, q.body.map Json.text⟩ := by
    simp [Dialect.sign, hd, hc, hs]
  rw [prepare, hsign]
  exact ⟨_, rfl, rfl, by simp⟩

/-- The target that a call to Deribit signs, as one of the lines of its digest, is the path and the
query of its URL just if the path has no fragment, and no query that parameters are added to. -/
theorem target_signed_unless_query_added (hb : Http.IsOrigin c.base)
    (hp : q.path.toList.head? = some '/') (hd : c.dialect = .deribit)
    (hc : c.credentials = .apiKey key secret) (hs : q.signed = true) (stamp : CallStamp) :
    let target := signedTarget q.path (Text.encodeQuery q.params)
    ∃ request,
      c.prepare q stamp = .ok request ∧
      ("Authorization", "deri-hmac-sha256 id=" ++ key ++ ",ts=" ++ Text.ofInt stamp.timestampMs ++
        ",sig=" ++ Text.hexOf (Digest.hmacSha256 (Text.utf8 secret) (Text.utf8
          (requestDigest stamp.timestampMs stamp.nonce q.method target
            ((q.body.map Json.text).getD "")))) ++
        ",nonce=" ++ stamp.nonce) ∈ request.headers ∧
      (Http.pathAndQuery request.url = target ↔
        '#' ∉ q.path.toList ∧ (q.params = [] ∨ '?' ∉ q.path.toList)) := by
  obtain ⟨request, hprepare, hurl, hheader⟩ := prepare_deribit hd hc hs stamp
  have hquery : '#' ∉ (Text.encodeQuery q.params).toList :=
    Text.not_mem_encodeQuery (by decide) (by decide) (by decide) (by decide) q.params
  refine ⟨request, hprepare, hheader, ?_⟩
  rw [hurl, Http.pathAndQuery_urlFor_eq_iff hb hp hquery, encodeQuery_eq_empty]

/-- Parameters with reserved and with wide characters, and a path without a query. -/
theorem target_signed_unless_query_added_reserved :
    let c : RestClient := ⟨.deribit, "https://www.deribit.com", .apiKey "id" "clé", none⟩
    let q : RestQuery := ⟨.get, "/api/v2/private/get_positions",
      [("currency", "any"), ("größe", "a&b?c#d")], none, true⟩
    let target := "/api/v2/private/get_positions?currency=any&gr%C3%B6%C3%9Fe=a%26b%3Fc%23d"
    Http.IsOrigin c.base ∧ q.path.toList.head? = some '/' ∧ c.dialect = .deribit ∧
    c.credentials = .apiKey "id" "clé" ∧ q.signed = true ∧
    ∃ request,
      c.prepare q ⟨1000, "abc"⟩ = .ok request ∧
      ("Authorization", authorization "id" "clé" ⟨q, none, 1000, "abc"⟩ target) ∈
        request.headers ∧
      Http.pathAndQuery request.url = target := by
  intro c q target
  have hb : Http.IsOrigin c.base := Http.isOrigin_deribit
  have hp : q.path.toList.head? = some '/' := by decide
  have htarget : signedTarget q.path (Text.encodeQuery q.params) = target := by decide +kernel
  obtain ⟨request, hprepare, hheader, hcalled⟩ :=
    target_signed_unless_query_added hb hp rfl rfl rfl ⟨1000, "abc"⟩
  rw [htarget] at hheader hcalled
  exact ⟨hb, hp, rfl, rfl, rfl, request, hprepare, hheader,
    hcalled.mpr ⟨by decide, Or.inr (by decide)⟩⟩

/-- A path with a query, and a parameter added to it: two question marks are signed, and one is
called. -/
theorem added_parameter_signed_apart :
    let c : RestClient := ⟨.deribit, "https://www.deribit.com", .apiKey "id" "secret", none⟩
    let q : RestQuery := ⟨.get, "/api/v2/private/get_positions?currency=any",
      [("kind", "future")], none, true⟩
    ∃ request,
      c.prepare q ⟨1000, "abc"⟩ = .ok request ∧
      Http.pathAndQuery request.url =
        "/api/v2/private/get_positions?currency=any&kind=future" ∧
      ("Authorization", authorization "id" "secret" ⟨q, none, 1000, "abc"⟩
        "/api/v2/private/get_positions?currency=any?kind=future") ∈ request.headers := by
  intro c q
  have hb : Http.IsOrigin c.base := Http.isOrigin_deribit
  have hquery : Text.encodeQuery q.params = "kind=future" := by decide +kernel
  obtain ⟨request, hprepare, hurl, hheader⟩ :=
    prepare_deribit (c := c) (q := q) rfl rfl rfl ⟨1000, "abc"⟩
  rw [hquery] at hurl hheader
  refine ⟨request, hprepare, ?_, hheader⟩
  rw [hurl, Http.pathAndQuery_urlFor hb (by decide) (by decide)]
  decide

end RestClient

end VenueGateway
