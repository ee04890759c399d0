import VenueGateway.Dialect.Login
import VenueGateway.Proofs.Json.Spelling
import VenueGateway.Proofs.Text.Pieces

namespace VenueGateway.Dialect

/-- The word that a text is searched for. -/
def testWord : List Char := "test_request".toList

/-- The text is JSON, a heartbeat, and of the type that asks for an answer. -/
def RequestsTest (text : String) : Prop :=
  ∃ j, Json.read text = some j ∧ j.field? "method" = some (.string "heartbeat") ∧
    j.path? ["params", "type"] = some (.string "test_request")

theorem bind_string?_beq_iff (j : Option Json) (s : String) :
    (j.bind Json.string? == some s) = true ↔ j = some (.string s) := by
  rw [beq_iff_eq, Option.bind_eq_some_iff]
  constructor
  · rintro ⟨v, rfl, hv⟩
    cases v with
    | string t => rw [Option.some.inj hv]
    | null | bool | number | array | object => cases hv
  · intro h
    exact ⟨_, h, rfl⟩

theorem requestsTest_iff (text : String) :
    RequestsTest text ↔ (Json.read text).any isTestRequest := by
  rw [Option.any_eq_true]
  apply exists_congr
  intro j
  apply and_congr_right
  intro _
  rw [isTestRequest, Bool.and_eq_true, bind_string?_beq_iff, bind_string?_beq_iff]

theorem plain_of_mem_testWord {c : Char} (hc : c ∈ testWord) : Json.Plain c := by
  have hall : (testWord.all fun c => c.toNat < 0x10000 &&
      c ∉ ['"', '\\', '/', Char.ofNat 8, Char.ofNat 12, '\n', '\r', '\t']) = true := by decide
  have hletter := List.all_eq_true.mp hall c hc
  rw [Bool.and_eq_true, decide_eq_true_iff, decide_eq_true_iff] at hletter
  refine ⟨hletter.1, fun e he => hletter.2 ?_⟩
  unfold Json.escaped? at he
  split at he <;> cases he <;> decide

/-- The name of the type stands in the text as it is, or not in letters alone. -/
theorem RequestsTest.occurs_or_numbered {text : String} (h : RequestsTest text) :
    testWord <:+: text.toList ∨ Json.NumberedIn text.toList testWord := by
  obtain ⟨j, hread, -, htype⟩ := h
  cases (Json.read_within hread).path? htype with
  | string hspelled =>
    obtain ⟨src, hsrc, hspells⟩ := hspelled
    have hinfix : src <:+: text.toList :=
      (List.infix_append ['"'] src ['"']).trans hsrc
    rcases hspells.eq_or_numbered fun c hc => plain_of_mem_testWord hc with heq | hnumbered
    · rw [heq] at hinfix
      exact .inl hinfix
    · exact .inr (hnumbered.of_isInfix hinfix (List.Subset.refl _))

theorem heartbeatReply?_deribit (text : String) :
    heartbeatReply? .deribit text =
      if Text.occursIn testWord text.toList then
        ((Json.read text).filter isTestRequest).map fun _ => testFrame 0
      else none := by
  change (if (!Text.occursIn testWord text.toList) = true then none else _) = _
  cases Text.occursIn testWord text.toList <;> rfl

theorem heartbeatReply?_eq_some_iff (text reply : String) :
    heartbeatReply? .deribit text = some reply ↔
      reply = testFrame 0 ∧ RequestsTest text ∧ testWord <:+: text.toList := by
  rw [heartbeatReply?_deribit, ← Text.occursIn_iff, requestsTest_iff, Option.any_eq_true]
  constructor
  · intro h
    rw [Option.ite_none_right_eq_some] at h
    obtain ⟨hword, h⟩ := h
    obtain ⟨j, hj, rfl⟩ := Option.map_eq_some_iff.mp h
    obtain ⟨hread, hrequest⟩ := Option.filter_eq_some_iff.mp hj
    exact ⟨rfl, ⟨j, hread, hrequest⟩, hword⟩
  · rintro ⟨rfl, ⟨j, hread, hrequest⟩, hword⟩
    rw [if_pos hword, hread, Option.filter_some, if_pos hrequest]
    rfl

/-- Answers go to requests only, and to every request whose type is not written by numbers. -/
theorem heartbeat_answered_unless_numbered (text : String) :
    (∀ reply, heartbeatReply? .deribit text = some reply ↔
      reply = testFrame 0 ∧ RequestsTest text ∧ testWord <:+: text.toList) ∧
    (RequestsTest text →
      heartbeatReply? .deribit text = some (testFrame 0) ∨
        Json.NumberedIn text.toList testWord) := by
  refine ⟨heartbeatReply?_eq_some_iff text, fun h => ?_⟩
  rcases h.occurs_or_numbered with hword | hnumbered
  · exact .inl ((heartbeatReply?_eq_some_iff _ _).mpr ⟨rfl, h, hword⟩)
  · exact .inr hnumbered

/-- A request whose keys stand in another order, one of them twice, and whose method has a letter
written by number. -/
theorem heartbeat_answered_otherwise_spelled :
    let text := "\x7b \"params\": \x7b\"type\": \"heartbeat\", \"type\": \"test_request\"\x7d,
      \"method\": \"\\u0068eartbeat\" \x7d"
    RequestsTest text ∧ heartbeatReply? .deribit text = some (testFrame 0) := by
  intro text
  have hrequest : RequestsTest text := by
    rw [requestsTest_iff]
    decide +kernel
  have hword : testWord <:+: text.toList := by
    rw [← Text.occursIn_iff]
    decide +kernel
  exact ⟨hrequest, ((heartbeat_answered_unless_numbered text).1 _).mpr ⟨rfl, hrequest, hword⟩⟩

/-- A request with its underscore written by number. -/
def numberedRequest : String :=
  "\x7b\"method\":\"heartbeat\",\"params\":\x7b\"type\":\"test\\u005frequest\"\x7d\x7d"

theorem numbered_request_unanswered :
    RequestsTest numberedRequest ∧ heartbeatReply? .deribit numberedRequest = none := by
  rw [requestsTest_iff]
  decide +kernel

end VenueGateway.Dialect
