import VenueGateway.Proofs.Dialect.Rejections

namespace VenueGateway.Deribit

open Feed

def WireEvent.isPublic : WireEvent → Bool
  | .heard .public _ _ => true
  | .heard .private _ _ | .placed .. => false

def withoutPublic (es : List WireEvent) : List WireEvent := es.filter (!·.isPublic)

/-- What a text is read as; an order that goes out brings nothing in. -/
def records (p : PendingOrders) : WireEvent → Option (List (Record Float))
  | .heard _ now text => (Dialect.deribit.decode now p text).1
  | .placed .. => some []

/-- What each of the texts on the private channel is read as. -/
def privateRecords (p : PendingOrders) : List WireEvent → List (Option (List (Record Float)))
  | [] => []
  | e :: es =>
    match e with
    | .heard .private _ _ => records p e :: privateRecords (next p e) es
    | .heard .public _ _ | .placed .. => privateRecords (next p e) es

/-- A text that answers no order that is out. -/
def AnswersNone (p : PendingOrders) (text : String) : Prop :=
  ∀ n, (answer? text).bind request? = some n → p.find? n = none

/-- No text on the public channel answers an order that is out when it comes. -/
def PublicApart (p : PendingOrders) (es : List WireEvent) : Prop :=
  ∀ before now text since, es = before ++ .heard .public now text :: since →
    AnswersNone (after p before) text

variable {p : PendingOrders} {e : WireEvent} {es : List WireEvent} {now : Int} {text : String}

/-- Such a text is read as if no order were out, and settles none. -/
theorem AnswersNone.decode (h : AnswersNone p text) (now : Int) :
    Dialect.deribit.decode now p text = ((Dialect.deribit.decode now {} text).1, p) := by
  cases hanswer : answer? text with
  | none => exact decode_of_not_answer hanswer
  | some j =>
    have hnone : answered? p j = none := by
      rw [answered?_eq]
      apply Option.bind_eq_none_iff.mpr
      intro n hn
      exact h n (by rw [hanswer, Option.bind_some, hn])
    have hsettled : settled p j = p := by
      rw [settled_eq]
      split
      · rename_i n hn
        exact PendingOrders.remove_of_find?_none (h n (by rw [hanswer, Option.bind_some, hn]))
      · rfl
    rw [decode_of_answer hanswer, decode_of_answer hanswer, answer_of_not_pending hnone, hsettled]

theorem publicApart_nil (p : PendingOrders) : PublicApart p [] := by
  intro before now text since heq
  simp at heq

theorem publicApart_cons_iff :
    PublicApart p (e :: es) ↔
      (∀ now text, e = .heard .public now text → AnswersNone p text) ∧
        PublicApart (next p e) es := by
  -- The condition on the whole history is one on its first event and the same condition, from the
  -- state behind it, on the others.
  constructor
  · intro h
    refine ⟨?_, ?_⟩
    · rintro now text rfl
      exact h [] now text es rfl
    · intro before now text since heq
      exact h (e :: before) now text since (by rw [heq, List.cons_append])
  · rintro ⟨hhead, htail⟩ before now text since heq
    cases before with
    | nil =>
      obtain ⟨he, -⟩ := List.cons.inj heq
      exact hhead now text he
    | cons first before =>
      obtain ⟨rfl, hes⟩ := List.cons.inj heq
      exact htail before now text since hes

/-- Leaving out the public texts changes nothing for the private channel. -/
theorem PublicApart.same (h : PublicApart p es) :
    privateRecords p es = privateRecords p (withoutPublic es) ∧
      after p es = after p (withoutPublic es) := by
  induction es generalizing p with
  | nil => exact ⟨rfl, rfl⟩
  | cons e es ih =>
    obtain ⟨hhead, htail⟩ := publicApart_cons_iff.mp h
    obtain ⟨hrecords, hafter⟩ := ih htail
    cases e with
    | placed n r => exact ⟨hrecords, hafter⟩
    | heard channel now text =>
      -- An event of the public channel that answers no order leaves what is tracked as it was, so
      -- dropping it is not seen by the events behind it.
      cases channel with
      | «private» => exact ⟨congrArg (_ :: ·) hrecords, hafter⟩
      | «public» =>
        have hnext : next p (.heard .public now text) = p := by
          change (Dialect.deribit.decode now p text).2 = p
          rw [(hhead now text rfl).decode]
        rw [hnext] at hrecords hafter
        simp only [privateRecords, after, List.foldl_cons, hnext]
        exact ⟨hrecords, hafter⟩

/-- Rejections in such a text are of orders that it reports by itself. -/
theorem AnswersNone.reported {records : List (Record Float)} {event : OrderEvent Float}
    (h : AnswersNone p text) (hrecords : (Dialect.deribit.decode now p text).1 = some records)
    (hmem : .order event ∈ records) (hkind : event.kind = .reject) :
    ∃ j o, Json.read text = some j ∧ o ∈ Deribit.reported j ∧
      textAt? o ["order_state"] = some "rejected" ∧ order now o = .ok event := by
  rw [h.decode] at hrecords
  cases hread : Json.read text with
  | none => simp [Dialect.decode, hread] at hrecords
  | some j =>
    rw [decode_of_read hread] at hrecords
    have hroute := toOption_eq_some_iff.mp hrecords
    -- With no order tracked an error answers nothing, so the rejection is the one an order in the
    -- message tells of.
    rcases of_mem_route hroute hmem with ⟨error, o, -, ho, -⟩ | ⟨o, ho, horder⟩
    · have hempty : answered? {} j = none := Option.bind_eq_none_iff.mpr fun _ _ => rfl
      rw [hempty] at ho
      cases ho
    · exact ⟨j, o, rfl, ho, state_of_order_reject horder hkind, horder⟩

/-- The public channel interferes with orders exactly by answering under the number of one that is
out. Such a text settles that order, and rejects it if it is an error; a run without one keeps the
private channel as it would be without the public one. -/
theorem public_apart_unless_answering (p : PendingOrders) (es : List WireEvent) :
    (PublicApart p es → privateRecords p es = privateRecords p (withoutPublic es) ∧
        after p es = after p (withoutPublic es)) ∧
      ∀ now text,
        (AnswersNone p text → next p (.heard .public now text) = p ∧
          records p (.heard .public now text) = records {} (.heard .public now text) ∧
          ∀ found event, records p (.heard .public now text) = some found →
            .order event ∈ found → event.kind = .reject → ∃ j o, Json.read text = some j ∧
              o ∈ reported j ∧ textAt? o ["order_state"] = some "rejected" ∧
              order now o = .ok event) ∧
        ∀ j n o, answer? text = some j → request? j = some n → p.find? n = some o →
          next p (.heard .public now text) = p.remove n ∧
          ∀ error, j.field? "error" = some error →
            records p (.heard .public now text) = some [rejected now (errorText error) o] := by
  refine ⟨PublicApart.same, fun now text => ⟨?_, ?_⟩⟩
  · intro h
    refine ⟨?_, ?_, ?_⟩
    · change (Dialect.deribit.decode now p text).2 = p
      rw [h.decode]
    · change (Dialect.deribit.decode now p text).1 = (Dialect.deribit.decode now {} text).1
      rw [h.decode]
    · intro found event hfound hmem hkind
      exact h.reported hfound hmem hkind
  · intro j n o hanswer hn ho
    have hpending : answered? p j = some o := by rw [answered?_eq, hn, Option.bind_some, ho]
    refine ⟨by rw [next_heard, hanswer, Option.bind_some, hn], ?_⟩
    intro error herror
    rw [records, decode_of_answer hanswer, answer_error herror, hpending]
    rfl

/-- One order is out, then the public channel hears something, and the private one that the order is
refused. -/
def crossing (publicText : String) : List WireEvent :=
  [.placed 9 (marketOrder "a" "BTC-PERPETUAL"), .heard .public 1 publicText,
    .heard .private 2 fundsMissing]

/-- The order that is out. -/
def onlyOrder : PendingOrders := next {} (.placed 9 (marketOrder "a" "BTC-PERPETUAL"))

/-- The answer to a subscription that was the second request on its channel. -/
def secondSubscribed : String := "\x7b\"id\":2,\"result\":[]\x7d"

/-- The answer to one that was the ninth. -/
def ninthSubscribed : String := "\x7b\"id\":9,\"result\":[]\x7d"

def fundsRejection (now : Int) : Record Float :=
  .order { (OrderEvent.bare .deribit "a" "BTC-PERPETUAL" .reject now : OrderEvent Float) with
    reason := some "not_enough_funds" }

theorem records_fundsMissing (channel : Channel) (now : Int) :
    records onlyOrder (.heard channel now fundsMissing) = some [fundsRejection now] := by
  rw [records, decode_of_answer answer?_fundsMissing]
  rfl

theorem public_apart_unless_answering_secondSubscribed :
    PublicApart {} (crossing secondSubscribed) ∧
      privateRecords {} (crossing secondSubscribed) =
        privateRecords {} (withoutPublic (crossing secondSubscribed)) ∧
      next onlyOrder (.heard .public 1 fundsMissing) = onlyOrder.remove 9 := by
  have hsecond : answer? secondSubscribed =
      some (.object [("id", .ofNat 2), ("result", .array [])]) := by rfl
  have hapart : PublicApart {} (crossing secondSubscribed) := by
    refine publicApart_cons_iff.mpr ⟨by simp, publicApart_cons_iff.mpr ⟨?_, ?_⟩⟩
    · rintro now text heq n hn
      cases heq
      rw [hsecond] at hn
      cases hn
      rfl
    · exact publicApart_cons_iff.mpr ⟨by simp, publicApart_nil _⟩
  obtain ⟨hsame, -⟩ := (public_apart_unless_answering {} _).1 hapart
  obtain ⟨-, hanswering⟩ := (public_apart_unless_answering onlyOrder []).2 1 fundsMissing
  exact ⟨hapart, hsame, (hanswering _ 9 _ answer?_fundsMissing rfl rfl).1⟩

/-- An answer on the public channel that has the number of an order takes the order's own refusal
away, and an error there rejects the order. -/
theorem ninth_answer_interferes :
    privateRecords {} (crossing ninthSubscribed) = [some []] ∧
      privateRecords {} (withoutPublic (crossing ninthSubscribed)) = [some [fundsRejection 2]] ∧
      records onlyOrder (.heard .public 1 fundsMissing) = some [fundsRejection 1] := by
  have hninth : answer? ninthSubscribed =
      some (.object [("id", .ofNat 9), ("result", .array [])]) := by rfl
  refine ⟨?_, ?_, records_fundsMissing .public 1⟩
  · change [records (next onlyOrder (.heard .public 1 ninthSubscribed))
      (.heard .private 2 fundsMissing)] = [some []]
    rw [next_heard, hninth, records, decode_of_answer answer?_fundsMissing]
    rfl
  · exact congrArg (fun found => [found]) (records_fundsMissing .private 2)

end VenueGateway.Deribit
