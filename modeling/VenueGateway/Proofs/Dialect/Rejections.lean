import VenueGateway.Proofs.Dialect.Answers

namespace VenueGateway.Deribit

open Feed

/-- Orders go out under numbers, and texts come in on either channel. -/
inductive WireEvent where
  | placed (number : Nat) (r : OrderRequest Float)
  | heard (channel : Channel) (now : Int) (text : String)

namespace WireEvent

def number? : WireEvent → Option Nat
  | .placed n _ => some n
  | .heard .. => none

/-- The number that a text answers. -/
def answered? : WireEvent → Option Nat
  | .placed .. => none
  | .heard _ _ text => (answer? text).bind request?

end WireEvent

/-- What is pending after an event. -/
def next (p : PendingOrders) : WireEvent → PendingOrders
  | .placed n r =>
    match Dialect.deribit.orderRequest p n r with
    | .ok (_, p') => p'
    | .error _ => p
  | .heard _ now text => (Dialect.deribit.decode now p text).2

def after (p : PendingOrders) (es : List WireEvent) : PendingOrders := es.foldl next p

variable {p : PendingOrders} {e : WireEvent} {es : List WireEvent} {n : Nat}
  {r : OrderRequest Float} {o : PendingOrder}

theorem next_placed (p : PendingOrders) (n : Nat) (r : OrderRequest Float) :
    next p (.placed n r) = p.track n ⟨r.id, r.symbol⟩ := rfl

theorem next_heard (p : PendingOrders) (channel : Channel) (now : Int) (text : String) :
    next p (.heard channel now text) =
      match (answer? text).bind request? with
      | some n => p.remove n
      | none => p := by
  change (Dialect.deribit.decode now p text).2 = _
  cases h : answer? text with
  | none =>
    rw [decode_of_not_answer h]
    rfl
  | some j =>
    rw [decode_of_answer h]
    rfl

theorem after_concat (p : PendingOrders) (es : List WireEvent) (e : WireEvent) :
    after p (es ++ [e]) = next (after p es) e := by
  simp [after]

theorem length_next_le (h : p.entries.length ≤ PendingOrders.capacity) (e : WireEvent) :
    (next p e).entries.length ≤ PendingOrders.capacity := by
  cases e with
  | placed n r => exact p.length_track_le n _
  | heard channel now text =>
    rw [next_heard]
    split
    · exact Nat.le_trans (p.length_remove_le _) h
    · exact h

theorem length_after_le (es : List WireEvent) :
    (after {} es).entries.length ≤ PendingOrders.capacity := by
  induction es using List.reverseRecOn with
  | nil => exact Nat.zero_le _
  | append_singleton es e ih =>
    rw [after_concat]
    exact length_next_le ih e

theorem length_after_le_length (es : List WireEvent) :
    (after {} es).entries.length ≤ es.length := by
  -- An order adds one entry at most and an answer adds none.
  induction es using List.reverseRecOn with
  | nil => exact Nat.le_refl 0
  | append_singleton es e ih =>
    rw [after_concat, List.length_append, List.length_singleton]
    cases e with
    | placed n r =>
      have htrack := (after {} es).length_track_le_succ n ⟨r.id, r.symbol⟩
      rw [next_placed]
      omega
    | heard channel now text =>
      rw [next_heard]
      split
      · have hremove := (after {} es).length_remove_le ‹_›
        omega
      · omega

/-- An order was placed under the number, and nothing has answered that since. -/
def Awaits (es : List WireEvent) (n : Nat) (r : OrderRequest Float) : Prop :=
  ∃ before since, es = before ++ .placed n r :: since ∧ ∀ e ∈ since, e.answered? ≠ some n

theorem Awaits.mem (h : Awaits es n r) : .placed n r ∈ es := by
  obtain ⟨before, since, rfl, -⟩ := h
  simp

theorem not_awaits_nil : ¬ Awaits [] n r := fun h => by simpa using h.mem

theorem awaits_concat_iff :
    Awaits (es ++ [e]) n r ↔ e = .placed n r ∨ Awaits es n r ∧ e.answered? ≠ some n := by
  constructor
  · rintro ⟨before, since, heq, hsince⟩
    -- Either the last event is the placing itself, or it stands behind it and is not the answer.
    rcases List.eq_nil_or_concat since with rfl | ⟨since, last, rfl⟩
    · left
      have hlast := (List.append_inj' heq rfl).2
      exact List.singleton_inj.mp hlast
    · right
      rw [List.concat_eq_append] at heq hsince
      rw [← List.cons_append, ← List.append_assoc] at heq
      obtain ⟨hes, hlast⟩ := List.append_inj' heq rfl
      rw [List.singleton_inj] at hlast
      subst hlast
      exact ⟨⟨before, since, hes, fun e' h => hsince e' (List.mem_append_left _ h)⟩,
        hsince e (List.mem_append_right _ List.mem_cons_self)⟩
  · rintro (rfl | ⟨⟨before, since, rfl, hsince⟩, he⟩)
    · exact ⟨es, [], rfl, by simp⟩
    · refine ⟨before, since ++ [e], by simp, fun e' h => ?_⟩
      rcases List.mem_append.mp h with hold | hlast
      · exact hsince e' hold
      · rw [List.mem_singleton.mp hlast]
        exact he

/-- Each order has a number of its own, and there is room whenever one is placed. -/
structure Orderly (es : List WireEvent) : Prop where
  distinct : (es.filterMap (·.number?)).Nodup
  room : ∀ before n r since, es = before ++ .placed n r :: since →
    (after {} before).entries.length < PendingOrders.capacity

theorem Orderly.of_append {es' : List WireEvent} (h : Orderly (es ++ es')) : Orderly es where
  distinct := by
    have hdistinct := h.distinct
    rw [List.filterMap_append] at hdistinct
    exact (List.nodup_append.mp hdistinct).1
  room before n r since heq :=
    h.room before n r (since ++ es') (by rw [heq, List.append_assoc, List.cons_append])

/-- A short run never fills the table. -/
theorem Orderly.of_length (hdistinct : (es.filterMap (·.number?)).Nodup)
    (h : es.length ≤ PendingOrders.capacity) : Orderly es where
  distinct := hdistinct
  room before n r since heq := by
    have hbefore := length_after_le_length before
    rw [heq, List.length_append, List.length_cons] at h
    omega

/-- An order's number is not that of an order before it. -/
theorem Orderly.not_mem {es' : List WireEvent} {r' : OrderRequest Float} (h : Orderly (es ++ es'))
    (hmem : .placed n r ∈ es') : .placed n r' ∉ es := by
  intro hbefore
  have hdistinct := h.distinct
  rw [List.filterMap_append] at hdistinct
  exact (List.nodup_append.mp hdistinct).2.2 n (List.mem_filterMap.mpr ⟨_, hbefore, rfl⟩) n
    (List.mem_filterMap.mpr ⟨_, hmem, rfl⟩) rfl

/-- The table holds exactly the orders that wait. -/
theorem Orderly.find?_after (h : Orderly es) (n : Nat) (o : PendingOrder) :
    (after {} es).find? n = some o ↔ ∃ r, Awaits es n r ∧ o = ⟨r.id, r.symbol⟩ := by
  -- Induction from the end of the run: an order is tracked under its own number, which no earlier
  -- one has, and an answer forgets the number it names.
  induction es using List.reverseRecOn generalizing n o with
  | nil => simp [after, PendingOrders.find?, not_awaits_nil]
  | append_singleton es e ih =>
    specialize ih h.of_append n o
    simp only [after_concat, awaits_concat_iff]
    cases e with
    | placed m r =>
      rw [next_placed, PendingOrders.find?_track (h.room es m r [] rfl)]
      by_cases hn : n = m
      · subst hn
        have hnew (r' : OrderRequest Float) : ¬ Awaits es n r' :=
          fun hr' => h.not_mem List.mem_cons_self hr'.mem
        simp [hnew, eq_comm]
      · rw [if_neg hn, ih]
        simp [WireEvent.answered?, Ne.symm hn]
    | heard channel now text =>
      rw [next_heard]
      cases hanswered : (answer? text).bind request? with
      | none => simpa [WireEvent.answered?, hanswered] using ih
      | some m =>
        dsimp only
        rw [PendingOrders.find?_remove]
        by_cases hn : n = m
        · simp [WireEvent.answered?, hanswered, hn]
        · rw [if_neg hn, ih]
          simp [WireEvent.answered?, hanswered, Ne.symm hn]

/-- A number that no order waits under: there is none, no order had it, or it has been answered. -/
inductive Unasked (es : List WireEvent) : Option Nat → Prop
  | unnumbered : Unasked es none
  | never (n : Nat) (h : ∀ r, .placed n r ∉ es) : Unasked es (some n)
  | again (n : Nat) (r : OrderRequest Float) (before since : List WireEvent) (e : WireEvent)
      (rest : List WireEvent) (h : es = before ++ .placed n r :: since ++ e :: rest)
      (he : e.answered? = some n) : Unasked es (some n)

/-- An answer is only waited for again under a number that is used again. -/
theorem not_awaits_append {rest : List WireEvent} (he : e.answered? = some n)
    (hrest : ∀ r, .placed n r ∉ rest) : ¬ Awaits (es ++ e :: rest) n r := by
  induction rest using List.reverseRecOn with
  | nil =>
    rw [awaits_concat_iff]
    rintro (rfl | ⟨-, hne⟩)
    · cases he
    · exact hne he
  | append_singleton rest last ih =>
    rw [← List.cons_append, ← List.append_assoc, awaits_concat_iff]
    rintro (rfl | ⟨h, -⟩)
    · exact hrest r (by simp)
    · exact ih (fun r' hr' => hrest r' (List.mem_append_left _ hr')) h

theorem Orderly.not_awaits (h : Orderly es) (hn : Unasked es (some n)) : ¬ Awaits es n r := by
  cases hn with
  | never _ hnever => exact fun ha => hnever r ha.mem
  | again _ r' before since e rest heq he =>
    subst heq
    apply not_awaits_append he
    intro r'' hr''
    have hfirst : .placed n r' ∈ before ++ .placed n r' :: since := by simp
    exact h.not_mem (List.mem_cons_of_mem e hr'') hfirst

theorem Orderly.answered?_eq_none {j : Json} (h : Orderly es) (hj : Unasked es (request? j)) :
    Deribit.answered? (after {} es) j = none := by
  rw [Deribit.answered?_eq]
  cases hn : request? j with
  | none => rfl
  | some n =>
    rw [hn] at hj
    rw [Option.bind_some, Option.eq_none_iff_forall_ne_some]
    intro o ho
    obtain ⟨r, hr, -⟩ := (h.find?_after n o).mp ho
    exact h.not_awaits hj hr

theorem Orderly.rejects {j error : Json} {text : String} (h : Orderly es)
    (htext : answer? text = some j) (hn : request? j = some n) (hr : Awaits es n r)
    (herror : j.field? "error" = some error) (now : Int) :
    (Dialect.deribit.decode now (after {} es) text).1 =
      some [rejected now (errorText error) ⟨r.id, r.symbol⟩] := by
  have hpending : Deribit.answered? (after {} es) j = some ⟨r.id, r.symbol⟩ := by
    rw [Deribit.answered?_eq, hn]
    exact (h.find?_after n _).mpr ⟨r, hr, rfl⟩
  rw [decode_of_answer htext, answer_error herror, hpending]
  rfl

/-- Where no order waits, an error says nothing, and a result only what it reports by itself. -/
theorem Orderly.unasked {j : Json} {text : String} (h : Orderly es) (htext : answer? text = some j)
    (hj : Unasked es (request? j)) (now : Int) :
    (∀ error, j.field? "error" = some error →
        (Dialect.deribit.decode now (after {} es) text).1 = some []) ∧
      ∀ records e, (Dialect.deribit.decode now (after {} es) text).1 = some records →
        .order e ∈ records → e.kind = .reject → ∃ o, j.path? ["result", "order"] = some o ∧
          textAt? o ["order_state"] = some "rejected" ∧ order now o = .ok e := by
  have hpending := h.answered?_eq_none hj
  obtain ⟨hread, hanswer⟩ := Option.filter_eq_some_iff.mp htext
  constructor
  · intro error herror
    rw [decode_of_answer htext, answer_error herror, hpending]
    rfl
  · intro records e hrecords he hkind
    rw [decode_of_read hread] at hrecords
    have hroute := toOption_eq_some_iff.mp hrecords
    -- A rejection comes from an error for a tracked order, of which there is none, or from an order
    -- that the answer itself carries.
    rcases of_mem_route hroute he with ⟨error, o, -, ho, -⟩ | ⟨o, ho, horder⟩
    · rw [hpending] at ho
      cases ho
    · refine ⟨o, ?_, state_of_order_reject horder hkind, horder⟩
      exact mem_reported_answer hanswer ho

/-- An error rejects the order that waits under its number and nothing else; no other answer makes
a rejection of an order, other messages leave the table as it is, and the table stays within
bounds. -/
theorem rejections_exact (es : List WireEvent) :
    (after {} es).entries.length ≤ PendingOrders.capacity ∧
      (∀ now text, answer? text = none →
        (Dialect.deribit.decode now (after {} es) text).2 = after {} es) ∧
      (Orderly es → ∀ now text j, answer? text = some j →
        (∀ n r error, request? j = some n → Awaits es n r → j.field? "error" = some error →
          (Dialect.deribit.decode now (after {} es) text).1 = some [.order
            { (OrderEvent.bare .deribit r.id r.symbol .reject now : OrderEvent Float) with
              reason := some ((textAt? error ["message"]).getD error.text) }]) ∧
        (Unasked es (request? j) →
          (∀ error, j.field? "error" = some error →
            (Dialect.deribit.decode now (after {} es) text).1 = some []) ∧
          ∀ records e, (Dialect.deribit.decode now (after {} es) text).1 = some records →
            .order e ∈ records → e.kind = .reject → ∃ o, j.path? ["result", "order"] = some o ∧
              textAt? o ["order_state"] = some "rejected" ∧ order now o = .ok e)) := by
  refine ⟨length_after_le es, ?_, ?_⟩
  · intro now text hother
    rw [decode_of_not_answer hother]
  · intro h now text j htext
    exact ⟨fun n r error hn hr herror => h.rejects htext hn hr herror now,
      fun hj => h.unasked htext hj now⟩

def marketOrder (id symbol : String) : OrderRequest Float where
  id := id
  venue := .deribit
  symbol := symbol
  side := .buy
  type := .market
  quantity := 10
  price := 0

/-- Two orders are out, and the second one has been refused. -/
def secondRefused : List WireEvent :=
  [.placed 9 (marketOrder "a" "BTC-PERPETUAL"), .placed 10 (marketOrder "b" "ETH-PERPETUAL"),
    .heard .private 5 "\x7b\"id\":10,\"error\":\x7b\"code\":10009\x7d\x7d"]

def fundsMissing : String :=
  "\x7b\"id\":9,\"error\":\x7b\"message\":\"not_enough_funds\"\x7d\x7d"

def refusedAgain : String := "\x7b\"id\":10,\"error\":\x7b\"message\":\"late\"\x7d\x7d"

theorem answer?_fundsMissing : answer? fundsMissing =
    some (.object [("error", .object [("message", "not_enough_funds")]), ("id", .ofNat 9)]) := by
  rfl

theorem rejections_exact_secondRefused :
    Orderly secondRefused ∧ Awaits secondRefused 9 (marketOrder "a" "BTC-PERPETUAL") ∧
      (Dialect.deribit.decode 6 (after {} secondRefused) fundsMissing).1 = some [.order
        { (OrderEvent.bare .deribit "a" "BTC-PERPETUAL" .reject 6 : OrderEvent Float) with
          reason := some "not_enough_funds" }] ∧
      (Dialect.deribit.decode 7 (after {} secondRefused) refusedAgain).1 = some [] := by
  have horderly : Orderly secondRefused := .of_length (by decide) (by decide)
  have hsecond : (WireEvent.heard .private 5
      "\x7b\"id\":10,\"error\":\x7b\"code\":10009\x7d\x7d").answered? = some 10 := by rfl
  have hawaits : Awaits secondRefused 9 (marketOrder "a" "BTC-PERPETUAL") := by
    refine ⟨[], _, rfl, List.forall_mem_cons.mpr ⟨by simp [WireEvent.answered?], ?_⟩⟩
    rw [List.forall_mem_singleton, hsecond]
    decide
  have hagain : answer? refusedAgain =
      some (.object [("error", .object [("message", "late")]), ("id", .ofNat 10)]) := by
    rfl
  have hunasked : Unasked secondRefused (some 10) :=
    .again 10 (marketOrder "b" "ETH-PERPETUAL") [.placed 9 (marketOrder "a" "BTC-PERPETUAL")] []
      _ [] rfl hsecond
  obtain ⟨-, -, hexact⟩ := rejections_exact secondRefused
  exact ⟨horderly, hawaits, (hexact horderly 6 _ _ answer?_fundsMissing).1 9 _ _ rfl hawaits rfl,
    ((hexact horderly 7 _ _ hagain).2 hunasked).1 _ rfl⟩

/-- The result of a request that nobody has made. -/
def strayResult : String :=
  "\x7b\"id\":7,\"result\":\x7b\"order\":\x7b\"order_id\":\"V-1\",\"order_state\":\"rejected\"," ++
    "\"instrument_name\":\"BTC-PERPETUAL\"\x7d\x7d\x7d"

set_option maxRecDepth 2000 in
/-- A result reports the order in it, a rejected one too, whether anybody has asked for it or
not. -/
theorem stray_result_rejects :
    (∃ j, answer? strayResult = some j ∧ Unasked [] (request? j)) ∧
      (Dialect.deribit.decode 0 (after {} []) strayResult).1 = some [.order
        { (OrderEvent.bare .deribit "V-1" "BTC-PERPETUAL" .reject 0 : OrderEvent Float) with
          venueId := some "V-1"
          cumulative := some 0
          reason := some "rejected" }] := by
  have hread : answer? strayResult = some (.object [("id", .ofNat 7), ("result", .object [("order",
      .object [("instrument_name", "BTC-PERPETUAL"), ("order_id", "V-1"),
        ("order_state", "rejected")])])]) := by
    rfl
  exact ⟨⟨_, hread, .never 7 (by simp)⟩, by rfl⟩

end VenueGateway.Deribit
