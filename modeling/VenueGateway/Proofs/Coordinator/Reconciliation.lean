import VenueGateway.Proofs.Coordinator.Survey

namespace VenueGateway

theorem SnapshotKind.mem_all (kind : SnapshotKind) : kind ∈ SnapshotKind.all := by
  cases kind <;> decide

/-- Fetches one after the other, the first with the given breaker and each other one with the
breaker that the one before it has left. -/
def Fetch.Chained {β : Type} (maxRetries : Nat) : Breaker → List (Fetch β) → Prop
  | _, [] => True
  | b, f :: fs => f.Made maxRetries maxRetries b ∧ Chained maxRetries f.breaker fs

/-- The fetches of the three snapshots by their kinds. -/
def Fetch.byKind {β : Type} (openOrders positions balances : Fetch β) : SnapshotKind → Fetch β
  | .openOrders => openOrders
  | .positions => positions
  | .balances => balances

namespace Surveyed

variable {α β : Type} [Factor α] {read : SnapshotReader α β} {c c' : Coordinator α}
  {report report' : ReconciliationReport} {kinds : List SnapshotKind} {fs : List (Fetch β)}

theorem uncons {kind : SnapshotKind} (h : Surveyed read c report (kind :: kinds) fs c' report') :
    ∃ (f : Fetch β) (fs' : List (Fetch β)) (registry : Registry α), fs = f :: fs' ∧
      Surveyed read
        ({ c with registry }.takeSnapshot kind f.now (f.records read kind) report).2.1
        ({ c with registry }.takeSnapshot kind f.now (f.records read kind) report).1
        kinds fs' c' report' := by
  cases h with
  | cons _ _ _ _ _ _ f fs' registry _ _ rest => exact ⟨f, fs', registry, rfl, rest⟩

theorem venue_eq (h : Surveyed read c report kinds fs c' report') :
    report'.venue = report.venue := by
  induction h with
  | nil => rfl
  | cons _ _ _ _ _ _ _ _ _ _ _ _ ih => rw [ih, Coordinator.takeSnapshot_venue]

theorem chained (h : Surveyed read c report kinds fs c' report') :
    Fetch.Chained c.maxRetries (c.registry.breaker (report.venue.name ++ ".rest")) fs := by
  induction h with
  | nil => trivial
  | cons c _ report _ kind _ f _ registry made left _ ih =>
    refine ⟨made, ?_⟩
    simp only [Coordinator.takeSnapshot_coordinator, Coordinator.takeSnapshot_venue,
      Coordinator.maxRetries, left.defaults, left.breaker] at ih
    exact ih

/-- Each failure has its own entry, in the order of the snapshots. -/
theorem errors_eq (h : Surveyed read c report kinds fs c' report') :
    report'.errors = report.errors ++
      (kinds.zip fs).filterMap fun p => p.1.failure? (p.2.records read p.1) := by
  induction h with
  | nil => simp
  | cons _ _ _ _ kind _ f _ _ _ _ _ ih =>
    rw [ih, Coordinator.takeSnapshot_errors, List.append_assoc]
    cases hf : kind.failure? (f.records read kind) <;> simp [hf]

/-- Only the list of open orders touches orders. -/
theorem list_eq (h : Surveyed read c report kinds fs c' report') (hkind : .openOrders ∉ kinds) :
    c'.table = c.table ∧ report'.openOrders = report.openOrders ∧
      report'.missing = report.missing := by
  induction h with
  | nil => exact ⟨rfl, rfl, rfl⟩
  | cons c _ report _ kind _ f _ registry _ _ _ ih =>
    simp only [List.mem_cons, not_or] at hkind
    obtain ⟨hcoordinator, hcount, hmissing⟩ := Coordinator.takeSnapshot_of_ne_openOrders
      { c with registry } kind f.now (f.records read kind) report (Ne.symm hkind.1)
    obtain ⟨htable, hcount', hmissing'⟩ := ih hkind.2
    exact ⟨htable.trans (congrArg (·.table) hcoordinator), hcount'.trans hcount,
      hmissing'.trans hmissing⟩

theorem positions_eq (h : Surveyed read c report kinds fs c' report') (hkind : .positions ∉ kinds) :
    report'.positions = report.positions := by
  induction h with
  | nil => rfl
  | cons _ _ _ _ _ _ _ _ _ _ _ _ ih =>
    simp only [List.mem_cons, not_or] at hkind
    rw [ih hkind.2, Coordinator.takeSnapshot_positions, if_neg (Ne.symm hkind.1)]

theorem balances_eq (h : Surveyed read c report kinds fs c' report') (hkind : .balances ∉ kinds) :
    report'.balances = report.balances := by
  induction h with
  | nil => rfl
  | cons _ _ _ _ _ _ _ _ _ _ _ _ ih =>
    simp only [List.mem_cons, not_or] at hkind
    rw [ih hkind.2, Coordinator.takeSnapshot_balances, if_neg (Ne.symm hkind.1)]

end Surveyed

/-- A reconciliation that is over: each snapshot was asked for in its turn, each failure is named
once, and orders and report are what the list of open orders makes of them. -/
structure Survey.Exact {α β : Type} [Factor α] (c : Coordinator α) (venue : Venue)
    (read : SnapshotReader α β) (f : SnapshotKind → Fetch β) (s : Survey α β) : Prop where
  finished : s.reconciliation.phase = .finished
  begun : ∀ kind, kind ∈ s.attempts
  attempts : s.attempts = SnapshotKind.all.flatMap fun kind => .replicate (f kind).count kind
  answers : s.answers = SnapshotKind.all.flatMap fun kind => (f kind).answers.map (kind, ·)
  fetched : Fetch.Chained c.maxRetries (c.registry.breaker (venue.name ++ ".rest"))
    (SnapshotKind.all.map f)
  venue_eq : s.reconciliation.report.venue = venue
  errors : s.reconciliation.report.errors =
    SnapshotKind.all.filterMap fun kind => kind.failure? ((f kind).records read kind)
  positions : s.reconciliation.report.positions =
    ((f .positions).records read .positions).toOption.elim 0 List.length
  balances : s.reconciliation.report.balances =
    ((f .balances).records read .balances).toOption.elim 0 List.length
  list : ListTaken c venue (f .openOrders).now s.coordinator.table
    s.reconciliation.report.openOrders s.reconciliation.report.missing
    ((f .openOrders).records read .openOrders)

variable {α β : Type} [Factor α]

/-- The three snapshots of a venue, fetched and taken in one after the other. -/
theorem Surveyed.exact {read : SnapshotReader α β} {c c' : Coordinator α}
    {report : ReconciliationReport} {fs : List (Fetch β)} (hids : c.table.ids.Nodup) (venue : Venue)
    (hs : Surveyed read c { venue } [.openOrders, .positions, .balances] fs c' report) :
    ∃ f : SnapshotKind → Fetch β, fs = SnapshotKind.all.map f ∧
      Survey.Exact c venue read f (Survey.ahead c' report []
        (SnapshotKind.all.flatMap fun kind => .replicate (f kind).count kind)
        (SnapshotKind.all.flatMap fun kind => (f kind).answers.map (kind, ·))) := by
  have hvenue := hs.venue_eq
  have herrors := hs.errors_eq
  have hchained := hs.chained
  -- The list of open orders comes first, and what follows leaves the orders alone.
  obtain ⟨f₁, fs₁, registry₁, rfl, rest₁⟩ := hs.uncons
  have htable₁ : { c with registry := registry₁ }.table = c.table := rfl
  have hlist := Coordinator.takeSnapshot_listTaken htable₁ hids venue f₁.now
    (f₁.records read .openOrders)
  obtain ⟨htable, hcount, hmissing⟩ := rest₁.list_eq (by decide)
  rw [← htable, ← hcount, ← hmissing] at hlist
  obtain ⟨f₂, fs₂, registry₂, rfl, rest₂⟩ := rest₁.uncons
  have hpositions := rest₂.positions_eq (by decide)
  rw [Coordinator.takeSnapshot_positions, if_pos rfl, Coordinator.takeSnapshot_positions,
    if_neg (by decide)] at hpositions
  obtain ⟨f₃, fs₃, registry₃, rfl, rest₃⟩ := rest₂.uncons
  have hbalances := rest₃.balances_eq (by decide)
  rw [Coordinator.takeSnapshot_balances, if_pos rfl, Coordinator.takeSnapshot_balances,
    if_neg (by decide), Coordinator.takeSnapshot_balances, if_neg (by decide)] at hbalances
  cases rest₃
  refine ⟨Fetch.byKind f₁ f₂ f₃, rfl, rfl, fun kind => ?_, rfl, rfl, hchained, hvenue, herrors,
    hpositions, hbalances, hlist⟩
  have hpos : 0 < (Fetch.byKind f₁ f₂ f₃ kind).count := by
    cases kind with
    | openOrders => exact hchained.1.count_pos
    | positions => exact hchained.2.1.count_pos
    | balances => exact hchained.2.2.1.count_pos
  exact List.mem_flatMap.mpr ⟨kind, kind.mem_all,
    List.mem_replicate.mpr ⟨Nat.ne_of_gt hpos, rfl⟩⟩

/-- A reconciliation with a venue, with nothing else going on, comes to its end whatever it meets,
and what it reports is exact. The table may hold any orders, as in every run no two of one id. -/
theorem Coordinator.survey_exact (c : Coordinator α) (venue : Venue) (hvenue : venue ∈ c.venues)
    (hids : c.table.ids.Nodup) (read : SnapshotReader α β) (xs : List (FetchCircumstance α β))
    (hxs : 3 * (3 * c.maxRetries + 2) ≤ xs.length) :
    ∃ s f, c.survey venue read xs = .ok s ∧
      (∀ kind, ∃ x ∈ xs, (f kind).now = x.clock.epoch) ∧ Survey.Exact c venue read f s := by
  -- Three fetches of at most `3 * maxRetries + 2` circumstances each end within `xs`; the induction
  -- over the kinds left to fetch is in `exists_surveyed`.
  obtain ⟨fs, c', report, hs, htimes, hend⟩ :=
    Survey.exists_surveyed read c { venue } SnapshotKind.all [] [] xs hxs
  obtain ⟨f, rfl, hexact⟩ := hs.exact hids venue
  refine ⟨_, f, ?_, fun kind => ?_, hexact⟩
  · have hcontains : c.venues.contains venue = true := List.contains_iff_mem.mpr hvenue
    have hreconcile : c.reconcile venue = .ok (c.nextSnapshot { venue } SnapshotKind.all).1 := by
      simp only [reconcile, checkVenue, hcontains, if_true]
      rfl
    rw [survey, hreconcile]
    exact congrArg Except.ok hend
  · exact htimes (f kind) (List.mem_map_of_mem kind.mem_all)

/-- One of two orders is not listed, nor is the one of another venue, which is not asked. Positions
cannot be had, and balances cannot be read. -/
theorem Coordinator.survey_exact_gap :
    let ack (venue : Venue) (id : String) : Record Rat :=
      .order (.bare venue id "BTC-PERPETUAL" .ack 1)
    let c := ((Desk.single .deribit).run [.report (ack .deribit "a") 2,
      .report (ack .deribit "b") 2, .report (ack .grvt "c") 2]).coordinator
    let read : SnapshotReader Rat (List (Record Rat)) := fun _ kind body =>
      if kind = .balances then .error ⟨.api, "unreadable", []⟩ else .ok body
    let meets (outcome : Except GatewayError (List (Record Rat))) :
      FetchCircumstance Rat (List (Record Rat)) := ⟨⟨0, 3⟩, 0, outcome⟩
    let xs := [meets (.ok []), meets (.ok [ack .deribit "a", ack .deribit "d", ack .deribit "a"]),
      meets (.ok []), meets (.error ⟨.network, "timed out", []⟩), meets (.ok []), meets (.ok [])]
    .deribit ∈ c.venues ∧ c.table.ids.Nodup ∧ 3 * (3 * c.maxRetries + 2) ≤ xs.length ∧
      ∃ s f, c.survey .deribit read xs = .ok s ∧ Survey.Exact c .deribit read f s ∧
        s.reconciliation.report.openOrders = 2 ∧ s.reconciliation.report.missing = ["b"] ∧
        s.reconciliation.report.errors =
          ["positions: [NETWORK_ERROR] timed out", "balances: [API_ERROR] unreadable"] := by
  intro ack c read meets xs
  have hvenue : .deribit ∈ c.venues := by decide +kernel
  have hids : c.table.ids.Nodup := by decide +kernel
  have hxs : 3 * (3 * c.maxRetries + 2) ≤ xs.length := by decide +kernel
  obtain ⟨s, f, hs, -, hexact⟩ := survey_exact c .deribit hvenue hids read xs hxs
  have hreport : (c.survey .deribit read xs).toOption.map (·.reconciliation.report) =
      some { venue := .deribit, openOrders := 2, missing := ["b"],
             errors := ["positions: [NETWORK_ERROR] timed out",
               "balances: [API_ERROR] unreadable"] } := by decide +kernel
  rw [hs] at hreport
  have hreport := Option.some.inj hreport
  exact ⟨hvenue, hids, hxs, s, f, hs, hexact, congrArg (·.openOrders) hreport,
    congrArg (·.missing) hreport, congrArg (·.errors) hreport⟩

end VenueGateway
