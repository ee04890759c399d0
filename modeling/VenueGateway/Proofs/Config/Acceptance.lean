import Mathlib.Data.List.Nodup
import VenueGateway.Config.Validation
import VenueGateway.Proofs.Decimal.Order

namespace VenueGateway

/-- A factor under which delays do not shrink. -/
structure IsGrowthFactor (x : Float) : Prop where
  finite : x.isFinite = true
  one_le : 1 ≤ x

structure ServiceLimits.Workable (l : ServiceLimits) : Prop where
  threshold : 1 ≤ l.breaker.threshold
  rate : 1 ≤ l.ratePerSecond

structure SessionConfig.Workable (c : SessionConfig Float) : Prop where
  pingInterval : 0 < c.pingInterval.nanos
  pongTimeout : 0 < c.pongTimeout.nanos
  connectTimeout : 0 < c.connectTimeout.nanos
  delay : c.delay.nanos ≤ c.maxDelay.nanos
  multiplier : IsGrowthFactor c.multiplier

/-- All that the shared parts assume but for the threshold of their breakers. -/
structure ResilienceConfig.Workable (c : ResilienceConfig Float) : Prop where
  multiplier : IsGrowthFactor c.retry.multiplier
  jitter : 0 ≤ c.retry.jitter ∧ c.retry.jitter ≤ 1
  rate : 1 ≤ c.ratePerSecond
  deadLetters : 1 ≤ c.deadLetterCapacity

/-- An address that begins with one of the schemes, if one is given. -/
def Addressed (schemes : List String) (url : Option String) : Prop :=
  ∀ u, url = some u → ∃ s ∈ schemes, s.toList <+: u.toList

structure ExchangeSettings.Workable (e : ExchangeSettings Float) : Prop where
  limits : e.limits.Workable
  session : e.session.Workable
  publicUrl : Addressed ["ws://", "wss://"] e.publicUrl?
  privateUrl : Addressed ["ws://", "wss://"] e.privateUrl?
  restUrl : Addressed ["http://", "https://"] e.restUrl?
  access : (∃ s ∈ e.subscriptions, s.stream.isPrivate = true) → e.hasPrivateAccess = true
  account : e.venue = .grvt → e.hasPrivateAccess = true → ∃ a, e.subAccount = some a ∧ a ≠ ""

structure GatewayConfig.Workable (c : GatewayConfig Float) : Prop where
  venues : (c.exchanges.map (·.venue)).Nodup
  exchanges : ∀ e ∈ c.enabledExchanges, e.Workable
  resilience : c.resilience.toConfig.Workable

theorem isGrowth_iff (x : Float) : isGrowth x = true ↔ IsGrowthFactor x := by
  have hone : (1 : Float).isFinite = true := by decide
  have hsplit : isGrowth x = true ↔ x.isFinite = true ∧ ¬ x < 1 := by
    rw [isGrowth, Bool.and_eq_true, Bool.not_eq_true', decide_eq_false_iff_not]
    rfl
  rw [hsplit]
  constructor
  · rintro ⟨hfinite, hless⟩
    exact ⟨hfinite, (Decimal.not_lt_iff_le hfinite hone).mp hless⟩
  · rintro ⟨hfinite, hle⟩
    exact ⟨hfinite, (Decimal.not_lt_iff_le hfinite hone).mpr hle⟩

theorem hasScheme_iff (schemes : List String) (url : Option String) :
    hasScheme schemes url = true ↔ Addressed schemes url := by
  cases url <;> simp [hasScheme, Addressed, String.startsWith_string_iff]

theorem Duration.ofSeconds_pos_iff (n : Nat) : 0 < (Duration.ofSeconds n).nanos ↔ n ≠ 0 := by
  simp only [Duration.ofSeconds]
  omega

theorem Duration.ofMillis_le_iff (m n : Nat) :
    (Duration.ofMillis m).nanos ≤ (Duration.ofMillis n).nanos ↔ m ≤ n := by
  simp only [Duration.ofMillis]
  omega

namespace ExchangeSettings

variable (e : ExchangeSettings Float)

theorem limits_workable_iff :
    e.limits.Workable ↔ e.breaker.threshold ≠ 0 ∧ e.ratePerSecond ≠ 0 := by
  constructor
  · intro h
    exact ⟨Nat.one_le_iff_ne_zero.mp h.threshold, Nat.one_le_iff_ne_zero.mp h.rate⟩
  · rintro ⟨hthreshold, hrate⟩
    exact ⟨Nat.one_le_iff_ne_zero.mpr hthreshold, Nat.one_le_iff_ne_zero.mpr hrate⟩

theorem session_workable_iff :
    e.session.Workable ↔ (e.pingIntervalSecs ≠ 0 ∧ e.pongTimeoutSecs ≠ 0) ∧
      e.connectTimeoutSecs ≠ 0 ∧ e.reconnectDelayMs ≤ e.maxReconnectDelayMs ∧
      IsGrowthFactor e.multiplier := by
  have hping := Duration.ofSeconds_pos_iff e.pingIntervalSecs
  have hpong := Duration.ofSeconds_pos_iff e.pongTimeoutSecs
  have hconnect := Duration.ofSeconds_pos_iff e.connectTimeoutSecs
  have hdelay := Duration.ofMillis_le_iff e.reconnectDelayMs e.maxReconnectDelayMs
  constructor
  · intro h
    exact ⟨⟨hping.mp h.pingInterval, hpong.mp h.pongTimeout⟩, hconnect.mp h.connectTimeout,
      hdelay.mp h.delay, h.multiplier⟩
  · rintro ⟨⟨hi, ht⟩, hc, hd, hm⟩
    exact ⟨hping.mpr hi, hpong.mpr ht, hconnect.mpr hc, hdelay.mpr hd, hm⟩

theorem account_iff :
    (!(e.venue == .grvt && e.hasPrivateAccess) || e.subAccount.any (· != "")) = true ↔
      (e.venue = .grvt → e.hasPrivateAccess = true → ∃ a, e.subAccount = some a ∧ a ≠ "") := by
  by_cases hvenue : e.venue = .grvt
  · cases e.subAccount <;> cases e.hasPrivateAccess <;> simp [hvenue]
  · simp [hvenue]

theorem access_iff :
    (e.hasPrivateAccess || !e.subscriptions.any (·.stream.isPrivate)) = true ↔
      ((∃ s ∈ e.subscriptions, s.stream.isPrivate = true) → e.hasPrivateAccess = true) := by
  rw [← List.any_eq_true]
  cases e.hasPrivateAccess <;> cases e.subscriptions.any (·.stream.isPrivate) <;> decide

theorem rules_iff : (∀ r ∈ e.rules, r.1 = true) ↔ e.Workable := by
  simp only [rules, List.forall_mem_cons, hasScheme_iff, isGrowth_iff, account_iff, access_iff,
    Bool.and_eq_true, decide_eq_true_iff]
  constructor
  · rintro ⟨hpublic, hprivate, hrest, hheartbeat, hconnect, hdelay, hgrowth, hrate, hbreaker,
      haccount, haccess, -⟩
    exact ⟨e.limits_workable_iff.mpr ⟨hbreaker, hrate⟩,
      e.session_workable_iff.mpr ⟨hheartbeat, hconnect, hdelay, hgrowth⟩,
      hpublic, hprivate, hrest, haccess, haccount⟩
  · intro h
    obtain ⟨hbreaker, hrate⟩ := e.limits_workable_iff.mp h.limits
    obtain ⟨hheartbeat, hconnect, hdelay, hgrowth⟩ := e.session_workable_iff.mp h.session
    exact ⟨h.publicUrl, h.privateUrl, h.restUrl, hheartbeat, hconnect, hdelay, hgrowth, hrate,
      hbreaker, h.account, h.access, by simp⟩

end ExchangeSettings

theorem ResilienceSettings.rules_iff (s : ResilienceSettings Float) :
    (∀ r ∈ s.rules, r.1 = true) ↔ s.toConfig.Workable := by
  simp only [rules, List.forall_mem_cons, isGrowth_iff, Bool.and_eq_true, decide_eq_true_iff]
  constructor
  · rintro ⟨hgrowth, hjitter, hrate, hletters, -⟩
    exact ⟨hgrowth, hjitter, Nat.one_le_iff_ne_zero.mpr hrate, Nat.one_le_iff_ne_zero.mpr hletters⟩
  · intro h
    exact ⟨h.multiplier, h.jitter, Nat.one_le_iff_ne_zero.mp h.rate,
      Nat.one_le_iff_ne_zero.mp h.deadLetters, by simp⟩

/-- Venues are told apart whether they are switched on or off, and looked at only if they are on. -/
theorem exchangeRules_iff (seen : List Venue) (es : List (ExchangeSettings Float)) :
    (∀ r ∈ exchangeRules seen es, r.1 = true) ↔
      ((es.map (·.venue)).Nodup ∧ ∀ v ∈ es.map (·.venue), v ∉ seen) ∧
        ∀ e ∈ es, e.enabled = true → e.Workable := by
  -- Induction along the entries, with the venues seen so far growing by the entry's own: a venue is
  -- unseen by all before it exactly when the list names it once.
  induction es generalizing seen with
  | nil => simp [exchangeRules]
  | cons e es ih =>
    have hhead : (∀ r ∈ if e.enabled then e.rules else [], r.1 = true) ↔
        (e.enabled = true → e.Workable) := by
      rw [← e.rules_iff]
      cases e.enabled <;> simp
    simp only [exchangeRules, List.cons_append, List.forall_mem_cons, List.forall_mem_append, hhead,
      ih, List.map_cons, List.nodup_cons]
    constructor
    · rintro ⟨hseen, henabled, ⟨hdistinct, hunseen⟩, hrest⟩
      have hnew : e.venue ∉ es.map (·.venue) := fun hmem =>
        hunseen _ hmem List.mem_cons_self
      have hmore : ∀ v ∈ es.map (·.venue), v ∉ seen := fun v hv hmem =>
        hunseen v hv (List.mem_cons_of_mem _ hmem)
      exact ⟨⟨⟨hnew, hdistinct⟩, by simpa using hseen, hmore⟩, henabled, hrest⟩
    · rintro ⟨⟨⟨hnew, hdistinct⟩, hseen, hunseen⟩, henabled, hrest⟩
      refine ⟨by simpa using hseen, henabled, ⟨hdistinct, ?_⟩, hrest⟩
      intro v hv hmem
      rcases List.mem_cons.mp hmem with rfl | hmem
      · exact hnew hv
      · exact hunseen v hv hmem

namespace GatewayConfig

theorem brokenRule?_eq_none_iff (c : GatewayConfig Float) :
    c.brokenRule? = none ↔ c.Workable := by
  have hrules : c.brokenRule? = none ↔ ∀ r ∈ c.rules, r.1 = true := by
    simp [brokenRule?]
  have henabled : (∀ e ∈ c.enabledExchanges, e.Workable) ↔
      ∀ e ∈ c.exchanges, e.enabled = true → e.Workable := by
    simp [enabledExchanges]
  rw [hrules, rules, List.forall_mem_append, exchangeRules_iff, c.resilience.rules_iff, ← henabled]
  constructor
  · rintro ⟨⟨⟨hvenues, -⟩, hexchanges⟩, hresilience⟩
    exact ⟨hvenues, hexchanges, hresilience⟩
  · intro h
    exact ⟨⟨⟨h.venues, by simp⟩, h.exchanges⟩, h.resilience⟩

/-- The same settings with another threshold of the shared breaker. -/
def withSharedThreshold (c : GatewayConfig Float) (n : Nat) : GatewayConfig Float :=
  { c with resilience := { c.resilience with
      breaker := { c.resilience.breaker with threshold := n } } }

/-- Settings are accepted just if all parts can work but for the shared breaker, whose threshold may
be any number, zero too. -/
theorem accepted_iff_whatever_threshold (c : GatewayConfig Float) :
    (c.brokenRule? = none ↔ c.Workable) ∧
      ∀ n, (c.withSharedThreshold n).brokenRule? = c.brokenRule? ∧
        (c.withSharedThreshold n).resilience.toConfig.breaker.threshold = n :=
  ⟨c.brokenRule?_eq_none_iff, fun _ => ⟨rfl, rfl⟩⟩

/-- The shared breaker of accepted settings may open at no failure at all. -/
theorem threshold_zero_accepted :
    let c : GatewayConfig Float :=
      ⟨[.standard .deribit], { ResilienceSettings.standard with breaker := ⟨0, 30⟩ }, {}⟩
    c.brokenRule? = none ∧ c.resilience.toConfig.breaker.threshold = 0 ∧
      ((Registry.ofConfig c.resilience.toConfig).breaker "deribit.rest").config.threshold = 0 := by
  decide +kernel

end GatewayConfig

end VenueGateway
