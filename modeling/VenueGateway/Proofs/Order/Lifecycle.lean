import VenueGateway.Proofs.Order.Table

namespace VenueGateway

namespace OrderState

/-- How far an order has come; all ends are equally far. -/
def rank : OrderState → Nat
  | .pending => 0
  | .acknowledged => 1
  | .partiallyFilled => 2
  | .filled | .cancelled | .rejected | .expired => 3

theorem rank_pos_iff {s : OrderState} : 0 < s.rank ↔ s ≠ .pending := by
  cases s <;> decide

/-- A list of transitions that leads from one state to another. An ignored event names the state
that the walk has come to. -/
inductive Walk : OrderState → List Transition → OrderState → Prop
  | stay (s : OrderState) : Walk s [] s
  | applied {s t u : OrderState} {ts : List Transition} (h : s.canBecome t = true)
      (hx : t ≠ .expired) (rest : Walk t ts u) : Walk s (.applied s t :: ts) u
  | ignored {s u : OrderState} {ts : List Transition} (kind : EventKind) (rest : Walk s ts u) :
      Walk s (.ignored s kind :: ts) u

namespace Walk

variable {s t u : OrderState} {ts ts' : List Transition}

theorem append (h : Walk s ts t) (h' : Walk t ts' u) : Walk s (ts ++ ts') u := by
  induction h with
  | stay s => exact h'
  | applied hc hx _ ih => exact .applied hc hx (ih h')
  | ignored kind _ ih => exact .ignored kind (ih h')

theorem rank_lt_of_canBecome (h : s.canBecome t = true) : s.rank < t.rank := by
  cases s <;> cases t <;> simp_all [canBecome, rank]

/-- Orders only go forward. -/
theorem rank_le (h : Walk s ts t) : s.rank ≤ t.rank := by
  induction h with
  | stay s => exact Nat.le_refl _
  | applied hc _ _ ih => exact Nat.le_trans (Nat.le_of_lt (rank_lt_of_canBecome hc)) ih
  | ignored _ _ ih => exact ih

theorem isTerminal_eq_false_of_canBecome (h : s.canBecome t = true) : s.isTerminal = false := by
  cases s <;> cases t <;> simp_all [canBecome, isTerminal]

/-- No walk leads away from an end. -/
theorem eq_of_isTerminal (h : Walk s ts t) (hs : s.isTerminal = true) : t = s := by
  induction h with
  | stay s => rfl
  | applied hc _ _ _ =>
    have hf := isTerminal_eq_false_of_canBecome hc
    simp [hf] at hs
  | ignored _ _ ih => exact ih hs

theorem ne_expired (h : Walk s ts t) (hs : s ≠ .expired) : t ≠ .expired := by
  induction h with
  | stay s => exact hs
  | applied _ hx _ ih => exact ih hx
  | ignored _ _ ih => exact ih hs

theorem of_mem (h : Walk s ts u) {a b : OrderState} (hm : Transition.applied a b ∈ ts) :
    a.canBecome b = true ∧ b ≠ .expired := by
  induction h with
  | stay s => cases hm
  | applied hc hx _ ih =>
    rcases List.mem_cons.mp hm with he | hm
    · cases he
      exact ⟨hc, hx⟩
    · exact ih hm
  | ignored _ _ ih =>
    rcases List.mem_cons.mp hm with he | hm
    · cases he
    · exact ih hm

/-- Without an applied transition the walk stands still. -/
theorem eq_of_none_applied (h : Walk s ts t) (hn : ∀ tr ∈ ts, tr.isApplied = false) : t = s := by
  induction h with
  | stay s => rfl
  | applied _ _ _ _ =>
    have hf := hn _ List.mem_cons_self
    simp [Transition.isApplied] at hf
  | ignored _ _ ih => exact ih fun tr hm => hn tr (List.mem_cons_of_mem _ hm)

end Walk

theorem next_ne_expired {s : OrderState} {kind : EventKind}
    (h : s.canBecome (s.next kind) = true) : s.next kind ≠ .expired := by
  cases s <;> cases kind <;> simp_all [canBecome, next]

/-- One event against the state machine. -/
theorem receive_walk (s : OrderState) (kind : EventKind) :
    Walk s [s.receive kind] (s.receive kind).state := by
  unfold receive
  by_cases h : s.canBecome (s.next kind) = true
  · simp only [h, if_true]
    exact .applied h (next_ne_expired h) (.stay _)
  · simp only [h, Bool.false_eq_true, if_false]
    exact .ignored kind (.stay s)

end OrderState

open OrderState (Walk)

/-- The venue's word that it has the order. -/
def OrderEvent.isConfirmation {α : Type} (e : OrderEvent α) : Bool :=
  e.kind = .ack || e.kind = .fill

namespace OrderEntry

theorem step_walk {α : Type} (entry : OrderEntry α) (kind : EventKind) (now : Int) :
    Walk entry.state [(entry.step kind now).2] (entry.step kind now).1.state := by
  rw [step_transition, step_state]
  exact entry.state.receive_walk kind

theorem stepIf_walk {α : Type} (entry : OrderEntry α) (b : Bool) (kind : EventKind) (now : Int) :
    Walk entry.state (entry.stepIf b kind now).2 (entry.stepIf b kind now).1.state := by
  cases b with
  | false => exact .stay _
  | true => exact step_walk entry kind now

theorem acked_ne_pending {α : Type} (entry : OrderEntry α) (now : Int) :
    (entry.acked now).state ≠ .pending := by
  rw [acked_state]
  split
  · decide
  · next h => exact h

variable {α : Type} [Amount α]

theorem climb_walk (entry : OrderEntry α) (now : Int) :
    Walk entry.state (entry.climb now).2 (entry.climb now).1.state :=
  (stepIf_walk entry _ .fill now).append (stepIf_walk _ _ .fill now)

theorem receiveFill_walk (entry : OrderEntry α) (f : Fill α) (now : Int) :
    Walk entry.state (entry.receiveFill f now).2.1 (entry.receiveFill f now).1.state := by
  cases h : entry.state.isTerminal with
  | true =>
    rw [receiveFill_of_isTerminal f now h]
    exact .ignored .fill (.stay _)
  | false =>
    rw [receiveFill_of_isOpen f now h]
    -- The walk goes to the acknowledgement and on from there: an execution itself is no step.
    have hr := (recordFill_recorded (entry.acked now) f now).state
    have hc := climb_walk ((entry.acked now).recordFill f now).1 now
    rw [hr] at hc
    exact (stepIf_walk entry _ .ack now).append hc

theorem receiveStep_walk (entry : OrderEntry α) (e : OrderEvent α) (now : Int) :
    Walk entry.state (entry.receiveStep e now).2.1 (entry.receiveStep e now).1.state := by
  simp only [receiveStep]
  split <;> exact step_walk entry e.kind now

/-- The transitions of any event lead from the state before it to the state after it. -/
theorem receive_walk (entry : OrderEntry α) (e : OrderEvent α) (now : Int) (isNew : Bool) :
    Walk entry.state (entry.receive e now isNew).2.transitions
      (entry.receive e now isNew).1.state := by
  by_cases h : e.kind = .fill
  · rw [receive_of_fill entry now isNew h, ← (prepared_amended entry e).state]
    exact receiveFill_walk _ e.fill now
  · rw [receive_of_ne_fill entry now isNew h, ← (prepared_amended entry e).state]
    exact receiveStep_walk _ e now

/-- What an order becomes by the events that are heard of it, however often it is sent again in
between. -/
inductive Course (a : OrderEntry α) : List (OrderEvent α × Int) → OrderEntry α → Prop
  | start : Course a [] a
  | hear {es : List (OrderEvent α × Int)} {b : OrderEntry α} (h : Course a es b)
      (e : OrderEvent α) (now : Int) : Course a (es ++ [(e, now)]) (b.receive e now false).1
  | retry {es : List (OrderEvent α × Int)} {b : OrderEntry α} (h : Course a es b) (n : Nat) :
      Course a es { b with retries := b.retries + n }

theorem receiveFill_ne_pending (entry : OrderEntry α) (f : Fill α) (now : Int) :
    (entry.receiveFill f now).1.state ≠ .pending := by
  cases ht : entry.state.isTerminal with
  | true =>
    rw [receiveFill_of_isTerminal f now ht]
    intro hs
    rw [hs] at ht
    cases ht
  | false =>
    rw [receiveFill_of_isOpen f now ht, ← OrderState.rank_pos_iff]
    have hw := climb_walk ((entry.acked now).recordFill f now).1 now
    rw [(recordFill_recorded (entry.acked now) f now).state] at hw
    exact Nat.lt_of_lt_of_le (OrderState.rank_pos_iff.mpr (acked_ne_pending entry now)) hw.rank_le

/-- An order that the venue is known to have is pending no longer. -/
theorem receive_ne_pending (entry : OrderEntry α) {e : OrderEvent α} (now : Int) (isNew : Bool)
    (h : e.isConfirmation = true) : (entry.receive e now isNew).1.state ≠ .pending := by
  by_cases hk : e.kind = .fill
  · rw [receive_of_fill entry now isNew hk]
    exact receiveFill_ne_pending _ e.fill now
  · have ha : e.kind = .ack := by simpa [OrderEvent.isConfirmation, hk] using h
    rw [receive_of_ne_fill entry now isNew hk, receiveStep_state, ha]
    cases (entry.prepared e).state <;> decide

namespace Course

variable {a b : OrderEntry α} {es : List (OrderEvent α × Int)}

theorem ne_pending (h : Course a es b) (hc : ∃ x ∈ es, x.1.isConfirmation = true) :
    b.state ≠ .pending := by
  -- Along the events: no step leads back to pending, so it is enough that one of them is a
  -- confirmation.
  induction h with
  | start => simp at hc
  | @hear es b _ e now ih =>
    by_cases he : e.isConfirmation = true
    · exact receive_ne_pending b now false he
    · have hc' : ∃ x ∈ es, x.1.isConfirmation = true := by
        obtain ⟨x, hx, hcx⟩ := hc
        rcases List.mem_append.mp hx with hx | hx
        · exact ⟨x, hx, hcx⟩
        · rw [List.mem_singleton.mp hx] at hcx
          exact absurd hcx he
      have hw := b.receive_walk e now false
      rw [← OrderState.rank_pos_iff]
      exact Nat.lt_of_lt_of_le (OrderState.rank_pos_iff.mpr (ih hc')) hw.rank_le
  | retry _ _ ih => exact ih hc

end Course

end OrderEntry

namespace OrderTable

/-- The state under an id; an order not heard of yet is as good as pending. -/
def stateOf {α : Type} (t : OrderTable α) (id : String) : OrderState :=
  ((t.find? id).map (·.state)).getD .pending

variable {α : Type} [Amount α]

theorem target_state (t : OrderTable α) (e : OrderEvent α) :
    (t.target e).state = t.stateOf e.id := by
  unfold target stateOf
  cases t.find? e.id <;> rfl

theorem stateOf_receive (t : OrderTable α) (e : OrderEvent α) (now : Int) (id : String) :
    (t.receive e now).1.stateOf id =
      if id = e.id then ((t.target e).receive e now false).1.state else t.stateOf id := by
  unfold stateOf
  rw [find?_receive]
  split <;> rfl

/-- The transitions that a list of events makes an order take, first to last. -/
def trace (t : OrderTable α) (id : String) : List (OrderEvent α × Int) → List Transition
  | [] => []
  | (e, now) :: es =>
    (if e.id = id then (t.receive e now).2.transitions else []) ++ (t.receive e now).1.trace id es

def receiveAll (t : OrderTable α) (es : List (OrderEvent α × Int)) : OrderTable α :=
  es.foldl (fun t (e, now) => (t.receive e now).1) t

theorem receive_walk (t : OrderTable α) (e : OrderEvent α) (now : Int) :
    Walk (t.stateOf e.id) (t.receive e now).2.transitions ((t.receive e now).1.stateOf e.id) := by
  rw [receive_update, stateOf_receive, if_pos rfl, ← target_state]
  exact (t.target e).receive_walk e now _

theorem trace_walk (t : OrderTable α) (id : String) (es : List (OrderEvent α × Int)) :
    Walk (t.stateOf id) (t.trace id es) ((t.receiveAll es).stateOf id) := by
  induction es generalizing t with
  | nil => exact .stay _
  | cons x es ih =>
    obtain ⟨e, now⟩ := x
    have htail := ih (t.receive e now).1
    -- Events of other orders leave no trace, and the state where it was.
    by_cases h : e.id = id
    · subst h
      simp only [trace, if_true]
      exact (t.receive_walk e now).append htail
    · have hs : (t.receive e now).1.stateOf id = t.stateOf id := by
        rw [stateOf_receive, if_neg (Ne.symm h)]
      rw [hs] at htail
      simp only [trace, if_neg h, List.nil_append]
      exact htail

/-- Whatever a gateway does to its table, each order in it walks on. -/
theorem Step.walk {t t' : OrderTable α} (h : Step t t') (id : String) :
    ∃ ts, Walk (t.stateOf id) ts (t'.stateOf id) := by
  cases h with
  | insert o _ h =>
    -- A new entry is pending, as an id without an entry counts anyway.
    refine ⟨[], ?_⟩
    have he : t'.stateOf id = t.stateOf id := by
      unfold stateOf
      rw [find?_insertNew? h]
      by_cases hid : id = o.id
      · subst hid
        rw [if_pos rfl, (insertNew?_eq_some h).1]
        rfl
      · rw [if_neg hid]
    rw [he]
    exact .stay _
  | addRetries id' n =>
    refine ⟨[], ?_⟩
    have he : (t.addRetries id' n).stateOf id = t.stateOf id := by
      unfold stateOf
      rw [find?_addRetries]
      cases t.find? id with
      | none => rfl
      | some entry =>
        simp only [Option.map_some, Option.getD_some]
        split <;> rfl
    rw [he]
    exact .stay _
  | receive e now =>
    by_cases hid : id = e.id
    · subst hid
      exact ⟨_, t.receive_walk e now⟩
    · rw [stateOf_receive, if_neg hid]
      exact ⟨[], .stay _⟩

end OrderTable

end VenueGateway
