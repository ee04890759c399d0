import VenueGateway.Coordinator.Instruction
import VenueGateway.Proofs.Order.Table

namespace VenueGateway

/-- A coordinator with all instructions that it was given, each by its number. -/
structure Desk (α : Type) where
  coordinator : Coordinator α
  phases : List (InstructionPhase α) := []

/-- What happens next at a desk. -/
inductive DeskAction (α : Type) where
  | instruct (i : Instruction α)
  | step (n : Nat) (clock : Clock) (noise : α)
  | answer (n : Nat) (clock : Clock) (noise : α) (outcome : Except GatewayError Unit)
  | resume (n : Nat)
  | report (r : Record α) (now : Int)

namespace DeskAction

variable {α : Type}

/-- The instruction that goes on. -/
def number? : DeskAction α → Option Nat
  | .step n .. | .answer n .. | .resume n => some n
  | .instruct _ | .report .. => none

/-- The order event that comes in, and when. -/
def event? : DeskAction α → Option (OrderEvent α × Int)
  | .report (.order e) now => some (e, now)
  | _ => none

end DeskAction

namespace InstructionPhase

variable {α : Type}

/-- What the venue is asked, once the instruction has passed all checks and until it is over. -/
def request? : InstructionPhase α → Option (VenueRequest α)
  | .attempting v _ | .calling v _ | .waiting v .. => some v
  | .rejecting r _ => some (.send r)
  | _ => none

/-- The order that is being sent. -/
def sending? (p : InstructionPhase α) : Option (OrderRequest α) :=
  match p.request? with
  | some (.send r) => some r
  | _ => none

theorem resume_request? (p : InstructionPhase α) : p.resume.request? = p.request? := by
  cases p <;> rfl

end InstructionPhase

namespace Desk

section Definitions

variable {α : Type} [Factor α] [JsonAmount α]

abbrev table (d : Desk α) : OrderTable α := d.coordinator.table

/-- A desk at which nothing has happened yet. -/
def opened (venues : List Venue) (registry : Registry α) : Desk α := ⟨{ venues, registry }, []⟩

def advance (d : Desk α) (n : Nat)
    (f : InstructionPhase α → InstructionPhase α × Coordinator α × List (Emission α)) :
    Desk α × List (Emission α) :=
  match d.phases[n]? with
  | none => (d, [])
  | some p => (⟨(f p).2.1, d.phases.set n (f p).1⟩, (f p).2.2)

def act (d : Desk α) : DeskAction α → Desk α × List (Emission α)
  | .instruct i => ({ d with phases := d.phases ++ [.checking i] }, [])
  | .step n clock noise => d.advance n (d.coordinator.step clock noise)
  | .answer n clock noise outcome => d.advance n (d.coordinator.answer clock noise outcome)
  | .resume n => d.advance n fun p => (p.resume, d.coordinator, [])
  | .report r now =>
    ({ d with coordinator := (d.coordinator.receiveRecord r now).1 },
      (d.coordinator.receiveRecord r now).2)

def run (d : Desk α) (as : List (DeskAction α)) : Desk α := as.foldl (fun d a => (d.act a).1) d

theorem run_append (d : Desk α) (as bs : List (DeskAction α)) :
    d.run (as ++ bs) = (d.run as).run bs := List.foldl_append

theorem run_concat (d : Desk α) (as : List (DeskAction α)) (a : DeskAction α) :
    d.run (as ++ [a]) = ((d.run as).act a).1 := by
  rw [run_append]
  rfl

end Definitions

/-- A desk for one venue, at which no call is repeated. -/
def single (venue : Venue) : Desk Rat :=
  opened [venue] (.ofConfig ⟨{}, ⟨0, .zero, .zero, 1, 0⟩, 10, 5⟩)

/-- What a step does to the phase of its instruction and to the table. -/
inductive Move {α : Type} [Amount α] (p : InstructionPhase α) (t : OrderTable α) :
    InstructionPhase α → OrderTable α → Prop
  | goOn (p' : InstructionPhase α) (h : p'.request? = p.request?) : Move p t p' t
  | begin (p' : InstructionPhase α) (h : p.request? = none) (h' : p'.sending? = none) :
      Move p t p' t
  | record (p' : InstructionPhase α) (r : OrderRequest α) (now : Int) (t' : OrderTable α)
      (h : p = .recording r) (h' : p'.request? = some (.send r))
      (ht : t.insertNew? (r.toOrder now) = some t') : Move p t p' t'
  | fail (r : OrderRequest α) (e : GatewayError) (n : Nat) (h : p.request? = some (.send r)) :
      Move p t (.rejecting r e) (t.addRetries r.id n)
  | conclude (v : VenueRequest α) (result : Except GatewayError Unit) (n : Nat)
      (h : p.request? = some v) : Move p t (.finished result) (t.addRetries v.id n)
  | reject (r : OrderRequest α) (e : GatewayError) (now : Int) (h : p = .rejecting r e) :
      Move p t (.finished (.error e)) (t.receive (r.rejection e now) now).1

variable {α : Type} [Factor α]

theorem conclude_move (c : Coordinator α) (p : InstructionPhase α) (v : VenueRequest α)
    (call : GuardedCall α) (result : Except GatewayError Unit) (h : p.request? = some v) :
    Move p c.table (c.conclude v call result).1 (c.conclude v call result).2.1.table := by
  cases v with
  | send r =>
    cases result with
    | ok u => exact .conclude (.send r) (.ok u) _ h
    | error e => exact .fail r e _ h
  | cancel o => exact .conclude (.cancel o) result _ h
  | modify o quantity price => exact .conclude (.modify o quantity price) result _ h

theorem afterAttempt_move (c : Coordinator α) (p : InstructionPhase α) (v : VenueRequest α)
    (outcome : NextStep Unit × Registry α × GuardedCall α × List Observation)
    (h : p.request? = some v) :
    Move p c.table (c.afterAttempt v outcome).1 (c.afterAttempt v outcome).2.1.table := by
  obtain ⟨next, registry, call, seen⟩ := outcome
  cases next with
  | invoke => exact .goOn _ h.symm
  | wait millis => exact .goOn _ h.symm
  | done result => exact conclude_move { c with registry } p v call result h

theorem answer_move (c : Coordinator α) (clock : Clock) (noise : α)
    (outcome : Except GatewayError Unit) (p : InstructionPhase α) :
    Move p c.table (c.answer clock noise outcome p).1
      (c.answer clock noise outcome p).2.1.table := by
  cases p with
  | calling v call => exact afterAttempt_move c (.calling v call) v _ rfl
  | checking _ | limiting _ | recording _ | attempting _ _ | rejecting _ _ | waiting _ _ _
  | finished _ => exact .goOn _ rfl

/-- A move changes the table in one step, if at all. -/
theorem Move.table_step {p p' : InstructionPhase α} {t t' : OrderTable α} (h : Move p t p' t') :
    t' = t ∨ OrderTable.Step t t' := by
  cases h with
  | goOn => exact Or.inl rfl
  | begin => exact Or.inl rfl
  | record _ r now _ _ _ ht => exact Or.inr (.insert (r.toOrder now) t' ht)
  | fail r e n => exact Or.inr (.addRetries r.id n)
  | conclude v result n => exact Or.inr (.addRetries v.id n)
  | reject r e now => exact Or.inr (.receive _ now)

/-- All that an action can do to the phases and to the table. -/
inductive Change (d d' : Desk α) (a : DeskAction α) : Prop
  | idle (h : a.event? = none) (hp : d'.phases = d.phases) (ht : d'.table = d.table)
  | instruct (i : Instruction α) (h : a.event? = none)
      (hp : d'.phases = d.phases ++ [.checking i]) (ht : d'.table = d.table)
  | move (n : Nat) (p p' : InstructionPhase α) (h : a.event? = none) (hn : a.number? = some n)
      (hp : d.phases[n]? = some p) (hp' : d'.phases = d.phases.set n p')
      (hm : Move p d.table p' d'.table)
  | hear (e : OrderEvent α) (now : Int) (h : a.event? = some (e, now))
      (hp : d'.phases = d.phases) (ht : d'.table = (d.table.receive e now).1)

theorem advance_change (d : Desk α) (a : DeskAction α) (n : Nat)
    (f : InstructionPhase α → InstructionPhase α × Coordinator α × List (Emission α))
    (ha : a.event? = none) (hn : a.number? = some n)
    (hf : ∀ p, Move p d.table (f p).1 (f p).2.1.table) : Change d (d.advance n f).1 a := by
  unfold advance
  cases hp : d.phases[n]? with
  | none => exact .idle ha rfl rfl
  | some p => exact .move n p (f p).1 ha hn hp rfl (hf p)

variable [JsonAmount α]

theorem step_move (c : Coordinator α) (clock : Clock) (noise : α) (p : InstructionPhase α) :
    Move p c.table (c.step clock noise p).1 (c.step clock noise p).2.1.table := by
  cases p with
  | checking i =>
    simp only [Coordinator.step]
    split
    · exact .goOn _ rfl
    · exact .goOn _ rfl
  | limiting v =>
    -- Only a send has its order recorded first; the others go straight on to their calls.
    simp only [Coordinator.step]
    cases v with
    | send r => split <;> exact .goOn _ rfl
    | cancel o =>
      cases (c.registry.checkRate (VenueRequest.cancel o).service clock.elapsed).1 with
      | error e => exact .goOn _ rfl
      | ok u => exact .begin _ rfl rfl
    | modify o quantity price =>
      cases (c.registry.checkRate (VenueRequest.modify o quantity price).service
        clock.elapsed).1 with
      | error e => exact .goOn _ rfl
      | ok u => exact .begin _ rfl rfl
  | recording r =>
    simp only [Coordinator.step]
    split
    · exact .goOn _ rfl
    · next t' ht => exact .record _ r clock.epoch t' rfl rfl ht
  | attempting v call => exact afterAttempt_move c (.attempting v call) v _ rfl
  | rejecting r e => exact .reject r e clock.epoch rfl
  | calling v call => exact .goOn _ rfl
  | waiting v call millis => exact .goOn _ rfl
  | finished result => exact .goOn _ rfl

theorem act_change (d : Desk α) (a : DeskAction α) : Change d (d.act a).1 a := by
  cases a with
  | instruct i => exact .instruct i rfl rfl rfl
  | step n clock noise =>
    exact advance_change d _ n _ rfl rfl (step_move d.coordinator clock noise)
  | answer n clock noise outcome =>
    exact advance_change d _ n _ rfl rfl (answer_move d.coordinator clock noise outcome)
  | resume n =>
    exact advance_change d _ n _ rfl rfl fun p => .goOn _ p.resume_request?
  | report r now =>
    cases r with
    | order e => exact .hear e now rfl rfl rfl
    | position _ | balance _ | trade _ | book _ => exact .idle rfl rfl rfl

theorem act_table (d : Desk α) (a : DeskAction α) :
    (d.act a).1.table = d.table ∨ OrderTable.Step d.table (d.act a).1.table := by
  cases act_change d a with
  | idle _ _ ht => exact Or.inl ht
  | instruct _ _ _ ht => exact Or.inl ht
  | move _ _ _ _ _ _ _ hm => exact hm.table_step
  | hear e now _ _ ht =>
    rw [ht]
    exact Or.inr (.receive e now)

/-- What each step of the table keeps, every run keeps. -/
theorem run_table_induction (P : OrderTable α → Prop)
    (hstep : ∀ t t', P t → OrderTable.Step t t' → P t') (d : Desk α) (h : P d.table)
    (as : List (DeskAction α)) : P (d.run as).table := by
  induction as generalizing d with
  | nil => exact h
  | cons a as ih =>
    apply ih
    rcases act_table d a with he | hs
    · rw [he]
      exact h
    · exact hstep _ _ h hs

end Desk

end VenueGateway
