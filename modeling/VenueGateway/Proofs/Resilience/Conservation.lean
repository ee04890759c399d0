import Mathlib.Data.List.DropRight
import VenueGateway.Resilience.DeadLetter

namespace VenueGateway.DeadLetters

/-- A call that failed for good, as it is handed in. -/
structure Failure where
  service : String
  operation : String
  payload : Option String
  error : GatewayError
  attempts : Nat
  now : Int

/-- The letter about a failure, in its place in the sequence of all. -/
def Failure.letter (f : Failure) (sequence : Nat) : DeadLetter :=
  ⟨sequence, f.service, f.operation, f.payload, f.error.kind, f.error.message, f.error.context,
    f.attempts, f.now⟩

inductive Use where
  | push (f : Failure)
  | drain

/-- All failures pushed. -/
def pushes (uses : List Use) : List Failure :=
  uses.filterMap fun
    | .push f => some f
    | .drain => none

/-- Those pushed since the last drain. -/
def pushesSinceDrain (uses : List Use) : List Failure :=
  uses.foldl (fun fs use =>
    match use with
    | .push f => fs ++ [f]
    | .drain => []) []

/-- The letters about all failures, numbered from zero. -/
def letters (uses : List Use) : List DeadLetter := (pushes uses).mapIdx fun i f => f.letter i

/-- A queue, the numbers that its pushes have returned, and the letters drained from it. -/
structure Ledger where
  queue : DeadLetters
  numbers : List Nat := []
  drained : List DeadLetter := []

namespace Ledger

def act (l : Ledger) : Use → Ledger
  | .push f =>
    let (n, q, _) := l.queue.push f.service f.operation f.payload f.error f.attempts f.now
    { l with queue := q, numbers := l.numbers ++ [n] }
  | .drain =>
    let (ls, q) := l.queue.drain
    { l with queue := q, drained := l.drained ++ ls }

def run (l : Ledger) (uses : List Use) : Ledger := uses.foldl act l

end Ledger

section Concat

variable (uses : List Use) (f : Failure)

theorem pushes_push : pushes (uses ++ [.push f]) = pushes uses ++ [f] := by
  simp [pushes]

theorem pushes_drain : pushes (uses ++ [.drain]) = pushes uses := by
  simp [pushes]

theorem pushesSinceDrain_push :
    pushesSinceDrain (uses ++ [.push f]) = pushesSinceDrain uses ++ [f] := by
  simp [pushesSinceDrain]

theorem pushesSinceDrain_drain : pushesSinceDrain (uses ++ [.drain]) = [] := by
  simp [pushesSinceDrain]

theorem letters_push :
    letters (uses ++ [.push f]) = letters uses ++ [f.letter (pushes uses).length] := by
  simp [letters, pushes_push, List.mapIdx_append]

theorem letters_drain : letters (uses ++ [.drain]) = letters uses := by
  simp [letters, pushes_drain]

theorem length_letters : (letters uses).length = (pushes uses).length := by
  simp [letters]

theorem sequences_letters :
    (letters uses).map (·.sequence) = List.range (pushes uses).length := by
  apply List.ext_getElem <;> simp [letters, Failure.letter]

theorem length_pushesSinceDrain_le : (pushesSinceDrain uses).length ≤ (pushes uses).length := by
  induction uses using List.reverseRecOn with
  | nil => exact Nat.le_refl _
  | append_singleton uses use ih =>
    cases use with
    | push f =>
      rw [pushesSinceDrain_push, pushes_push, List.length_append, List.length_append]
      exact Nat.add_le_add_right ih 1
    | drain =>
      rw [pushesSinceDrain_drain]
      exact Nat.zero_le _

end Concat

section Recent

variable {α : Type} {xs : List α} {n : Nat}

theorem length_rtake (h : n ≤ xs.length) : (xs.rtake n).length = n := by
  rw [List.rtake, List.length_drop]
  omega

/-- Of the most recent elements, the oldest makes room. -/
theorem tail_rtake (h : n < xs.length) : (xs.rtake (n + 1)).tail = xs.rtake n := by
  have hdrop : xs.length - (n + 1) + 1 = xs.length - n := by omega
  rw [List.rtake, List.tail_drop, hdrop, List.rtake]

theorem map_rtake {β : Type} (f : α → β) : (xs.rtake n).map f = (xs.map f).rtake n := by
  rw [List.rtake, List.rtake, List.map_drop, List.length_map]

end Recent

/-- What a push keeps: everything, or everything but the oldest letter. -/
def kept (room : Nat) (entries : List DeadLetter) : List DeadLetter :=
  if room ≤ entries.length then entries.tail else entries

theorem kept_sublist (room : Nat) (entries : List DeadLetter) :
    (kept room entries).Sublist entries := by
  unfold kept
  split_ifs
  · exact List.tail_sublist entries
  · exact List.Sublist.refl entries

/-- What a history has come to: each push has returned the next number, the most recent letters are
held, and every letter is held, drained or evicted. -/
structure Conserved (room : Nat) (uses : List Use) (l : Ledger) : Prop where
  room_pos : 0 < room
  capacity_eq : l.queue.capacity = room
  nextSequence_eq : l.queue.nextSequence = (pushes uses).length
  numbers_eq : l.numbers = List.range (pushes uses).length
  entries_eq :
    l.queue.entries = (letters uses).rtake (min room (pushesSinceDrain uses).length)
  pushes_eq :
    (pushes uses).length = l.queue.entries.length + l.drained.length + l.queue.evicted
  sublist : (l.drained ++ l.queue.entries).Sublist (letters uses)

namespace Conserved

variable {room : Nat} {uses : List Use} {l : Ledger}

theorem opened (capacity : Nat) :
    Conserved (max capacity 1) [] { queue := ofCapacity capacity } where
  room_pos := Nat.lt_of_lt_of_le Nat.one_pos (Nat.le_max_right capacity 1)
  capacity_eq := rfl
  nextSequence_eq := rfl
  numbers_eq := rfl
  entries_eq := (List.rtake_nil _).symm
  pushes_eq := rfl
  sublist := List.nil_sublist _

theorem length_entries (h : Conserved room uses l) :
    l.queue.entries.length = min room (pushesSinceDrain uses).length := by
  have hle := length_pushesSinceDrain_le uses
  rw [h.entries_eq, length_rtake]
  rw [length_letters]
  omega

theorem kept_eq (h : Conserved room uses l) :
    kept room l.queue.entries =
      (letters uses).rtake (min (room - 1) (pushesSinceDrain uses).length) := by
  have hroom := h.room_pos
  have hlength := h.length_entries
  have hle := length_pushesSinceDrain_le uses
  unfold kept
  -- A full queue gives up its oldest letter for the new one; any other keeps all it has.
  by_cases hfull : room ≤ l.queue.entries.length
  · have hsome : room - 1 < (letters uses).length := by
      rw [length_letters]
      omega
    have hroom' : min room (pushesSinceDrain uses).length = room - 1 + 1 := by omega
    have hless : min (room - 1) (pushesSinceDrain uses).length = room - 1 := by omega
    rw [if_pos hfull, h.entries_eq, hroom', hless, tail_rtake hsome]
  · have hall : min room (pushesSinceDrain uses).length =
        min (room - 1) (pushesSinceDrain uses).length := by omega
    rw [if_neg hfull, h.entries_eq, hall]

theorem act_push (h : Conserved room uses l) (f : Failure) :
    l.act (.push f) =
      { l with
        queue :=
          { capacity := room
            entries := kept room l.queue.entries ++ [f.letter (pushes uses).length]
            nextSequence := (pushes uses).length + 1
            evicted :=
              if room ≤ l.queue.entries.length then l.queue.evicted + 1 else l.queue.evicted }
        numbers := l.numbers ++ [(pushes uses).length] } := by
  simp only [Ledger.act, DeadLetters.push, h.capacity_eq, h.nextSequence_eq]
  rfl

theorem push (h : Conserved room uses l) (f : Failure) :
    Conserved room (uses ++ [.push f]) (l.act (.push f)) := by
  have hroom := h.room_pos
  have hlength := h.length_entries
  rw [h.act_push]
  refine ⟨hroom, rfl, ?_, ?_, ?_, ?_, ?_⟩
  · rw [pushes_push, List.length_append]
    rfl
  · rw [pushes_push, List.length_append, List.length_singleton, List.range_succ, h.numbers_eq]
  · have hmore : min room ((pushesSinceDrain uses).length + 1) =
        min (room - 1) (pushesSinceDrain uses).length + 1 := by omega
    rw [letters_push, pushesSinceDrain_push, List.length_append, List.length_singleton, hmore,
      List.rtake_concat_succ, h.kept_eq]
  · have hpushes := h.pushes_eq
    rw [pushes_push]
    dsimp only
    unfold kept
    split_ifs with hfull
    · simp only [List.length_append, List.length_singleton, List.length_tail]
      omega
    · simp only [List.length_append, List.length_singleton]
      omega
  · have hkept := (List.Sublist.refl l.drained).append (kept_sublist room l.queue.entries)
    rw [letters_push, ← List.append_assoc]
    exact (hkept.trans h.sublist).append (List.Sublist.refl _)

theorem drain (h : Conserved room uses l) :
    Conserved room (uses ++ [.drain]) (l.act .drain) := by
  refine ⟨h.room_pos, h.capacity_eq, ?_, ?_, ?_, ?_, ?_⟩
  · rw [pushes_drain]
    exact h.nextSequence_eq
  · rw [pushes_drain]
    exact h.numbers_eq
  · rw [pushesSinceDrain_drain, List.length_nil, Nat.min_zero, List.rtake_zero]
    rfl
  · have hpushes := h.pushes_eq
    simp only [Ledger.act, DeadLetters.drain, pushes_drain, List.length_append, List.length_nil]
    omega
  · rw [letters_drain]
    show ((l.drained ++ l.queue.entries) ++ []).Sublist (letters uses)
    rw [List.append_nil]
    exact h.sublist

end Conserved

theorem conserved_run (capacity : Nat) (uses : List Use) :
    Conserved (max capacity 1) uses (Ledger.run { queue := ofCapacity capacity } uses) := by
  induction uses using List.reverseRecOn with
  | nil => exact .opened capacity
  | append_singleton uses use ih =>
    have hrun : Ledger.run { queue := ofCapacity capacity } (uses ++ [use]) =
        (Ledger.run { queue := ofCapacity capacity } uses).act use := by
      simp [Ledger.run]
    rw [hrun]
    cases use with
    | push f => exact ih.push f
    | drain => exact ih.drain

/-- After any pushes and drains: the pushes have returned 0, 1, 2 and so on; the queue holds exactly
the most recent letters, as they were handed in and oldest first, as many as were pushed since the
last drain but at most as many as there is room for, and their numbers are consecutive; and each
letter pushed is held or drained, as it was handed in, or evicted. -/
theorem letters_conserved (capacity : Nat) (uses : List Use) :
    let l := Ledger.run { queue := ofCapacity capacity } uses
    let held := min (max capacity 1) (pushesSinceDrain uses).length
    l.numbers = List.range (pushes uses).length ∧
    l.queue.entries = (letters uses).rtake held ∧
    l.queue.entries.map (·.sequence) = List.range' ((pushes uses).length - held) held ∧
    (pushes uses).length = l.queue.entries.length + l.drained.length + l.queue.evicted ∧
    (l.drained ++ l.queue.entries).Sublist (letters uses) := by
  intro l held
  have h : Conserved (max capacity 1) uses l := conserved_run capacity uses
  have hheld : held ≤ (pushes uses).length :=
    (Nat.min_le_right _ _).trans (length_pushesSinceDrain_le uses)
  refine ⟨h.numbers_eq, h.entries_eq, ?_, h.pushes_eq, h.sublist⟩
  have hrest : (pushes uses).length - ((pushes uses).length - held) = held := by omega
  rw [h.entries_eq, map_rtake, sequences_letters, List.rtake, List.length_range,
    List.range_eq_range', List.drop_range', hrest, Nat.zero_add, Nat.mul_one]

end VenueGateway.DeadLetters
