import Mathlib.Data.List.Induction
import VenueGateway.Dialect.Inbound
import VenueGateway.Proofs.Feed.Reports

namespace VenueGateway

namespace PendingOrders

variable {p : PendingOrders} {m n : Nat} {o : PendingOrder}

theorem find?_put (n : Nat) (o : PendingOrder) (entries : List (Nat × PendingOrder)) (m : Nat) :
    find? ⟨put n o entries⟩ m = if m = n then some o else find? ⟨entries⟩ m := by
  -- Induction along the entries: the number is replaced where it stands or added at the end.
  induction entries with
  | nil =>
    by_cases h : m = n
    · simp [find?, put, h]
    · simp [find?, put, h, Ne.symm h]
  | cons entry entries ih =>
    obtain ⟨k, q⟩ := entry
    unfold find? at ih ⊢
    by_cases hk : k = n
    · subst hk
      by_cases h : m = k
      · simp [put, h]
      · simp [put, h, Ne.symm h]
    · by_cases h : k = m
      · subst h
        simp [put, hk]
      · simpa [put, hk, h] using ih

theorem find?_track (hroom : p.entries.length < capacity) :
    (p.track n o).find? m = if m = n then some o else p.find? m := by
  unfold track
  rw [if_neg (by omega), find?_put]

theorem find?_remove (p : PendingOrders) (n m : Nat) :
    (p.remove n).find? m = if m = n then none else p.find? m := by
  unfold find? remove
  rw [List.find?_filter]
  by_cases h : m = n
  · subst h
    rw [if_pos rfl, List.find?_eq_none.mpr (by simp)]
    rfl
  · rw [if_neg h]
    congr 2
    funext entry
    by_cases hm : entry.1 = m
    · simp [hm, h]
    · simp [hm]

theorem remove_of_find?_none (h : p.find? n = none) : p.remove n = p := by
  obtain ⟨entries⟩ := p
  simp only [find?, Option.map_eq_none_iff, List.find?_eq_none] at h
  simp only [remove, mk.injEq, List.filter_eq_self]
  intro entry hentry
  simpa using h entry hentry

theorem length_put_le (n : Nat) (o : PendingOrder) (entries : List (Nat × PendingOrder)) :
    (put n o entries).length ≤ entries.length + 1 := by
  induction entries with
  | nil => simp [put]
  | cons entry entries ih =>
    unfold put
    split
    · simp
    · simpa using ih

theorem length_track_le_succ (p : PendingOrders) (n : Nat) (o : PendingOrder) :
    (p.track n o).entries.length ≤ p.entries.length + 1 := by
  refine Nat.le_trans (length_put_le n o _) ?_
  split <;> simp

/-- A full table is emptied rather than let grow. -/
theorem length_track_le (p : PendingOrders) (n : Nat) (o : PendingOrder) :
    (p.track n o).entries.length ≤ capacity := by
  change (put n o (if p.entries.length ≥ capacity then [] else p.entries)).length ≤ capacity
  have hcapacity : 0 < capacity := by decide
  split
  · exact hcapacity
  · have hput := length_put_le n o p.entries
    omega

theorem length_remove_le (p : PendingOrders) (n : Nat) :
    (p.remove n).entries.length ≤ p.entries.length := List.length_filter_le ..

end PendingOrders

namespace Deribit

open Feed

variable {now : Int} {p : PendingOrders} {j : Json} {e : OrderEvent Float}
  {records : List (Record Float)}

/-- A message that names no method and brings a result or an error. -/
def isAnswer (j : Json) : Bool :=
  ((j.field? "method").bind Json.string?).isNone &&
    ((j.field? "result").isSome || (j.field? "error").isSome)

/-- The number of the request that an answer is about. -/
def request? (j : Json) : Option Nat := (j.field? "id").bind Json.unsigned?

theorem route_of_answer (h : isAnswer j) : route now p j = (answer now p j, settled p j) := by
  simp only [isAnswer, Bool.and_eq_true, Option.isNone_iff_eq_none] at h
  simp only [route, h.1, h.2, if_true]

/-- Any other message does not care what is pending. -/
theorem route_of_not_answer (h : ¬ isAnswer j) : route now p j = ((route now {} j).1, p) := by
  simp only [isAnswer, Bool.and_eq_true, Option.isNone_iff_eq_none, not_and] at h
  unfold route
  split
  · rfl
  · rfl
  · rename_i hmethod
    rw [if_neg (h hmethod)]
    rw [if_neg (h hmethod)]

theorem answered?_eq (p : PendingOrders) (j : Json) : answered? p j = (request? j).bind p.find? :=
  rfl

theorem settled_eq (p : PendingOrders) (j : Json) :
    settled p j = match request? j with
      | some n => p.remove n
      | none => p := rfl

/-- An answer to none of the pending requests is read as if nothing were pending. -/
theorem answer_of_not_pending (h : answered? p j = none) : answer now p j = answer now {} j := by
  have hempty : answered? {} j = none := by
    rw [answered?_eq]
    exact Option.bind_eq_none_iff.mpr fun _ _ => rfl
  unfold answer
  rw [h, hempty]

theorem answer_error {error : Json} (h : j.field? "error" = some error) :
    answer now p j = .ok ((answered? p j).map (rejected now (errorText error))).toList := by
  simp only [answer, h]

/-- An order is rejected by the error that answers it, or else the message itself reports it. -/
theorem of_mem_route (h : (route now p j).1 = .ok records) (he : .order e ∈ records) :
    (∃ error o, j.field? "error" = some error ∧ answered? p j = some o ∧
      .order e = rejected now (errorText error) o) ∨ ∃ o ∈ reported j, order now o = .ok e := by
  -- One case for each kind of message the route tells apart: a notification, a message with another
  -- method, and an answer.
  unfold route at h
  split at h
  case h_1 hmethod =>
    right
    obtain ⟨params, hparams, hread⟩ := bind_eq_ok_iff.mp h
    simp only [reported, hmethod, orMissing_eq_ok_iff.mp hparams, Option.map_some,
      Option.getD_some]
    exact of_mem_notification hread he
  case h_2 =>
    cases h
    cases he
  case h_3 hmethod =>
    simp only [reported, hmethod]
    split at h
    · unfold answer at h
      split at h
      case h_1 error herror =>
        cases h
        left
        obtain ⟨o, ho, heq⟩ := Option.map_eq_some_iff.mp (Option.mem_toList.mp he)
        exact ⟨error, o, herror, ho, heq.symm⟩
      case h_2 herror =>
        right
        split at h
        case h_1 o ho =>
          obtain ⟨e', he', heq⟩ := map_eq_ok_iff.mp h
          cases heq
          cases List.mem_singleton.mp he
          exact ⟨o, by simp [herror, ho], he'⟩
        case h_2 =>
          cases h
          cases he
    · cases h

/-- The only order that an answer can report is the one in its result. -/
theorem mem_reported_answer {o : Json} (h : isAnswer j) (ho : o ∈ reported j) :
    j.path? ["result", "order"] = some o := by
  simp only [isAnswer, Bool.and_eq_true, Option.isNone_iff_eq_none] at h
  simp only [reported, h.1] at ho
  split at ho
  · cases ho
  · exact Option.mem_toList.mp ho

/-- The answer that a text is, if it is one. -/
def answer? (text : String) : Option Json := (Json.read text).filter isAnswer

theorem decode_of_read {text : String} (h : Json.read text = some j) :
    Dialect.deribit.decode now p text = ((route now p j).1.toOption, (route now p j).2) := by
  simp only [Dialect.decode, h, Dialect.route]
  obtain ⟨parsed, p'⟩ := route now p j
  cases parsed <;> rfl

theorem decode_of_answer {text : String} (h : answer? text = some j) :
    Dialect.deribit.decode now p text = ((answer now p j).toOption, settled p j) := by
  obtain ⟨hread, hanswer⟩ := Option.filter_eq_some_iff.mp h
  rw [decode_of_read hread, route_of_answer hanswer]

/-- A text that is no answer gives what it gives with nothing pending, and settles nothing. -/
theorem decode_of_not_answer {text : String} (h : answer? text = none) :
    Dialect.deribit.decode now p text = ((Dialect.deribit.decode now {} text).1, p) := by
  cases hread : Json.read text with
  | none => simp only [Dialect.decode, hread]
  | some j =>
    have hanswer : ¬ isAnswer j := by simpa [answer?, hread] using h
    rw [decode_of_read hread, decode_of_read hread, route_of_not_answer hanswer]

end Deribit

end VenueGateway
