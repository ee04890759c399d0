import VenueGateway.Dialect.Subscription
import VenueGateway.Proofs.Text.Pieces

namespace VenueGateway

namespace Grvt

/-- The number of a request, which stands behind the first colon of its text. -/
def requestNumber? (text : String) : Option Nat := do
  let (_, rest) ← Text.splitOnce ':' text.toList
  Text.readNat (rest.takeWhile Char.isDigit)

theorem requestNumber?_object {key : String} (hk : ':' ∉ (Json.quoted key).toList) (number : Nat)
    (field : String × Json) (fields : List (String × Json)) :
    requestNumber? (Json.object ((key, .ofNat number) :: field :: fields)).text = some number := by
  have htext : ∃ rest, (Json.object ((key, .ofNat number) :: field :: fields)).text.toList =
      ('\x7b' :: (Json.quoted key).toList) ++ ':' :: (Text.natDigits number ++ ',' :: rest) := by
    simp [Json.text, Json.pieces, Json.fieldPieces, Json.ofNat, Json.numberText, Text.ofInt,
      Text.ofNat]
  obtain ⟨rest, htext⟩ := htext
  have hkey : ':' ∉ '\x7b' :: (Json.quoted key).toList := by simpa using hk
  have hdigits : (Text.natDigits number ++ ',' :: rest).takeWhile Char.isDigit =
      Text.natDigits number := by
    rw [List.takeWhile_append_of_pos Text.isDigit_of_mem_natDigits]
    simp
  simp only [requestNumber?, htext, Text.splitOnce_append hkey, Option.bind_eq_bind,
    Option.bind_some, hdigits, Text.readNat_natDigits]

theorem requestNumber?_request (envelope : Envelope) (number : Nat) (method stream : String)
    (selectors : List String) :
    requestNumber? (request envelope number method stream selectors) = some number := by
  cases envelope <;> exact requestNumber?_object (by decide) number _ _

theorem requestNumber?_numbered (envelope : Envelope) (method : String) (number : Nat)
    (groups : List (String × List String)) :
    (numbered envelope method number groups).map requestNumber? =
      (List.range' number groups.length).map some := by
  induction groups generalizing number with
  | nil => rfl
  | cons g gs ih =>
    simp only [numbered, List.map_cons, List.length_cons, List.range'_succ, ih,
      requestNumber?_request]

end Grvt

end VenueGateway
