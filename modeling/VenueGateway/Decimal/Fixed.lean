import VenueGateway.Decimal.Binary
import VenueGateway.Text.Integer

namespace VenueGateway.Decimal

/-- `num / den` with `places` digits after the point, a half going to the even neighbour. -/
def fixedChars (places num den : Nat) : List Char :=
  let scaled := roundDiv (num * Nat.pow 10 places) den
  let frac := Text.natDigits (scaled % Nat.pow 10 places)
  Text.natDigits (scaled / Nat.pow 10 places) ++
    '.' :: (List.replicate (places - frac.length) '0' ++ frac)

/-- Zeros at the end go, and a point that ends the text with them. -/
def trimZeros (cs : List Char) : List Char :=
  ((cs.reverse.dropWhile (· == '0')).dropWhile (· == '.')).reverse

/-- The text of a double with `places` places at most. -/
def trimmedText (places : Nat) (x : Float) : String :=
  match Binary.ofFloat? x with
  | some b =>
    let (num, den) := b.ratio
    String.ofList ((if b.negative then ['-'] else []) ++ trimZeros (fixedChars places num den))
  | none => if x.isNaN then "NaN" else if 0 < x then "inf" else "-inf"

end VenueGateway.Decimal
