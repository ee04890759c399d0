import VenueGateway.Decimal.Binary

namespace VenueGateway

/-- Quantities and prices. The order book keeping is written once for any arithmetic with these
operations: it runs on doubles, and its laws are those of exact fractions. -/
class Amount (α : Type) extends Zero α, Add α, Sub α, Mul α, Div α, LT α, LE α where
  /-- Differences up to this size count as none. -/
  epsilon : α
  mulAdd : α → α → α → α
  isFinite : α → Bool
  decideLt : (a b : α) → Decidable (a < b)
  decideLe : (a b : α) → Decidable (a ≤ b)

namespace Amount

variable {α : Type} [Amount α]

instance (a b : α) : Decidable (a < b) := decideLt a b

instance (a b : α) : Decidable (a ≤ b) := decideLe a b

def isPositive (a : α) : Bool := decide (0 < a)

/-- Zero for anything that is not positive. -/
def atLeastZero (a : α) : α := if 0 < a then a else 0

/-- The amount, if there is one and it is positive. -/
def positive? (a : Option α) : Option α := a.filter isPositive

/-- The amount, if there is one and it is positive and finite. -/
def usable? (a : Option α) : Option α := a.filter fun x => isFinite x && isPositive x

end Amount

instance : Amount Float where
  epsilon := 1e-8
  mulAdd := Decimal.mulAdd
  isFinite := Float.isFinite
  decideLt := fun a b => inferInstanceAs (Decidable (a < b))
  decideLe := fun a b => inferInstanceAs (Decidable (a ≤ b))

/-- Exact fractions: the product and sum of `mulAdd` are not rounded. -/
instance : Amount Rat where
  zero := 0
  epsilon := 1 / 100000000
  mulAdd a b c := a * b + c
  isFinite _ := true
  decideLt := fun a b => inferInstanceAs (Decidable (a < b))
  decideLe := fun a b => inferInstanceAs (Decidable (a ≤ b))

end VenueGateway
