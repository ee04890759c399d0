import VenueGateway.Decimal.Binary
import VenueGateway.Text.Integer

namespace VenueGateway.Decimal

/-- Digits and the power of ten of the last one. -/
structure Digits where
  digits : Nat
  exponent : Int
deriving Repr, DecidableEq

/-- The least `e` with `value < 10 ^ e`. -/
def decimalLength (b : Binary) : Int :=
  let bits : Int := (Nat.log2 b.mantissa : Int) + b.exponent
  let e := bits * 30103 / 100000 + 1
  let (num, den) := b.ratio
  if num * Nat.pow 10 (-e).toNat < den * Nat.pow 10 e.toNat then e else e + 1

/-- The grid point `c · 10 ^ u`, if it reads back as the number. -/
def readsBack (b : Binary) (u : Int) (c : Nat) : Bool :=
  let (_, den) := b.ratio
  let scale := Nat.pow 2 b.exponent.toNat * Nat.pow 10 (-u).toNat
  let below := if b.mantissa = hiddenBit ∧ b.exponent > -1074 then 1 else 2
  let lo := (4 * b.mantissa - below) * scale
  let hi := (4 * b.mantissa + 2) * scale
  let x := 4 * c * den * Nat.pow 10 u.toNat
  if b.mantissa % 2 = 0 then lo ≤ x && x ≤ hi else lo < x && x < hi

/-- The nearest grid point of spacing `10 ^ u` that reads back, if there is one. -/
def onGrid (b : Binary) (u : Int) : Option Nat :=
  let (num, den) := b.ratio
  let n := num * Nat.pow 10 (-u).toNat
  let d := den * Nat.pow 10 u.toNat
  let c := n / d
  match readsBack b u c, readsBack b u (c + 1) with
  | true, true => some (roundDiv n d)
  | true, false => some c
  | false, true => some (c + 1)
  | false, false => none

def searchGrid (b : Binary) (e : Int) : Nat → Nat → Digits
  | 0, n =>
    let (num, den) := b.ratio
    let u := e - n
    ⟨roundDiv (num * Nat.pow 10 (-u).toNat) (den * Nat.pow 10 u.toNat), u⟩
  | fuel + 1, n =>
    match onGrid b (e - n) with
    | some c => ⟨c, e - n⟩
    | none => searchGrid b e fuel (n + 1)

/-- Seventeen digits are always enough. -/
def shortest (b : Binary) : Digits :=
  if b.mantissa = 0 then ⟨0, 0⟩ else searchGrid b (decimalLength b) 17 1

/-- How a number is laid out once its digits are known. -/
structure Layout where
  /-- Positional notation is used from this power of ten of the first digit … -/
  plainFrom : Int
  /-- … to below this one. -/
  plainBelow : Int
deriving Repr

def dropZeros (ds : List Char) : List Char := (ds.reverse.dropWhile (· == '0')).reverse

def Layout.unsigned (l : Layout) (d : Digits) : List Char :=
  let all := Text.natDigits d.digits
  let first : Int := (all.length : Int) - 1 + d.exponent
  let ds := dropZeros all
  if d.digits = 0 then "0.0".toList
  else if l.plainFrom ≤ first ∧ first < l.plainBelow then
    if first < 0 then '0' :: '.' :: (List.replicate ((-first).toNat - 1) '0' ++ ds)
    else
      let whole := first.toNat + 1
      let frac := ds.drop whole
      let int := ds.take whole ++ List.replicate (whole - ds.length) '0'
      int ++ '.' :: (if frac.isEmpty then ['0'] else frac)
  else
    let head := ds.take 1
    let tail := ds.drop 1
    let sign := if first < 0 then '-' else '+'
    head ++ (if tail.isEmpty then [] else '.' :: tail) ++
      'e' :: sign :: Text.natDigits first.natAbs

/-- The text of a finite double; none for the others. -/
def Layout.text? (l : Layout) (x : Float) : Option String :=
  (Binary.ofFloat? x).map fun b =>
    String.ofList ((if b.negative then ['-'] else []) ++ l.unsigned (shortest b))

end VenueGateway.Decimal
