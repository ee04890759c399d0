namespace VenueGateway.Decimal

/-- A finite double: a sign, a whole number and a power of two. -/
structure Binary where
  negative : Bool
  mantissa : Nat
  exponent : Int
deriving Repr, DecidableEq

/-- The weight of the bit that a normal number does not write, 2 to the 52. -/
def hiddenBit : Nat := 4503599627370496

def infinityBits : Nat := 2047 * hiddenBit

def signBit (x : Float) : Bool := x.toBits >>> 63 == 1

def Binary.ofFloat? (x : Float) : Option Binary :=
  let bits := x.toBits.toNat
  let e : Nat := bits / hiddenBit % 2048
  let f : Nat := bits % hiddenBit
  if e = 2047 then none
  else if e = 0 then some ⟨signBit x, f, -1074⟩
  else some ⟨signBit x, hiddenBit + f, (e : Int) - 1075⟩

/-- Numerator and denominator of the absolute value. -/
def Binary.ratio (b : Binary) : Nat × Nat :=
  (b.mantissa * Nat.pow 2 b.exponent.toNat, Nat.pow 2 (-b.exponent).toNat)

/-- The number itself, zero's sign lost. -/
def Binary.value (b : Binary) : Rat :=
  let r : Rat := (b.ratio.1 : Rat) / (b.ratio.2 : Rat)
  if b.negative then -r else r

/-- The whole number nearest to `num / den`, a half going to the even neighbour. -/
def roundDiv (num den : Nat) : Nat :=
  let q := num / den
  let r := num % den
  if 2 * r < den then q
  else if den < 2 * r then q + 1
  else if q % 2 = 0 then q else q + 1

def assemble (negative : Bool) (bits : Nat) : Float :=
  Float.ofBits (UInt64.ofNat (if negative then 9223372036854775808 + bits else bits))

def infinity (negative : Bool) : Float := assemble negative infinityBits

def nan (negative : Bool) : Float := assemble negative (infinityBits + hiddenBit / 2)

/-- The double nearest to `num / den`, a half going to the even neighbour. -/
def nearest (negative : Bool) (num den : Nat) : Float :=
  if num = 0 then assemble negative 0
  else
    let guess : Int := (Nat.log2 num : Int) - Nat.log2 den - 52
    let at52 (q : Int) : Nat := num * Nat.pow 2 (-q).toNat / (den * Nat.pow 2 q.toNat)
    let q := if at52 guess < hiddenBit then guess - 1 else guess
    let q := max q (-1074)
    let m := roundDiv (num * Nat.pow 2 (-q).toNat) (den * Nat.pow 2 q.toNat)
    let bits := (q + 1074).toNat * hiddenBit + m
    assemble negative (min bits infinityBits)

/-- `a · b + c` rounded once. -/
def mulAdd (a b c : Float) : Float :=
  match Binary.ofFloat? a, Binary.ofFloat? b, Binary.ofFloat? c with
  | some x, some y, some z =>
    let (n, d) := (x.ratio.1 * y.ratio.1, x.ratio.2 * y.ratio.2)
    let (n', d') := z.ratio
    let neg := x.negative != y.negative
    let signed (s : Bool) (k : Nat) : Int := if s then -(k : Int) else k
    let total := signed neg (n * d') + signed z.negative (n' * d)
    if total = 0 then
      if n = 0 ∧ n' = 0 then assemble (neg && z.negative) 0
      else assemble false 0
    else nearest (total < 0) total.natAbs (d * d')
  | some _, some _, none => c
  | _, _, _ => a * b + c

/-- The whole part of a nonnegative double, clamped to `0 … bound`; not a number gives zero. -/
def wholeBelow (bound : Nat) (x : Float) : Nat :=
  match Binary.ofFloat? x with
  | some b => if b.negative then 0 else min bound (b.ratio.1 / b.ratio.2)
  | none => if x > 0 then bound else 0

end VenueGateway.Decimal
