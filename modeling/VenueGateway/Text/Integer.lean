namespace VenueGateway.Text

/-- Two to the 32. -/
def bound32 : Nat := 4294967296

/-- Two to the 64. -/
def bound64 : Nat := 18446744073709551616

/-- Two to the 63. -/
def signedBound64 : Nat := 9223372036854775808

def digit? (c : Char) : Option Nat :=
  if '0' ≤ c ∧ c ≤ '9' then some (c.toNat - 48) else none

def readDigits : Nat → List Char → Option Nat
  | n, [] => some n
  | n, c :: cs => do
    let d ← digit? c
    readDigits (10 * n + d) cs

/-- A nonempty digit string, a plus sign before it allowed. -/
def readNat : List Char → Option Nat
  | [] => none
  | ['+'] => none
  | '+' :: cs => readDigits 0 cs
  | cs => readDigits 0 cs

/-- An unsigned integer below `bound`. -/
def readBelow (bound : Nat) (cs : List Char) : Option Nat :=
  (readNat cs).filter (· < bound)

/-- A signed 64-bit integer. -/
def readInt64 : List Char → Option Int
  | ['-'] => none
  | '-' :: cs => (readDigits 0 cs).bind fun n => if n ≤ signedBound64 then some (-(n : Int)) else none
  | cs => (readBelow signedBound64 cs).map Int.ofNat

def natDigits (n : Nat) : List Char := Nat.toDigits 10 n

def ofNat (n : Nat) : String := String.ofList (natDigits n)

def ofInt : Int → String
  | .ofNat n => ofNat n
  | .negSucc n => "-" ++ ofNat (n + 1)

end VenueGateway.Text
