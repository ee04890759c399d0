namespace VenueGateway.Text

def isContinuation (b : UInt8) : Bool := b &&& 0xC0 == 0x80

def encodeChar (c : Char) : List UInt8 :=
  let n := c.toNat
  if n < 0x80 then [n.toUInt8]
  else if n < 0x800 then [(0xC0 + n / 64).toUInt8, (0x80 + n % 64).toUInt8]
  else if n < 0x10000 then
    [(0xE0 + n / 4096).toUInt8, (0x80 + n / 64 % 64).toUInt8, (0x80 + n % 64).toUInt8]
  else
    [(0xF0 + n / 262144).toUInt8, (0x80 + n / 4096 % 64).toUInt8, (0x80 + n / 64 % 64).toUInt8,
      (0x80 + n % 64).toUInt8]

def encodeChars (cs : List Char) : List UInt8 := cs.flatMap encodeChar

def utf8 (s : String) : List UInt8 := encodeChars s.toList

def byteLength (s : String) : Nat := (utf8 s).length

/-- What a lead byte announces: the number of bytes that follow, and the range of the first. -/
def leadByte (b : UInt8) : Option (Nat × UInt8 × UInt8) :=
  if b < 0xC2 then none
  else if b < 0xE0 then some (1, 0x80, 0xBF)
  else if b == 0xE0 then some (2, 0xA0, 0xBF)
  else if b == 0xED then some (2, 0x80, 0x9F)
  else if b < 0xF0 then some (2, 0x80, 0xBF)
  else if b == 0xF0 then some (3, 0x90, 0xBF)
  else if b < 0xF4 then some (3, 0x80, 0xBF)
  else if b == 0xF4 then some (3, 0x80, 0x8F)
  else none

/-- A character that the bytes read so far have begun. -/
structure Partial where
  value : Nat
  missing : Nat
  low : UInt8
  high : UInt8

/-- One byte: a finished character, a character begun, or a byte that fits nowhere. -/
inductive ByteStep where
  | char (c : Char)
  | more (p : Partial)
  | bad

def Partial.start (b : UInt8) : ByteStep :=
  if b < 0x80 then .char (Char.ofNat b.toNat)
  else
    match leadByte b with
    | none => .bad
    | some (n, low, high) =>
      let bits := if n == 1 then b.toNat % 32 else if n == 2 then b.toNat % 16 else b.toNat % 8
      .more ⟨bits, n, low, high⟩

def Partial.next (p : Partial) (b : UInt8) : ByteStep :=
  if b < p.low || p.high < b then .bad
  else
    let value := p.value * 64 + b.toNat % 64
    if p.missing ≤ 1 then .char (Char.ofNat value)
    else .more ⟨value, p.missing - 1, 0x80, 0xBF⟩

/-- Strict reading: every byte belongs to a whole character. -/
def decodeFrom : Option Partial → List Char → List UInt8 → Option (List Char)
  | none, acc, [] => some acc.reverse
  | some _, _, [] => none
  | p, acc, b :: bs =>
    match (p.map (·.next b)).getD (Partial.start b) with
    | .char c => decodeFrom none (c :: acc) bs
    | .more q => decodeFrom (some q) acc bs
    | .bad => none

def decodeUtf8 (bs : List UInt8) : Option String :=
  (decodeFrom none [] bs).map String.ofList

/--
Reading with replacement: each longest beginning of a character that is cut short, and each byte
that begins none, becomes one U+FFFD.
-/
def decodeLossyFrom : Option Partial → List Char → List UInt8 → List Char
  | none, acc, [] => acc.reverse
  | some _, acc, [] => ('\uFFFD' :: acc).reverse
  | p, acc, b :: bs =>
    match (p.map (·.next b)).getD (Partial.start b) with
    | .char c => decodeLossyFrom none (c :: acc) bs
    | .more q => decodeLossyFrom (some q) acc bs
    | .bad =>
      let acc := '\uFFFD' :: acc
      match p with
      | none => decodeLossyFrom none acc bs
      | some _ =>
        match Partial.start b with
        | .char c => decodeLossyFrom none (c :: acc) bs
        | .more q => decodeLossyFrom (some q) acc bs
        | .bad => decodeLossyFrom none ('\uFFFD' :: acc) bs

def decodeUtf8Lossy (bs : List UInt8) : String :=
  String.ofList (decodeLossyFrom none [] bs)

end VenueGateway.Text
