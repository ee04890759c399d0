namespace VenueGateway.Digest

def rotateLeft (n : UInt32) (x : UInt32) : UInt32 := (x <<< n) ||| (x >>> (32 - n))

def rotateRight (n : UInt32) (x : UInt32) : UInt32 := (x >>> n) ||| (x <<< (32 - n))

def bigEndian (width n : Nat) : List UInt8 :=
  (List.range width).map fun i => (n / Nat.pow 256 (width - 1 - i)).toUInt8

/-- A one bit, zeros, and the bit length, filling whole blocks of 64 bytes. -/
def padded (message : List UInt8) : List UInt8 :=
  let zeros := (119 - message.length % 64) % 64
  message ++ 0x80 :: (List.replicate zeros 0 ++ bigEndian 8 (8 * message.length))

def wordsOf : List UInt8 → List UInt32
  | a :: b :: c :: d :: rest =>
    ((a.toUInt32 <<< 24) ||| (b.toUInt32 <<< 16) ||| (c.toUInt32 <<< 8) ||| d.toUInt32) ::
      wordsOf rest
  | _ => []

/-- Groups of sixteen words; an incomplete group is dropped. -/
def blocksOf : Nat → List UInt32 → List (List UInt32)
  | 0, _ => []
  | n + 1, ws =>
    if ws.length < 16 then [] else ws.take 16 :: blocksOf n (ws.drop 16)

def blocks (message : List UInt8) : List (List UInt32) :=
  let bytes := padded message
  blocksOf (bytes.length / 64) (wordsOf bytes)

def bytesOfWord (w : UInt32) : List UInt8 := bigEndian 4 w.toNat

namespace Sha1

structure State where
  a : UInt32
  b : UInt32
  c : UInt32
  d : UInt32
  e : UInt32

def State.start : State := ⟨0x67452301, 0xefcdab89, 0x98badcfe, 0x10325476, 0xc3d2e1f0⟩

def State.add (s t : State) : State := ⟨s.a + t.a, s.b + t.b, s.c + t.c, s.d + t.d, s.e + t.e⟩

def State.words (s : State) : List UInt32 := [s.a, s.b, s.c, s.d, s.e]

/-- The schedule's next word from the sixteen before it, the latest first. -/
def extend (latest : List UInt32) : UInt32 :=
  let w (i : Nat) := latest.getD (i - 1) 0
  rotateLeft 1 (w 3 ^^^ w 8 ^^^ w 14 ^^^ w 16)

def schedule : Nat → List UInt32 → List UInt32
  | 0, latest => latest.reverse
  | n + 1, latest => schedule n (extend latest :: latest)

def mix (i : Nat) (s : State) : UInt32 × UInt32 :=
  if i < 20 then ((s.b &&& s.c) ||| (~~~s.b &&& s.d), 0x5a827999)
  else if i < 40 then (s.b ^^^ s.c ^^^ s.d, 0x6ed9eba1)
  else if i < 60 then ((s.b &&& s.c) ||| (s.b &&& s.d) ||| (s.c &&& s.d), 0x8f1bbcdc)
  else (s.b ^^^ s.c ^^^ s.d, 0xca62c1d6)

def round (s : State) (w : UInt32) (i : Nat) : State :=
  let (f, k) := mix i s
  ⟨rotateLeft 5 s.a + f + s.e + k + w, s.a, rotateLeft 30 s.b, s.c, s.d⟩

def compress (s : State) (block : List UInt32) : State :=
  s.add ((schedule 64 block.reverse).zipIdx.foldl (fun t (w, i) => round t w i) s)

def digest (message : List UInt8) : List UInt8 :=
  ((blocks message).foldl compress State.start).words.flatMap bytesOfWord

end Sha1

namespace Sha256

structure State where
  a : UInt32
  b : UInt32
  c : UInt32
  d : UInt32
  e : UInt32
  f : UInt32
  g : UInt32
  h : UInt32

def State.start : State :=
  ⟨0x6a09e667, 0xbb67ae85, 0x3c6ef372, 0xa54ff53a, 0x510e527f, 0x9b05688c, 0x1f83d9ab, 0x5be0cd19⟩

def State.add (s t : State) : State :=
  ⟨s.a + t.a, s.b + t.b, s.c + t.c, s.d + t.d, s.e + t.e, s.f + t.f, s.g + t.g, s.h + t.h⟩

def State.words (s : State) : List UInt32 := [s.a, s.b, s.c, s.d, s.e, s.f, s.g, s.h]

def constants : List UInt32 :=
  [0x428a2f98, 0x71374491, 0xb5c0fbcf, 0xe9b5dba5, 0x3956c25b, 0x59f111f1, 0x923f82a4, 0xab1c5ed5,
   0xd807aa98, 0x12835b01, 0x243185be, 0x550c7dc3, 0x72be5d74, 0x80deb1fe, 0x9bdc06a7, 0xc19bf174,
   0xe49b69c1, 0xefbe4786, 0x0fc19dc6, 0x240ca1cc, 0x2de92c6f, 0x4a7484aa, 0x5cb0a9dc, 0x76f988da,
   0x983e5152, 0xa831c66d, 0xb00327c8, 0xbf597fc7, 0xc6e00bf3, 0xd5a79147, 0x06ca6351, 0x14292967,
   0x27b70a85, 0x2e1b2138, 0x4d2c6dfc, 0x53380d13, 0x650a7354, 0x766a0abb, 0x81c2c92e, 0x92722c85,
   0xa2bfe8a1, 0xa81a664b, 0xc24b8b70, 0xc76c51a3, 0xd192e819, 0xd6990624, 0xf40e3585, 0x106aa070,
   0x19a4c116, 0x1e376c08, 0x2748774c, 0x34b0bcb5, 0x391c0cb3, 0x4ed8aa4a, 0x5b9cca4f, 0x682e6ff3,
   0x748f82ee, 0x78a5636f, 0x84c87814, 0x8cc70208, 0x90befffa, 0xa4506ceb, 0xbef9a3f7, 0xc67178f2]

/-- The schedule's next word from the sixteen before it, the latest first. -/
def extend (latest : List UInt32) : UInt32 :=
  let w (i : Nat) := latest.getD (i - 1) 0
  let s0 := rotateRight 7 (w 15) ^^^ rotateRight 18 (w 15) ^^^ (w 15 >>> 3)
  let s1 := rotateRight 17 (w 2) ^^^ rotateRight 19 (w 2) ^^^ (w 2 >>> 10)
  w 16 + s0 + w 7 + s1

def schedule : Nat → List UInt32 → List UInt32
  | 0, latest => latest.reverse
  | n + 1, latest => schedule n (extend latest :: latest)

def round (s : State) (k w : UInt32) : State :=
  let s1 := rotateRight 6 s.e ^^^ rotateRight 11 s.e ^^^ rotateRight 25 s.e
  let ch := (s.e &&& s.f) ^^^ (~~~s.e &&& s.g)
  let t1 := s.h + s1 + ch + k + w
  let s0 := rotateRight 2 s.a ^^^ rotateRight 13 s.a ^^^ rotateRight 22 s.a
  let maj := (s.a &&& s.b) ^^^ (s.a &&& s.c) ^^^ (s.b &&& s.c)
  ⟨t1 + (s0 + maj), s.a, s.b, s.c, s.d + t1, s.e, s.f, s.g⟩

def compress (s : State) (block : List UInt32) : State :=
  s.add ((constants.zip (schedule 48 block.reverse)).foldl (fun t (k, w) => round t k w) s)

def digest (message : List UInt8) : List UInt8 :=
  ((blocks message).foldl compress State.start).words.flatMap bytesOfWord

end Sha256

end VenueGateway.Digest
