import RuleScan.Digest.Block

/-!
# SHA-1 and SHA-256

Two digests that spread the sixteen words of a block into a longer schedule and mix one word of it
into the state at each step.
-/

namespace RuleScan.Digest

/-- Spreads the words of a block to a schedule of so many words more. -/
def schedule (next : Array UInt32 → Nat → UInt32) (more : Nat) (block : Array UInt32) :
    Array UInt32 :=
  (List.range more).foldl (fun w i => w.push (next w (i + 16))) block

/-! ## SHA-1 -/

/-- The state of SHA-1. -/
structure Sha1State where
  a : UInt32
  b : UInt32
  c : UInt32
  d : UInt32
  e : UInt32

/-- A further word of the schedule. -/
def sha1Word (w : Array UInt32) (i : Nat) : UInt32 :=
  turnLeft (word w (i - 3) ^^^ word w (i - 8) ^^^ word w (i - 14) ^^^ word w (i - 16)) 1

/-- One step with the schedule of a block. -/
def sha1Step (w : Array UInt32) (s : Sha1State) (i : Nat) : Sha1State :=
  let (f, k) :=
    if i < 20 then ((s.b &&& s.c) ||| (~~~s.b &&& s.d), (0x5a827999 : UInt32))
    else if i < 40 then (s.b ^^^ s.c ^^^ s.d, 0x6ed9eba1)
    else if i < 60 then ((s.b &&& s.c) ||| (s.b &&& s.d) ||| (s.c &&& s.d), 0x8f1bbcdc)
    else (s.b ^^^ s.c ^^^ s.d, 0xca62c1d6)
  ⟨turnLeft s.a 5 + f + s.e + k + word w i, s.a, turnLeft s.b 30, s.c, s.d⟩

/-- All steps on a block. -/
def sha1Block (s : Sha1State) (block : Array UInt32) : Sha1State :=
  let w := schedule sha1Word 64 block
  let t := (List.range 80).foldl (sha1Step w) s
  ⟨s.a + t.a, s.b + t.b, s.c + t.c, s.d + t.d, s.e + t.e⟩

/-- The digest of a message in hexadecimal. -/
def sha1 (data : ByteArray) : String :=
  let s := foldBlocks true data sha1Block
    ⟨0x67452301, 0xefcdab89, 0x98badcfe, 0x10325476, 0xc3d2e1f0⟩
  hexText (wordBytes true [s.a, s.b, s.c, s.d, s.e])

/-! ## SHA-256 -/

/-- The state of SHA-256. -/
structure Sha256State where
  a : UInt32
  b : UInt32
  c : UInt32
  d : UInt32
  e : UInt32
  f : UInt32
  g : UInt32
  h : UInt32

/-- The constants that are added, one for each step. -/
def sha256Constants : Array UInt32 :=
  #[0x428a2f98, 0x71374491, 0xb5c0fbcf, 0xe9b5dba5, 0x3956c25b, 0x59f111f1, 0x923f82a4, 0xab1c5ed5,
    0xd807aa98, 0x12835b01, 0x243185be, 0x550c7dc3, 0x72be5d74, 0x80deb1fe, 0x9bdc06a7, 0xc19bf174,
    0xe49b69c1, 0xefbe4786, 0x0fc19dc6, 0x240ca1cc, 0x2de92c6f, 0x4a7484aa, 0x5cb0a9dc, 0x76f988da,
    0x983e5152, 0xa831c66d, 0xb00327c8, 0xbf597fc7, 0xc6e00bf3, 0xd5a79147, 0x06ca6351, 0x14292967,
    0x27b70a85, 0x2e1b2138, 0x4d2c6dfc, 0x53380d13, 0x650a7354, 0x766a0abb, 0x81c2c92e, 0x92722c85,
    0xa2bfe8a1, 0xa81a664b, 0xc24b8b70, 0xc76c51a3, 0xd192e819, 0xd6990624, 0xf40e3585, 0x106aa070,
    0x19a4c116, 0x1e376c08, 0x2748774c, 0x34b0bcb5, 0x391c0cb3, 0x4ed8aa4a, 0x5b9cca4f, 0x682e6ff3,
    0x748f82ee, 0x78a5636f, 0x84c87814, 0x8cc70208, 0x90befffa, 0xa4506ceb, 0xbef9a3f7, 0xc67178f2]

/-- A further word of the schedule. -/
def sha256Word (w : Array UInt32) (i : Nat) : UInt32 :=
  let x := word w (i - 15)
  let y := word w (i - 2)
  let s₀ := turnRight x 7 ^^^ turnRight x 18 ^^^ x >>> 3
  let s₁ := turnRight y 17 ^^^ turnRight y 19 ^^^ y >>> 10
  word w (i - 16) + s₀ + word w (i - 7) + s₁

/-- One step with the schedule of a block. -/
def sha256Step (w : Array UInt32) (s : Sha256State) (i : Nat) : Sha256State :=
  let s₁ := turnRight s.e 6 ^^^ turnRight s.e 11 ^^^ turnRight s.e 25
  let choice := (s.e &&& s.f) ^^^ (~~~s.e &&& s.g)
  let t₁ := s.h + s₁ + choice + word sha256Constants i + word w i
  let s₀ := turnRight s.a 2 ^^^ turnRight s.a 13 ^^^ turnRight s.a 22
  let majority := (s.a &&& s.b) ^^^ (s.a &&& s.c) ^^^ (s.b &&& s.c)
  ⟨t₁ + s₀ + majority, s.a, s.b, s.c, s.d + t₁, s.e, s.f, s.g⟩

/-- All steps on a block. -/
def sha256Block (s : Sha256State) (block : Array UInt32) : Sha256State :=
  let w := schedule sha256Word 48 block
  let t := (List.range 64).foldl (sha256Step w) s
  ⟨s.a + t.a, s.b + t.b, s.c + t.c, s.d + t.d, s.e + t.e, s.f + t.f, s.g + t.g, s.h + t.h⟩

/-- The digest of a message in hexadecimal. -/
def sha256 (data : ByteArray) : String :=
  let s := foldBlocks true data sha256Block
    ⟨0x6a09e667, 0xbb67ae85, 0x3c6ef372, 0xa54ff53a, 0x510e527f, 0x9b05688c, 0x1f83d9ab, 0x5be0cd19⟩
  hexText (wordBytes true [s.a, s.b, s.c, s.d, s.e, s.f, s.g, s.h])

end RuleScan.Digest
