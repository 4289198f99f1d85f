/-!
# Characters in bytes

UTF-8 read byte by byte: the character that starts at a position, the character before a position,
and the text of any bytes, where each run that is no character becomes a replacement character.
-/

namespace RuleScan.Text

/-- The byte at a position, as a number; past the end there is none. -/
def byteAt? (data : ByteArray) (i : Nat) : Option Nat :=
  if h : i < data.size then some data[i].toNat else none

/-- Whether the byte at a position continues a character: its lowest six bits if so, provided that
it lies in a range. -/
def continuation? (data : ByteArray) (i low high : Nat) : Option Nat :=
  match byteAt? data i with
  | some b => if low ≤ b && b ≤ high then some (b - 0x80) else none
  | none => none

/-- The range of the second byte of a character, which excludes long forms, surrogates and numbers
past the last code point. -/
def secondRange (lead : Nat) : Nat × Nat :=
  if lead = 0xE0 then (0xA0, 0xBF)
  else if lead = 0xED then (0x80, 0x9F)
  else if lead = 0xF0 then (0x90, 0xBF)
  else if lead = 0xF4 then (0x80, 0x8F)
  else (0x80, 0xBF)

/-- The code point encoded at a position and the number of its bytes. -/
def scalarAt? (data : ByteArray) (i : Nat) : Option (Nat × Nat) := do
  let lead ← byteAt? data i
  if lead < 0x80 then return (lead, 1)
  let (low, high) := secondRange lead
  if 0xC2 ≤ lead && lead ≤ 0xDF then
    let b ← continuation? data (i + 1) 0x80 0xBF
    return ((lead - 0xC0) * 64 + b, 2)
  if 0xE0 ≤ lead && lead ≤ 0xEF then
    let b ← continuation? data (i + 1) low high
    let c ← continuation? data (i + 2) 0x80 0xBF
    return (((lead - 0xE0) * 64 + b) * 64 + c, 3)
  if 0xF0 ≤ lead && lead ≤ 0xF4 then
    let b ← continuation? data (i + 1) low high
    let c ← continuation? data (i + 2) 0x80 0xBF
    let d ← continuation? data (i + 3) 0x80 0xBF
    return ((((lead - 0xF0) * 64 + b) * 64 + c) * 64 + d, 4)
  none

/-- Whether a byte may stand only inside a character. -/
def isContinuation (b : Nat) : Bool := 0x80 ≤ b && b ≤ 0xBF

/-- The code point read at the last byte before a position that can start a character, at most four
bytes back. -/
def scalarBefore? (data : ByteArray) (i : Nat) : Option Nat :=
  let limit := i - 4
  let rec back : Nat → Nat → Nat
    | 0, p => p
    | fuel + 1, p =>
      if p > limit && ((byteAt? data p).map isContinuation).getD false then back fuel (p - 1) else p
  if i = 0 then none
  else
    let start := back 4 (i - 1)
    -- A character that would reach past the position does not count.
    (scalarAt? (data.extract start i) 0).map (·.1)

/-- How many bytes at a position belong together when they are no character: a cut-off beginning of
one, or a single byte. -/
def invalidLength (data : ByteArray) (i : Nat) : Nat :=
  match byteAt? data i with
  | none => 1
  | some lead =>
    let (low, high) := secondRange lead
    if 0xE0 ≤ lead && lead ≤ 0xF4 && (continuation? data (i + 1) low high).isSome then
      if 0xF0 ≤ lead && (continuation? data (i + 2) 0x80 0xBF).isSome then 3 else 2
    else 1

/-- The text of bytes, with a replacement character for each run that is none. -/
def lossy (data : ByteArray) : String :=
  let rec go : Nat → Nat → List Char → List Char
    | 0, _, done => done
    | fuel + 1, i, done =>
      if i < data.size then
        match scalarAt? data i with
        | some (c, n) => go fuel (i + n) (Char.ofNat c :: done)
        | none => go fuel (i + invalidLength data i) ('\uFFFD' :: done)
      else done
  String.ofList (go data.size 0 []).reverse

end RuleScan.Text
