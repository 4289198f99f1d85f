import RuleScan.Text.Bytes

/-!
# Compressed blocks

A block is a list of sequences: a token byte, a run of literal bytes, and a copy of bytes already
written, given by how far back they are and how many. The two halves of the token are the two
lengths; a half of fifteen is continued by bytes that are added up to the first one below 255. The
last sequence has no copy. In front of the block stands the number of its bytes before compression,
four bytes with the lowest first.

Reading accepts every block; writing makes one run of literals.
-/

namespace RuleScan.Block

/-- Why a block cannot be read. -/
inductive Fault
  /-- The block ends too early. -/
  | expectedByte
  /-- A run of literals is longer than what is left of the block. -/
  | literalTooLong
  /-- A copy of bytes that are being written. -/
  | offsetZero
  /-- A copy from before the first byte. -/
  | offsetTooFar
  /-- More bytes than were announced. -/
  | tooManyBytes (needed announced : Nat)
  deriving DecidableEq, Repr

/-- The wording of a fault. -/
def Fault.message : Fault → String
  | expectedByte => "ExpectedAnotherByte"
  | literalTooLong => "LiteralOutOfBounds"
  | offsetZero => "OffsetZero"
  | offsetTooFar => "OffsetOutOfBounds"
  | tooManyBytes needed announced =>
    "OutputTooSmall \x7b expected: " ++ String.ofList (Nat.toDigits 10 needed) ++ ", actual: "
      ++ String.ofList (Nat.toDigits 10 announced) ++ " \x7d"

/-! ## Reading -/

/-- Reads the continuation of a length, and adds it. -/
def readLength (total : Nat) : List UInt8 → Except Fault (Nat × List UInt8)
  | [] => .error .expectedByte
  | b :: rest => if b = 255 then readLength (total + 255) rest else .ok (total + b.toNat, rest)

/-- The length in a half of a token. -/
def lengthOf (half : Nat) (rest : List UInt8) : Except Fault (Nat × List UInt8) :=
  if half = 15 then readLength 15 rest else .ok (half, rest)

/-- Copies bytes already written, from a position on. Copied bytes may be copied again. -/
def copyFrom (start : Nat) : (count : Nat) → ByteArray → ByteArray
  | 0, out => out
  | count + 1, out => copyFrom (start + 1) count (out.push (Text.byteAt out start))

/-- Appends literal bytes. -/
def appendBytes (out : ByteArray) (bytes : List UInt8) : ByteArray := bytes.foldl ByteArray.push out

/-- Reads sequences; the fuel bounds their number. -/
def readSequences (announced : Nat) : (fuel : Nat) → ByteArray → List UInt8 → Except Fault ByteArray
  | 0, _, _ => .error .expectedByte
  | _, _, [] => .error .expectedByte
  | fuel + 1, out, token :: rest => do
    let (literals, rest) ← lengthOf (token.toNat / 16) rest
    if rest.length < literals then throw .literalTooLong
    if literals ≠ 0 && announced < out.size + literals then
      throw (.tooManyBytes (out.size + literals) announced)
    let out := appendBytes out (rest.take literals)
    match rest.drop literals with
    | [] => return out
    | [_] => throw .expectedByte
    | low :: high :: rest => do
      let offset := low.toNat + 256 * high.toNat
      if offset = 0 then throw .offsetZero
      let (more, rest) ← lengthOf (token.toNat % 16) rest
      let count := more + 4
      if announced < out.size + count then throw (.tooManyBytes (out.size + count) announced)
      if out.size < offset then throw .offsetTooFar
      readSequences announced fuel (copyFrom (out.size - offset) count out) rest

/-- Reads a block with its announced size. -/
def read (bytes : List UInt8) : Except Fault ByteArray :=
  match bytes with
  | a :: b :: c :: d :: rest =>
    let announced := a.toNat + 256 * (b.toNat + 256 * (c.toNat + 256 * d.toNat))
    readSequences announced (rest.length + 1) .empty rest
  | _ => .error .expectedByte

/-! ## Writing -/

/-- The continuation of a length. -/
def writeLength (n : Nat) : List UInt8 :=
  List.replicate (n / 255) 255 ++ [(n % 255).toUInt8]

/-- A block of one run of literals, with its announced size. -/
def write (data : ByteArray) : List UInt8 :=
  let n := data.size
  let announced :=
    [n.toUInt8, (n / 256).toUInt8, (n / 256 / 256).toUInt8, (n / 256 / 256 / 256).toUInt8]
  let lengths := if n < 15 then [(16 * n).toUInt8] else 0xF0 :: writeLength (n - 15)
  announced ++ lengths ++ data.data.toList

end RuleScan.Block
