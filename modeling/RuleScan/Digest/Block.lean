import RuleScan.Text.Bytes

/-!
# Blocks of a message

Digests work on blocks of sixty-four bytes. A message is filled up with a one bit, zeros, and its
length in bits; a digest folds the blocks into a state and shows the state in hexadecimal.
-/

namespace RuleScan.Digest

open RuleScan.Text

/-- The lowest `count` bytes of a number, least significant first. -/
def littleEndian (n : Nat) : (count : Nat) → List UInt8
  | 0 => []
  | count + 1 => n.toUInt8 :: littleEndian (n / 256) count

/-- A message filled up to whole blocks; `bigEndian` says how its length is written. -/
def padded (bigEndian : Bool) (data : ByteArray) : ByteArray :=
  let zeros := (119 - data.size % 64) % 64
  let length := littleEndian (8 * data.size) 8
  let length := if bigEndian then length.reverse else length
  data ++ ⟨(0x80 :: (List.replicate zeros 0 ++ length)).toArray⟩

/-- The word of four bytes at a position. -/
def wordAt (bigEndian : Bool) (data : ByteArray) (pos : Nat) : UInt32 :=
  let byte (i : Nat) : UInt32 := (byteAt data (pos + i)).toUInt32
  if bigEndian then byte 0 <<< 24 ||| byte 1 <<< 16 ||| byte 2 <<< 8 ||| byte 3
  else byte 3 <<< 24 ||| byte 2 <<< 16 ||| byte 1 <<< 8 ||| byte 0

/-- The sixteen words of a block. -/
def blockWords (bigEndian : Bool) (data : ByteArray) (block : Nat) : Array UInt32 :=
  Array.ofFn fun i : Fin 16 => wordAt bigEndian data (64 * block + 4 * i)

/-- A word turned left. -/
def turnLeft (w : UInt32) (n : UInt32) : UInt32 := w <<< n ||| w >>> (32 - n)

/-- A word turned right. -/
def turnRight (w : UInt32) (n : UInt32) : UInt32 := w >>> n ||| w <<< (32 - n)

/-- A word of an array; past the end it is zero. -/
def word (a : Array UInt32) (i : Nat) : UInt32 := a.getD i 0

/-- The two hexadecimal digits of a byte. -/
def hexPair (b : UInt8) : List Char :=
  [Nat.digitChar (b.toNat / 16), Nat.digitChar (b.toNat % 16)]

/-- Bytes in hexadecimal. -/
def hexText (bytes : List UInt8) : String := String.ofList (bytes.flatMap hexPair)

/-- Words as bytes. -/
def wordBytes (bigEndian : Bool) (ws : List UInt32) : List UInt8 :=
  ws.flatMap fun w =>
    let bytes := littleEndian w.toNat 4
    if bigEndian then bytes.reverse else bytes

/-- Folds the blocks of a message into a state. -/
def foldBlocks (bigEndian : Bool) (data : ByteArray) (f : σ → Array UInt32 → σ) (start : σ) : σ :=
  let message := padded bigEndian data
  (List.range (message.size / 64)).foldl (fun s b => f s (blockWords bigEndian message b)) start

end RuleScan.Digest
