/-!
# Stretches of bytes

Comparing and finding stretches of bytes inside others.
-/

namespace RuleScan.Text

/-- The byte at a position; past the end it is zero. -/
def byteAt (data : ByteArray) (i : Nat) : UInt8 := if h : i < data.size then data[i] else 0

/-- Whether a byte array has some bytes at a position, of which `count` are left to compare; before
it is compared, a byte of the array is changed by `f`. -/
def hasBytesAt (f : UInt8 → UInt8) (data needle : ByteArray) (pos : Nat) : (count : Nat) → Bool
  | 0 => true
  | count + 1 =>
    let i := needle.size - (count + 1)
    f (byteAt data (pos + i)) == byteAt needle i && hasBytesAt f data needle pos count

/-- Whether some bytes stand at a position. -/
def occursAt (data needle : ByteArray) (pos : Nat) : Bool :=
  pos + needle.size ≤ data.size && hasBytesAt id data needle pos needle.size

/-- The first position from `pos` on where some bytes stand, looking at `fuel` positions. -/
def findBytes (data needle : ByteArray) (pos : Nat) : (fuel : Nat) → Option Nat
  | 0 => none
  | fuel + 1 => if occursAt data needle pos then some pos else findBytes data needle (pos + 1) fuel

/-- The first position where some bytes stand. -/
def position? (data needle : ByteArray) : Option Nat := findBytes data needle 0 (data.size + 1)

/-- Whether some bytes occur in others. -/
def containsBytes (data needle : ByteArray) : Bool := (position? data needle).isSome

/-- Whether a text occurs in another one. -/
def containsText (s part : String) : Bool := containsBytes s.toUTF8 part.toUTF8

end RuleScan.Text
