import RuleScan.Digest.Block

/-!
# Checksums

The sum of all bytes, and the cyclic redundancy check of thirty-two bits.
-/

namespace RuleScan.Digest

/-- The sum of all bytes in thirty-two bits. -/
def checksum32 (data : ByteArray) : UInt32 := data.foldl (fun n b => n + b.toUInt32) 0

/-- Shifts one bit out of the register of the check. -/
def crcShift (r : UInt32) : UInt32 := if r &&& 1 == 1 then r >>> 1 ^^^ 0xedb88320 else r >>> 1

/-- Takes a byte into the register of the check. -/
def crcByte (r : UInt32) (b : UInt8) : UInt32 :=
  (List.range 8).foldl (fun r _ => crcShift r) (r ^^^ b.toUInt32)

/-- The cyclic redundancy check. -/
def crc32 (data : ByteArray) : UInt32 := ~~~(data.foldl crcByte 0xffffffff)

end RuleScan.Digest
