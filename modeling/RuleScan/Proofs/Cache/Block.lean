import Mathlib
import RuleScan.Cache.Block

/-!
# Blocks are read back

Writing makes a block of one run of literals. Reading it takes the announced size off, then the
length of the run (`readLength_writeLength`), and copies the run; nothing follows, so that this is
all (`read_write`). The announced size has four bytes, which bounds what can be written.
-/

namespace RuleScan.Block

theorem readLength_writeLength (total n : Nat) (rest : List UInt8) :
    readLength total (writeLength n ++ rest) = .ok (total + n, rest) := by
  have hsteps (k total : Nat) (tail : List UInt8) :
      readLength total (List.replicate k 255 ++ tail) = readLength (total + 255 * k) tail := by
    induction k generalizing total with
    | zero => rfl
    | succ k ih =>
      rw [List.replicate_succ, List.cons_append, readLength, if_pos rfl, ih]
      congr 1
      omega
  have hlast : (n % 255).toUInt8.toNat = n % 255 := by
    rw [Nat.toUInt8_eq, UInt8.toNat_ofNat']
    omega
  have hne : (n % 255).toUInt8 ≠ 255 := by
    intro h
    rw [h] at hlast
    have : (255 : UInt8).toNat = 255 := rfl
    omega
  rw [writeLength, List.append_assoc, hsteps, List.singleton_append, readLength, if_neg hne, hlast]
  congr 2
  omega

theorem appendBytes_eq (out : ByteArray) (bytes : List UInt8) :
    appendBytes out bytes = ⟨out.data ++ bytes.toArray⟩ := by
  induction bytes generalizing out with
  | nil => simp [appendBytes]
  | cons b rest ih =>
    rw [appendBytes, List.foldl_cons, ← appendBytes, ih]
    simp [ByteArray.push]

/-- A run of literals that nothing follows. -/
theorem readSequences_literals {announced fuel : Nat} {token : UInt8} {rest : List UInt8}
    (bytes : List UInt8) (hlength : lengthOf (token.toNat / 16) rest = .ok (bytes.length, bytes))
    (hfits : bytes.length ≤ announced) :
    readSequences announced (fuel + 1) .empty (token :: rest) = .ok ⟨bytes.toArray⟩ := by
  rw [readSequences, hlength]
  simp [bind, Except.bind, hfits, appendBytes_eq, pure, Except.pure]

/-- The four bytes of an announced size. -/
theorem announced_eq {n : Nat} (h : n < 2 ^ 32) :
    n.toUInt8.toNat + 256 * ((n / 256).toUInt8.toNat + 256 * ((n / 256 / 256).toUInt8.toNat +
      256 * (n / 256 / 256 / 256).toUInt8.toNat)) = n := by
  simp only [Nat.toUInt8_eq, UInt8.toNat_ofNat']
  omega

/-- **Reading back** a block. -/
theorem read_write {data : ByteArray} (h : data.size < 2 ^ 32) : read (write data) = .ok data := by
  have hlist : data.data.toList.length = data.size := rfl
  simp only [write, List.cons_append, List.nil_append, read, announced_eq h]
  split
  next hshort =>
    have htoken : (16 * data.size).toUInt8.toNat / 16 = data.size := by
      rw [Nat.toUInt8_eq, UInt8.toNat_ofNat']
      omega
    refine readSequences_literals data.data.toList ?_ (Nat.le_of_eq hlist)
    rw [htoken, lengthOf, if_neg (by omega), hlist]
    rfl
  next hlong =>
    refine readSequences_literals data.data.toList ?_ (Nat.le_of_eq hlist)
    change lengthOf 15 (writeLength (data.size - 15) ++ data.data.toList) = _
    rw [lengthOf, if_pos rfl, readLength_writeLength, hlist]
    congr 2
    omega

/-- Data is no longer than its block. -/
theorem size_le_write (data : ByteArray) : data.size ≤ (write data).length := by
  simp only [write, List.length_append, Array.length_toList, ByteArray.size_data]
  omega

end RuleScan.Block
