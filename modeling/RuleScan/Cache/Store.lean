import RuleScan.Files.Basic
import RuleScan.Trace

/-!
# The rule cache

Rules as bytes in a file: four letters, the version of the format, and the bytes in a compressed
form. Any codec may compress them; the caches of this library hold blocks (`blocks`). Missing
directories are made when a cache is saved.
-/

namespace RuleScan.Cache

/-- The letters at the start of a cache file. -/
def letters : List UInt8 := [0x52, 0x53, 0x59, 0x43]

/-- The version of the format. -/
def version : UInt8 := 2

/-- A way to compress bytes, and to have them back. -/
structure Codec where
  pack : ByteArray → List UInt8
  unpack : List UInt8 → Except Block.Fault ByteArray

/-- The codec of compressed blocks. -/
def blocks : Codec := ⟨Block.write, Block.read⟩

/-- What follows some bytes at the start of a list. -/
def dropStart? : List UInt8 → List UInt8 → Option (List UInt8)
  | [], rest => some rest
  | _ :: _, [] => none
  | a :: as, b :: bs => if a = b then dropStart? as bs else none

/-- Makes the directory that a path lies in. -/
def makeParent (path : String) : Action Files Unit := fun fs =>
  let p := Path.parse path
  let above := p.names.dropLast
  if above.any (·.toList.contains '\x00') then ⟨.error (.file .nulInPath), fs, []⟩
  else
    let (fs, result) := fs.makeDirectories p.absolute above.reverse
    ⟨.ofExcept (result.mapError .file), fs, []⟩

namespace Codec

variable (K : Codec)

/-- The bytes of a cache file. -/
def encode (data : ByteArray) : ByteArray := ⟨(letters ++ version :: K.pack data).toArray⟩

/-- The data in the bytes of a cache file. The letters are looked at before the version, and the
version before the block. -/
def decode (file : ByteArray) : Except CacheFault ByteArray :=
  match dropStart? letters file.data.toList with
  | none => .error .foreign
  | some [] => .error .noVersion
  | some (v :: block) =>
    if v ≠ version then .error (.otherVersion v.toNat version.toNat)
    else match K.unpack block with
      | .ok data => .ok data
      | .error e => .error (.damaged e block.length)

/-- Reads a cache file. -/
def loadQuietly (path : String) : Action Files ByteArray := do
  let fs ← .get
  let file ← .ofExcept ((fs.read path).mapError .file)
  .ofExcept ((K.decode file).mapError .cache)

/-- Reads a cache file, and logs it. -/
def load (path : String) : Action Files ByteArray := do
  let data ← K.loadQuietly path
  let file := ((← .get).read path).toOption.getD .empty
  .log .debug ("Rule cache loaded | Path: " ++ path ++ " | Cached bytes: " ++ decimal file.size
    ++ " | Rules bytes: " ++ decimal data.size)
  return data

/-- Writes a cache file. -/
def saveQuietly (path : String) (data : ByteArray) : Action Files Unit := do
  makeParent path
  let fs ← .get
  let fs ← .ofExcept ((fs.write path (K.encode data)).mapError .file)
  .modify fun _ => fs

/-- Writes a cache file, and logs it. -/
def save (path : String) (data : ByteArray) : Action Files Unit := do
  K.saveQuietly path data
  .log .debug ("Rule cache saved | Path: " ++ path ++ " | Rules bytes: " ++ decimal data.size
    ++ " | Cached bytes: " ++ decimal (K.encode data).size)

end Codec

/-- Reads a cache file with a compressed block. -/
def loadQuietly : String → Action Files ByteArray := blocks.loadQuietly

/-- Reads a cache file with a compressed block, and logs it. -/
def load : String → Action Files ByteArray := blocks.load

/-- Writes a cache file with a compressed block. -/
def saveQuietly : String → ByteArray → Action Files Unit := blocks.saveQuietly

/-- Writes a cache file with a compressed block, and logs it. -/
def save : String → ByteArray → Action Files Unit := blocks.save

/-- Removes a cache file, if there is one. -/
def clear (path : String) : Action Files Unit := do
  let fs ← .get
  if fs.isThere path then
    let fs ← .ofExcept ((fs.remove path).mapError .file)
    .modify fun _ => fs

end RuleScan.Cache
