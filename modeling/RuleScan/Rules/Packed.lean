import RuleScan.Rules.Script

/-!
# Packed scripts

Scripts as bytes. A number is written in digits of seven bits, the lowest first, of which all but
the last have the eighth bit set; bytes and lists follow the number of their parts. A value with
several forms starts with the number of its form. Main statement: reading a written script gives it
back (`readScript_script`).
-/

namespace RuleScan.Rules.Packed

/-- Reads something off the front of some bytes. -/
abbrev Unpack (α : Type) := List UInt8 → Option (α × List UInt8)

/-- Reading gives back what was written, and leaves what follows. -/
def Unpack.Undoes (read : Unpack α) (write : α → List UInt8) : Prop :=
  ∀ x rest, read (write x ++ rest) = some (x, rest)

/-! ## Numbers -/

/-- Writes a number. -/
def number (n : Nat) : List UInt8 :=
  if n < 128 then [UInt8.ofNat n] else UInt8.ofNat (n % 128 + 128) :: number (n / 128)

/-- Reads a number. -/
def readNumber : Unpack Nat
  | [] => none
  | b :: rest =>
    if b < 128 then some (b.toNat, rest)
    else do
      let (n, rest) ← readNumber rest
      return (b.toNat - 128 + 128 * n, rest)

theorem readNumber_number : Unpack.Undoes readNumber number := by
  intro n
  induction n using Nat.strongRecOn with
  | ind n ih =>
    intro rest
    rw [number]
    by_cases h : n < 128
    · have hb : UInt8.ofNat n < 128 := by
        rw [UInt8.lt_iff_toNat_lt, UInt8.toNat_ofNat']
        show n % 256 < 128
        omega
      simp only [h, if_true, List.cons_append, List.nil_append, readNumber, hb,
        UInt8.toNat_ofNat']
      congr
      omega
    · have hn : (UInt8.ofNat (n % 128 + 128)).toNat = n % 128 + 128 := by
        rw [UInt8.toNat_ofNat']
        omega
      have hb : ¬ UInt8.ofNat (n % 128 + 128) < 128 := by
        rw [UInt8.lt_iff_toNat_lt, hn]
        show ¬ n % 128 + 128 < 128
        omega
      simp only [h, if_false, List.cons_append, readNumber, hb, ih (n / 128) (by omega) rest, hn]
      simp only [Option.bind_eq_bind, Option.bind_some, Option.pure_def, Option.some.injEq,
        Prod.mk.injEq, and_true]
      omega

/-! ## Bytes and texts -/

/-- Writes bytes after their number. -/
def bytes (b : ByteArray) : List UInt8 := number b.size ++ b.data.toList

/-- Reads bytes. -/
def readBytes : Unpack ByteArray := fun input => do
  let (n, rest) ← readNumber input
  let taken := rest.take n
  if taken.length < n then none
  return (⟨taken.toArray⟩, rest.drop n)

theorem readBytes_bytes : Unpack.Undoes readBytes bytes := by
  intro b rest
  have hl : b.size = b.data.toList.length := Array.length_toList.symm
  simp only [readBytes, bytes, List.append_assoc, readNumber_number b.size, Option.bind_eq_bind,
    Option.bind_some]
  rw [hl, List.take_left, List.drop_left]
  simp

/-- Writes a text. -/
def text (s : String) : List UInt8 := bytes s.toUTF8

/-- Reads a text. -/
def readText : Unpack String := fun input => do
  let (b, rest) ← readBytes input
  return (← String.fromUTF8? b, rest)

theorem fromUTF8?_toUTF8 (s : String) : String.fromUTF8? s.toUTF8 = some s := by
  simp only [String.fromUTF8?, String.toUTF8_eq_toByteArray, dif_pos s.isValidUTF8]
  rfl

theorem readText_text : Unpack.Undoes readText text := by
  intro s rest
  simp only [readText, text, readBytes_bytes s.toUTF8 rest, Option.bind_eq_bind,
    Option.bind_some, fromUTF8?_toUTF8, Option.pure_def]

/-! ## Lists -/

/-- Writes the parts of a list after their number. -/
def list (write : α → List UInt8) (xs : List α) : List UInt8 :=
  number xs.length ++ xs.flatMap write

/-- Reads a number of parts. -/
def readParts (read : Unpack α) : (count : Nat) → Unpack (List α)
  | 0, input => some ([], input)
  | count + 1, input => do
    let (x, rest) ← read input
    let (xs, rest) ← readParts read count rest
    return (x :: xs, rest)

/-- Reads a list. -/
def readList (read : Unpack α) : Unpack (List α) := fun input => do
  let (n, rest) ← readNumber input
  readParts read n rest

theorem readParts_flatMap {read : Unpack α} {write : α → List UInt8} (h : read.Undoes write)
    (xs : List α) (rest : List UInt8) :
    readParts read xs.length (xs.flatMap write ++ rest) = some (xs, rest) := by
  induction xs with
  | nil => rfl
  | cons x xs ih => simp [readParts, List.append_assoc, h x, ih]

theorem readList_list {read : Unpack α} {write : α → List UInt8} (h : read.Undoes write) :
    (readList read).Undoes (list write) := by
  intro xs rest
  simp [readList, list, List.append_assoc, readNumber_number xs.length,
    readParts_flatMap h xs rest]

/-! ## Instructions -/

/-- Writes a truth value. -/
def bit (b : Bool) : List UInt8 := [if b then 1 else 0]

/-- Reads a truth value. -/
def readBit : Unpack Bool
  | b :: rest => some (b != 0, rest)
  | [] => none

theorem readBit_bit : Unpack.Undoes readBit bit := by
  intro b rest
  cases b <;> rfl

/-- Writes a value. -/
def value : StoredValue → List UInt8
  | .bool b => 0 :: bit b
  | .integer bits => 1 :: number bits.toNat
  | .real bits => 2 :: number bits.toNat
  | .text s => 3 :: text s

/-- Reads a value. -/
def readValue : Unpack StoredValue
  | 0 :: rest => do
    let (b, rest) ← readBit rest
    return (.bool b, rest)
  | 1 :: rest => do
    let (n, rest) ← readNumber rest
    return (.integer n.toUInt64, rest)
  | 2 :: rest => do
    let (n, rest) ← readNumber rest
    return (.real n.toUInt64, rest)
  | 3 :: rest => do
    let (s, rest) ← readText rest
    return (.text s, rest)
  | _ => none

theorem readValue_value : Unpack.Undoes readValue value := by
  intro v rest
  cases v with
  | bool b => simp [readValue, value, readBit_bit b rest]
  | integer bits => simp [readValue, value, readNumber_number bits.toNat rest]
  | real bits => simp [readValue, value, readNumber_number bits.toNat rest]
  | text s => simp [readValue, value, readText_text s rest]

/-- Writes a file with its path. -/
def file : String × StoredFile → List UInt8
  | (path, .there b) => 0 :: text path ++ bytes b
  | (path, .missing) => 1 :: text path
  | (path, .unreadable) => 2 :: text path

/-- Reads a file with its path. -/
def readFile : Unpack (String × StoredFile)
  | 0 :: rest => do
    let (path, rest) ← readText rest
    let (b, rest) ← readBytes rest
    return ((path, .there b), rest)
  | 1 :: rest => do
    let (path, rest) ← readText rest
    return ((path, .missing), rest)
  | 2 :: rest => do
    let (path, rest) ← readText rest
    return ((path, .unreadable), rest)
  | _ => none

theorem readFile_file : Unpack.Undoes readFile file := by
  intro ⟨path, f⟩ rest
  cases f with
  | there b =>
    simp [readFile, file, List.append_assoc, readText_text path, readBytes_bytes b rest]
  | missing => simp [readFile, file, readText_text path rest]
  | unreadable => simp [readFile, file, readText_text path rest]

/-- Writes an instruction. -/
def instruction : Instruction → List UInt8
  | .space name => 0 :: text name
  | .ignoreModule name => 1 :: text name
  | .define name v => 2 :: text name ++ value v
  | .source b files => 3 :: bytes b ++ list file files

/-- Reads an instruction. -/
def readInstruction : Unpack Instruction
  | 0 :: rest => do
    let (name, rest) ← readText rest
    return (.space name, rest)
  | 1 :: rest => do
    let (name, rest) ← readText rest
    return (.ignoreModule name, rest)
  | 2 :: rest => do
    let (name, rest) ← readText rest
    let (v, rest) ← readValue rest
    return (.define name v, rest)
  | 3 :: rest => do
    let (b, rest) ← readBytes rest
    let (files, rest) ← readList readFile rest
    return (.source b files, rest)
  | _ => none

theorem readInstruction_instruction : Unpack.Undoes readInstruction instruction := by
  intro i rest
  cases i with
  | space name => simp [readInstruction, instruction, readText_text name rest]
  | ignoreModule name => simp [readInstruction, instruction, readText_text name rest]
  | define name v =>
    simp [readInstruction, instruction, List.append_assoc, readText_text name,
      readValue_value v rest]
  | source b files =>
    simp [readInstruction, instruction, List.append_assoc, readBytes_bytes b,
      readList_list readFile_file files rest]

/-! ## Scripts -/

/-- Writes a script and the options under which it was followed. -/
def script (o : CompileOptions) (s : Script) : List UInt8 :=
  bit o.relaxedRegex ++ bit o.slowIsError ++ list instruction s

/-- Reads a script with its options, after which nothing may follow. -/
def readScript (input : List UInt8) : Option (CompileOptions × Script) := do
  let (relaxedRegex, rest) ← readBit input
  let (slowIsError, rest) ← readBit rest
  let (s, rest) ← readList readInstruction rest
  if rest.isEmpty then return ({ relaxedRegex, slowIsError }, s) else none

theorem readScript_script (o : CompileOptions) (s : Script) :
    readScript (script o s) = some (o, s) := by
  have h := readList_list readInstruction_instruction s []
  rw [List.append_nil] at h
  simp [readScript, script, List.append_assoc, readBit_bit o.relaxedRegex,
    readBit_bit o.slowIsError, h]

end RuleScan.Rules.Packed
