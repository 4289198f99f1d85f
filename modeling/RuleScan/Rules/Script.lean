import RuleScan.Rules.Draft

/-!
# Scripts

What a compiler was told, step by step. A script holds all that its draft depends on, also the files
that were included and the exact bits of real numbers, so that the draft can be made again from the
script alone.
-/

namespace RuleScan.Rules

/-- The value of an external variable, bit by bit. -/
inductive StoredValue
  | bool (b : Bool)
  | integer (bits : UInt64)
  | real (bits : UInt64)
  | text (s : String)
  deriving DecidableEq, Repr

namespace StoredValue

/-- Stores a value. -/
def ofExternal : ExternalValue → StoredValue
  | .bool b => bool b
  | .integer i => integer i.toUInt64
  | .real x => real x.toBits
  | .text s => text s

/-- The stored value. -/
def toExternal : StoredValue → ExternalValue
  | bool b => .bool b
  | integer bits => .integer bits.toInt64
  | real bits => .real (Float.ofBits bits)
  | text s => .text s

end StoredValue

/-- The bytes of a file to include, or why there are none. -/
inductive StoredFile
  | there (bytes : ByteArray)
  | missing
  | unreadable

namespace StoredFile

/-- Stores what reading a file gave. -/
def ofResult : Except Fault ByteArray → StoredFile
  | .ok bytes => there bytes
  | .error .includeNotFound => missing
  | .error _ => unreadable

/-- What reading the file gives. -/
def result : StoredFile → Except Fault ByteArray
  | there bytes => .ok bytes
  | missing => .error .includeNotFound
  | unreadable => .error .includeUnreadable

end StoredFile

/-- Something that a compiler is told. -/
inductive Instruction
  | space (name : String)
  | ignoreModule (name : String)
  | define (name : String) (value : StoredValue)
  | source (bytes : ByteArray) (files : List (String × StoredFile))

/-- What a compiler was told, the first instruction first. -/
abbrev Script := List Instruction

namespace Draft

/-- What an instruction makes of a draft, and its first fault. A draft is kept as far as it got. -/
def follow (o : CompileOptions) (d : Draft) : Instruction → Option Fault × Draft
  | .space name => (none, d.openSpace name)
  | .ignoreModule name => (none, d.ignoreModule name)
  | .define name value => d.define name value.toExternal
  | .source bytes files =>
    let included : Included := files.map fun (path, file) => (path, file.result)
    let (faults, d) := addSource o included (files.length + 1) [] d bytes
    (faults.head?, d)

/-- The draft that a script makes. -/
def ofScript (o : CompileOptions) (script : Script) : Draft :=
  script.foldl (fun d i => (d.follow o i).2) {}

theorem ofScript_append (o : CompileOptions) (script : Script) (i : Instruction) :
    ofScript o (script ++ [i]) = ((ofScript o script).follow o i).2 := by
  simp [ofScript]

end Draft

end RuleScan.Rules
