import RuleScan.Digest.Checksum
import RuleScan.Digest.Md5
import RuleScan.Digest.Sha
import RuleScan.Rules.Value
import RuleScan.Text.Numeral
import RuleScan.Text.Utf8

/-!
# Modules

The modules that rules may import, with the types of what they bring and what it stands for. The
modules on executable formats only tell that a buffer is of another format: all else in them is
undefined. Constants, and the functions of `math`, `string` and `hash`, have values on any buffer.
-/

namespace RuleScan.Rules

open RuleScan.Text

/-- A module: its name, the types of its members, its constants, and its output on a buffer of no
format that it knows. -/
structure Module where
  name : String
  members : List (String × Ty)
  constants : List (String × Val) := []
  output : String := "\x7b\x7d"

/-! ## Types of members -/

/-- A function with one form. -/
def form (args : List Ty) (result : Ty) : Ty := .function [(args, result)]

/-- Members of one type. -/
def membersOf (ty : Ty) (names : List String) : List (String × Ty) := names.map fun n => (n, ty)

/-- The forms of a function of a stretch of the buffer, or of a text. -/
def stretchForms (result : Ty) : Ty := .function [([.integer, .integer], result), ([.text], result)]

/-- Integer constants as members. -/
def constantMembers (cs : List (String × Val)) : List (String × Ty) :=
  cs.map fun (n, v) => (n, match v with
    | .real _ => .real
    | .text _ => .text
    | .bool _ => .bool
    | .integer _ => .integer)

/-- Named integers. -/
def integers (cs : List (String × Int)) : List (String × Val) :=
  cs.map fun (n, i) => (n, .integer (Int64.ofInt i))

/-! ## The modules -/

/-- Functions on numbers and on the bytes of a buffer. -/
def mathModule : Module where
  name := "math"
  members :=
    [("min", form [.integer, .integer] .integer), ("max", form [.integer, .integer] .integer),
     ("abs", form [.integer] .integer), ("in_range", form [.real, .real, .real] .bool),
     ("to_number", form [.bool] .integer),
     ("to_string", .function [([.integer], .text), ([.integer, .integer], .text)]),
     ("entropy", stretchForms .real), ("mean", stretchForms .real),
     ("deviation", .function [([.integer, .integer, .real], .real), ([.text, .real], .real)]),
     ("count", .function [([.integer, .integer, .integer], .integer), ([.integer], .integer)]),
     ("percentage", .function [([.integer, .integer, .integer], .real), ([.integer], .real)]),
     ("mode", .function [([.integer, .integer], .integer), ([], .integer)]),
     ("MEAN_BYTES", .real)]
  constants := [("MEAN_BYTES", .real 127.5)]

/-- Functions on texts. -/
def stringModule : Module where
  name := "string"
  members :=
    [("length", form [.text] .integer),
     ("to_int", .function [([.text], .integer), ([.text, .integer], .integer)])]

/-- Digests of stretches of a buffer. -/
def hashModule : Module where
  name := "hash"
  members :=
    membersOf (stretchForms .text) ["md5", "sha1", "sha256"]
      ++ membersOf (stretchForms .integer) ["crc32", "checksum32"]

/-- The time of a scan. -/
def timeModule : Module where
  name := "time"
  members := [("now", form [] .integer)]

/-- Messages from conditions, which are not shown. -/
def consoleModule : Module where
  name := "console"
  members :=
    [("log", .function [([.text], .bool), ([.integer], .bool), ([.real], .bool), ([.bool], .bool),
       ([.text, .text], .bool), ([.text, .integer], .bool), ([.text, .real], .bool),
       ([.text, .bool], .bool)]),
     ("hex", .function [([.integer], .bool), ([.text, .integer], .bool)])]

/-- The constants of the module on portable executables. -/
def peConstants : List (String × Val) :=
  integers
    [("MACHINE_UNKNOWN", 0), ("MACHINE_I386", 0x14c), ("MACHINE_ARM", 0x1c0),
     ("MACHINE_ARMNT", 0x1c4), ("MACHINE_IA64", 0x200), ("MACHINE_AMD64", 0x8664),
     ("MACHINE_ARM64", 0xaa64), ("RELOCS_STRIPPED", 1), ("EXECUTABLE_IMAGE", 2),
     ("LARGE_ADDRESS_AWARE", 0x20), ("MACHINE_32BIT", 0x100), ("DEBUG_STRIPPED", 0x200),
     ("SYSTEM", 0x1000), ("DLL", 0x2000), ("UP_SYSTEM_ONLY", 0x4000),
     ("SUBSYSTEM_UNKNOWN", 0), ("SUBSYSTEM_NATIVE", 1), ("SUBSYSTEM_WINDOWS_GUI", 2),
     ("SUBSYSTEM_WINDOWS_CUI", 3), ("SECTION_CNT_CODE", 0x20), ("SECTION_MEM_EXECUTE", 0x20000000),
     ("SECTION_MEM_READ", 0x40000000), ("SECTION_MEM_WRITE", 0x80000000)]

/-- A section of a portable executable. -/
def peSection : Ty :=
  .record (membersOf .text ["name", "full_name"]
    ++ membersOf .integer ["virtual_address", "virtual_size", "raw_data_offset", "raw_data_size",
      "characteristics", "pointer_to_relocations", "number_of_relocations"])

/-- Portable executables. -/
def peModule : Module where
  name := "pe"
  members :=
    constantMembers peConstants
      ++ [("is_pe", .bool), ("is_signed", .bool)]
      ++ membersOf .integer ["machine", "subsystem", "entry_point", "entry_point_raw", "image_base",
        "number_of_sections", "number_of_symbols", "number_of_resources", "number_of_imports",
        "number_of_imported_functions", "number_of_exports", "number_of_signatures", "timestamp",
        "characteristics", "dll_characteristics", "size_of_code", "size_of_image",
        "size_of_headers", "checksum", "section_alignment", "file_alignment", "opthdr_magic",
        "resource_timestamp", "export_timestamp"]
      ++ membersOf .text ["dll_name", "pdb_path"]
      ++ [("os_version", .record (membersOf .integer ["major", "minor"])),
          ("image_version", .record (membersOf .integer ["major", "minor"])),
          ("linker_version", .record (membersOf .integer ["major", "minor"])),
          ("subsystem_version", .record (membersOf .integer ["major", "minor"])),
          ("overlay", .record (membersOf .integer ["offset", "size"])),
          ("version_info", .dictionary .text), ("sections", .list peSection),
          ("imphash", form [] .text), ("is_dll", form [] .bool), ("is_32bit", form [] .bool),
          ("is_64bit", form [] .bool), ("calculate_checksum", form [] .integer),
          ("section_index", .function [([.text], .integer), ([.integer], .integer)]),
          ("exports", .function [([.text], .bool), ([.integer], .bool), ([.regex], .bool)]),
          ("imports", .function [([.text], .integer), ([.text, .text], .bool),
            ([.text, .integer], .bool), ([.regex, .regex], .integer)]),
          ("rva_to_offset", form [.integer] .integer)]
  constants := ("is_pe", .bool false) :: peConstants
  output := "\x7b\"isPe\": false\x7d"

/-- The constants of the module on executables of the linkable format. -/
def elfConstants : List (String × Val) :=
  integers
    [("ET_NONE", 0), ("ET_REL", 1), ("ET_EXEC", 2), ("ET_DYN", 3), ("ET_CORE", 4), ("EM_386", 3),
     ("EM_MIPS", 8), ("EM_PPC", 20), ("EM_PPC64", 21), ("EM_ARM", 40), ("EM_X86_64", 62),
     ("EM_AARCH64", 183), ("SHT_NULL", 0), ("SHT_PROGBITS", 1), ("SHT_SYMTAB", 2),
     ("SHT_STRTAB", 3), ("PT_LOAD", 1), ("PF_X", 1), ("PF_W", 2), ("PF_R", 4)]

/-- Executables of the linkable format. -/
def elfModule : Module where
  name := "elf"
  members :=
    constantMembers elfConstants
      ++ membersOf .integer ["type", "machine", "entry_point", "number_of_sections",
        "number_of_segments", "sh_offset", "sh_entry_size", "ph_offset", "ph_entry_size",
        "symtab_entries", "dynsym_entries", "dynamic_section_entries"]
      ++ [("sections", .list (.record (("name", .text) :: membersOf .integer
            ["type", "flags", "address", "size", "offset"]))),
          ("segments", .list (.record (membersOf .integer
            ["type", "flags", "offset", "virtual_address", "physical_address", "file_size",
             "memory_size", "alignment"]))),
          ("import_md5", form [] .text), ("telfhash", form [] .text)]
  constants := elfConstants

/-- Executables of the object format of another system. -/
def machoModule : Module where
  name := "macho"
  members :=
    membersOf .integer ["magic", "cputype", "cpusubtype", "filetype", "ncmds", "sizeofcmds",
      "flags", "entry_point", "stack_size", "number_of_segments"]

/-- Executables for a managed runtime. -/
def dotnetModule : Module where
  name := "dotnet"
  members :=
    [("is_dotnet", .bool)]
      ++ membersOf .text ["version", "module_name", "typelib"]
      ++ membersOf .integer ["number_of_streams", "number_of_guids", "number_of_resources",
        "number_of_classes", "number_of_assembly_refs", "number_of_modulerefs",
        "number_of_user_strings", "number_of_constants"]
      ++ [("guids", .list .text), ("user_strings", .list .text), ("modulerefs", .list .text)]
  constants := [("is_dotnet", .bool false)]
  output := "\x7b\"isDotnet\": false\x7d"

/-- Shortcuts. -/
def lnkModule : Module where
  name := "lnk"
  members :=
    [("is_lnk", .bool)]
      ++ membersOf .text ["name", "relative_path", "working_dir", "cmd_line_args", "icon_location"]
      ++ membersOf .integer ["creation_time", "access_time", "write_time", "file_size"]
  constants := [("is_lnk", .bool false)]
  output := "\x7b\"isLnk\": false\x7d"

/-- Executables for a register machine. -/
def dexModule : Module where
  name := "dex"
  members := [("is_dex", .bool)]
  constants := [("is_dex", .bool false)]
  output := "\x7b\"isDex\": false\x7d"

/-- Browser extensions. -/
def crxModule : Module where
  name := "crx"
  members := [("is_crx", .bool)]
  constants := [("is_crx", .bool false)]
  output := "\x7b\"isCrx\": false\x7d"

/-- All modules. -/
def modules : List Module :=
  [mathModule, stringModule, hashModule, timeModule, consoleModule, peModule, elfModule,
   machoModule, dotnetModule, lnkModule, dexModule, crxModule]

/-- The module of a name. -/
def module? (name : String) : Option Module := modules.find? (·.name = name)

/-! ## Functions -/

/-- A stretch of a buffer, cut off at its end; none if it starts past the end. -/
def clippedStretch? (data : ByteArray) (offset size : Int64) : Option ByteArray :=
  if offset < 0 || size < 0 then none
  else
    let start := offset.toInt.toNat
    if start > data.size then none
    else some (data.extract start (min data.size (start + size.toInt.toNat)))

/-- A stretch of a buffer that lies in it. -/
def stretch? (data : ByteArray) (offset size : Int64) : Option ByteArray :=
  if offset < 0 || size < 0 then none
  else
    let start := offset.toInt.toNat
    let stop := start + size.toInt.toNat
    if stop > data.size then none else some (data.extract start stop)

/-- How often each byte occurs. -/
def byteCounts (bytes : ByteArray) : Array Nat :=
  bytes.foldl (fun counts b => counts.modify b.toNat (· + 1)) (.replicate 256 0)

/-- The entropy of bytes in bits. -/
def entropy (bytes : ByteArray) : Float :=
  let size := bytes.size.toFloat
  (byteCounts bytes).foldl (fun e n =>
    if n = 0 then e
    else
      let p := n.toFloat / size
      e - p * p.log2) 0.0

/-- The mean of bytes. -/
def mean (bytes : ByteArray) : Float :=
  (bytes.foldl (fun n b => n + b.toNat) 0).toFloat / bytes.size.toFloat

/-- The mean distance of bytes from a number. -/
def deviation (bytes : ByteArray) (from_ : Float) : Float :=
  (bytes.foldl (fun x b => x + (b.toNat.toFloat - from_).abs) 0.0) / bytes.size.toFloat

/-- The most frequent byte, the least of them if there are several. -/
def mode (bytes : ByteArray) : Nat :=
  let counts := byteCounts bytes
  (List.range 256).foldl (fun best b => if counts.getD b 0 > counts.getD best 0 then b else best) 0

/-- How often a byte occurs. -/
def occurrences? (bytes : ByteArray) (b : Int64) : Option Nat :=
  if 0 ≤ b && b < 256 then some ((byteCounts bytes).getD b.toInt.toNat 0) else none

/-- The value of a digit in bases up to thirty-six. -/
def digitIn? (c : Char) : Option Nat :=
  if c.isDigit then some (c.toNat - 48)
  else if c.isLower then some (c.toNat - 87)
  else if c.isUpper then some (c.toNat - 55)
  else none

/-- The whole number that digits in a base spell, after an optional sign. -/
def integerIn? (base : Nat) (s : String) : Option Int64 := do
  let (neg, digits) := splitSign s.toList
  if digits.isEmpty then none
  let values ← digits.mapM fun c => (digitIn? c).filter (· < base)
  let n : Nat := values.foldl (fun n d => base * n + d) 0
  let i : Int := if neg then -n else n
  if ExternalValue.fits i then some (Int64.ofInt i) else none

/-- A whole number in a base of two, eight, ten or sixteen. -/
def textIn? (i base : Int64) : Option String :=
  let digits (b n : Nat) : String := String.ofList (Nat.toDigits b n)
  if base = 10 then some (ExternalValue.integerText i.toInt)
  else if base = 2 || base = 8 || base = 16 then
    some (digits base.toInt.toNat i.toUInt64.toNat)
  else none

/-- A digest of bytes by name. -/
def digest? (name : String) (bytes : ByteArray) : Option Val :=
  let hex (s : String) : Val := .text s.toUTF8
  let number (w : UInt32) : Val := .integer (Int64.ofNat w.toNat)
  match name with
  | "md5" => some (hex (Digest.md5 bytes))
  | "sha1" => some (hex (Digest.sha1 bytes))
  | "sha256" => some (hex (Digest.sha256 bytes))
  | "crc32" => some (number (Digest.crc32 bytes))
  | "checksum32" => some (number (Digest.checksum32 bytes))
  | _ => none

/-- A natural number as a value. -/
def ofNat (n : Nat) : Val := .integer (Int64.ofNat n)

/-- A function of `math`. -/
def callMath (data : ByteArray) : String → List Val → Option Val
  | "min", [.integer a, .integer b] => some (.integer (if a ≤ b then a else b))
  | "max", [.integer a, .integer b] => some (.integer (if a ≤ b then b else a))
  | "abs", [.integer a] => some (.integer (if a < 0 then -a else a))
  | "in_range", [.real x, .real low, .real high] => some (.bool (low ≤ x && x ≤ high))
  | "to_number", [.bool b] => some (.integer (if b then 1 else 0))
  | "to_string", [.integer a] => some (.text (ExternalValue.integerText a.toInt).toUTF8)
  | "to_string", [.integer a, .integer base] => (textIn? a base).map fun s => .text s.toUTF8
  | "entropy", [.integer o, .integer n] => (clippedStretch? data o n).map fun b => .real (entropy b)
  | "entropy", [.text s] => some (.real (entropy s))
  | "mean", [.integer o, .integer n] => (clippedStretch? data o n).map fun b => .real (mean b)
  | "mean", [.text s] => some (.real (mean s))
  | "deviation", [.integer o, .integer n, .real m] =>
    (clippedStretch? data o n).map fun b => .real (deviation b m)
  | "deviation", [.text s, .real m] => some (.real (deviation s m))
  | "count", [.integer c, .integer o, .integer n] => do
    return ofNat (← occurrences? (← clippedStretch? data o n) c)
  | "count", [.integer c] => (occurrences? data c).map ofNat
  | "percentage", [.integer c, .integer o, .integer n] => do
    let bytes ← clippedStretch? data o n
    return .real ((← occurrences? bytes c).toFloat / bytes.size.toFloat)
  | "percentage", [.integer c] =>
    (occurrences? data c).map fun n => .real (n.toFloat / data.size.toFloat)
  | "mode", [.integer o, .integer n] => (clippedStretch? data o n).map fun b => ofNat (mode b)
  | "mode", [] => some (ofNat (mode data))
  | _, _ => none

/-- A function of `string`. -/
def callString : String → List Val → Option Val
  | "length", [.text s] => some (ofNat s.size)
  | "to_int", [.text s] => do return .integer (← integerIn? 10 (← String.fromUTF8? s))
  | "to_int", [.text s, .integer base] => do
    if 2 ≤ base && base ≤ 36 then
      return .integer (← integerIn? base.toInt.toNat (← String.fromUTF8? s))
    else none
  | _, _ => none

/-- A function of `hash`. -/
def callHash (data : ByteArray) (name : String) : List Val → Option Val
  | [.text s] => digest? name s
  | [.integer o, .integer n] => do digest? name (← stretch? data o n)
  | _ => none

/-- The moment at which every scan takes place, in seconds: the clock of conditions stands still, so
that a scan depends on its buffer alone. -/
def scanTime : Int64 := 1735689600

/-- A function of a module. -/
def callModule (data : ByteArray) : List String → List Val → Option Val
  | ["math", name], args => callMath data name args
  | ["string", name], args => callString name args
  | ["hash", name], args => callHash data name args
  | ["time", "now"], [] => some (.integer scanTime)
  | ["console", _], _ => some (.bool true)
  | _, _ => none

/-- The value of a member of a module. -/
def memberValue : List String → Option Val
  | [module, name] => do
    let m ← module? module
    (m.constants.find? (·.1 = name)).map (·.2)
  | _ => none

/-! ## Numbers in the buffer -/

/-- The functions that read a whole number out of the buffer: whether it has a sign, its bytes, and
whether the most significant one comes first. -/
def readers : List (String × (Bool × Nat × Bool)) :=
  [("uint8", (false, 1, false)), ("uint16", (false, 2, false)), ("uint32", (false, 4, false)),
   ("uint64", (false, 8, false)), ("int8", (true, 1, false)), ("int16", (true, 2, false)),
   ("int32", (true, 4, false)), ("int64", (true, 8, false)), ("uint8be", (false, 1, true)),
   ("uint16be", (false, 2, true)), ("uint32be", (false, 4, true)), ("uint64be", (false, 8, true)),
   ("int8be", (true, 1, true)), ("int16be", (true, 2, true)), ("int32be", (true, 4, true)),
   ("int64be", (true, 8, true))]

/-- Reads a whole number out of the buffer. -/
def readNumberAt? (data : ByteArray) (signed : Bool) (size : Nat) (bigEndian : Bool)
    (offset : Int64) : Option Int64 := do
  let bytes ← stretch? data offset (Int64.ofNat size)
  let digits := bytes.data.toList.map UInt8.toNat
  let n : Nat := (if bigEndian then digits else digits.reverse).foldl (fun n d => 256 * n + d) 0
  let i : Int := if signed && n ≥ Nat.pow 2 (8 * size - 1) then n - Nat.pow 2 (8 * size) else n
  return Int64.ofInt i

/-- A function that belongs to no module. -/
def callReader (data : ByteArray) (name : String) : List Val → Option Val
  | [.integer offset] => do
    let (_, signed, size, bigEndian) ← readers.find? (·.1 = name)
    return .integer (← readNumberAt? data signed size bigEndian offset)
  | _ => none

end RuleScan.Rules
