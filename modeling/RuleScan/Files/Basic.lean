/-!
# A tree of files

Files and directories as a value, with a working directory inside it. Paths are texts; they are cut
into the names between slashes once, and all operations work on names. `get?`, `put` and `erase`
act on a tree at a list of names; `Files.locate` finds the names that a path stands for.
-/

namespace RuleScan

/-- A file or a directory. -/
inductive Node
  | file (data : ByteArray)
  | dir (entries : List (String × Node))

/-- Why an operation on files fails. -/
inductive FileFault
  | notFound
  | notDirectory
  | isDirectory
  | alreadyThere
  | nameTooLong
  /-- The path holds a character that no name may hold. -/
  | nulInPath
  /-- The bytes of the file are no text. -/
  | notText
  deriving DecidableEq, Repr

/-- The wording of a fault. -/
def FileFault.message : FileFault → String
  | notFound => "No such file or directory (os error 2)"
  | notDirectory => "Not a directory (os error 20)"
  | isDirectory => "Is a directory (os error 21)"
  | alreadyThere => "File exists (os error 17)"
  | nameTooLong => "File name too long (os error 36)"
  | nulInPath => "file name contained an unexpected NUL byte"
  | notText => "stream did not contain valid UTF-8"

namespace Node

/-- The entry of a name in a directory. -/
def child? (name : String) : Node → Option Node
  | file _ => none
  | dir entries => (entries.find? (·.1 = name)).map (·.2)

/-- What stands at a list of names. -/
def get? (n : Node) : List String → Option Node
  | [] => some n
  | name :: rest => (n.child? name).bind fun c => c.get? rest

/-- Puts an entry into a list of entries, in place of one of the same name. -/
def putEntry (name : String) (c : Node) : List (String × Node) → List (String × Node)
  | [] => [(name, c)]
  | e :: rest => if e.1 = name then (name, c) :: rest else e :: putEntry name c rest

/-- Puts something at a list of names whose directories exist; nothing changes otherwise. -/
def put (n : Node) (names : List String) (c : Node) : Node :=
  match names, n with
  | [], _ => c
  | name :: rest, dir entries =>
    match rest, (dir entries).child? name with
    | [], _ => dir (putEntry name c entries)
    | rest, some old => dir (putEntry name (old.put rest c) entries)
    | _, none => dir entries
  | _, file data => file data

/-- Takes away what stands at a list of names. -/
def erase (n : Node) (names : List String) : Node :=
  match names, n with
  | [name], dir entries => dir (entries.filter (·.1 ≠ name))
  | name :: rest, dir entries =>
    match (dir entries).child? name with
    | some old => dir (putEntry name (old.erase rest) entries)
    | none => dir entries
  | _, n => n

end Node

/-! ## Paths -/

/-- A path cut into names. -/
structure Path where
  /-- Whether it starts at the top of the tree. -/
  absolute : Bool
  /-- Its names without empty ones and dots. -/
  names : List String
  /-- Whether it ends in a slash, so that only a directory is meant. -/
  slashed : Bool
  deriving DecidableEq, Repr

/-- The texts between slashes. -/
def Path.segments (s : String) : List String := (s.toList.splitOn '/').map String.ofList

/-- Cuts a path into names. -/
def Path.parse (s : String) : Path :=
  let segments := Path.segments s
  { absolute := segments.length > 1 && segments.head? = some ""
    names := segments.filter fun n => n ≠ "" && n ≠ "."
    slashed := segments.getLast?.any fun n => n = "" || n = "." }

/-- The path of the directory that holds what a path stands for, if the path has a name to drop. -/
def Path.parent? (s : String) : Option Path :=
  let p := Path.parse s
  let kept := if p.names.isEmpty then Path.segments s |>.filter (· = ".") else []
  match p.names, kept with
  | [], [] => none
  | [], _ :: _ => some { p with names := [], slashed := false }
  | names, _ => some { p with names := names.dropLast, slashed := false }

/-- A name below a path. -/
def Files.join (path name : String) : String :=
  if path.isEmpty then name
  else if path.toList.getLast? = some '/' then path ++ name
  else path ++ "/" ++ name

/-! ## The tree and its working directory -/

/-- A tree of files and the names of its working directory. -/
structure Files where
  root : Node
  cwd : List String

namespace Files

/-- A tree with an empty working directory. -/
def empty : Files := { root := .dir [("work", .dir [])], cwd := ["work"] }

/-- The most bytes that a name may have. -/
def maxName : Nat := 255

/-- The most bytes that a path may have. -/
def maxPath : Nat := 4095

/-- Goes down from a directory by some names, each of which must be there. -/
def descend (root : Node) (here : List String) : List String → Except FileFault (List String)
  | [] => .ok here
  | name :: rest =>
    match root.get? here with
    | some (.dir entries) =>
      if name = ".." then descend root here.dropLast rest
      else if name.utf8ByteSize > maxName then .error .nameTooLong
      else if ((Node.dir entries).child? name).isNone then .error .notFound
      else descend root (here ++ [name]) rest
    | _ => .error .notDirectory

/-- Where a path starts. -/
def start (fs : Files) (p : Path) : List String := if p.absolute then [] else fs.cwd

/-- Faults of a path that do not depend on the tree. -/
def checkPath (s : String) : Except FileFault Unit :=
  if s.toList.contains '\x00' then .error .nulInPath
  else if s.isEmpty then .error .notFound
  else if s.utf8ByteSize > maxPath then .error .nameTooLong
  else .ok ()

/-- The names of what a path stands for, and what stands there. -/
def locate (fs : Files) (s : String) : Except FileFault (List String × Node) := do
  checkPath s
  let p := Path.parse s
  let names ← descend fs.root (fs.start p) p.names
  match fs.root.get? names with
  | none => .error .notFound
  | some (.file data) => if p.slashed then .error .notDirectory else .ok (names, .file data)
  | some n => .ok (names, n)

/-- Whether a path stands for anything. -/
def isThere (fs : Files) (s : String) : Bool := (fs.locate s).isOk

/-- Whether a path stands for a directory. -/
def isDirectory (fs : Files) (s : String) : Bool :=
  match fs.locate s with
  | .ok (_, .dir _) => true
  | _ => false

/-- The bytes of a file. -/
def read (fs : Files) (s : String) : Except FileFault ByteArray := do
  match ← fs.locate s with
  | (_, .file data) => .ok data
  | (_, .dir _) => .error .isDirectory

/-- The text of a file. -/
def readText (fs : Files) (s : String) : Except FileFault String := do
  match String.fromUTF8? (← fs.read s) with
  | some text => .ok text
  | none => .error .notText

/-- Where something new would stand: the names of its directory and its own. A path that names
nothing new stands for a directory. -/
def place (fs : Files) (p : Path) : Except FileFault (List String × Option String) := do
  match p.names.getLast? with
  | none => .ok (fs.start p, none)
  | some name =>
    let here ← descend fs.root (fs.start p) p.names.dropLast
    match fs.root.get? here with
    | some (.dir _) =>
      if name = ".." then .ok (here.dropLast, none)
      else if name.utf8ByteSize > maxName then .error .nameTooLong
      else .ok (here, some name)
    | _ => .error .notDirectory

/-- Writes a file, in place of an earlier one. -/
def write (fs : Files) (s : String) (data : ByteArray) : Except FileFault Files := do
  checkPath s
  let p := Path.parse s
  match ← fs.place p with
  | (_, none) => .error .isDirectory
  | (here, some name) =>
    match fs.root.get? (here ++ [name]), p.slashed with
    | some (.dir _), _ => .error .isDirectory
    | _, true => .error .isDirectory
    | _, false => .ok { fs with root := fs.root.put (here ++ [name]) (.file data) }

/-- Makes a directory in one that exists. -/
def makeDirectory (fs : Files) (p : Path) : Except FileFault Files := do
  match ← fs.place p with
  | (_, none) => .error .alreadyThere
  | (here, some name) =>
    if (fs.root.get? (here ++ [name])).isSome then .error .alreadyThere
    else .ok { fs with root := fs.root.put (here ++ [name]) (.dir []) }

/-- Whether names lead to a directory. -/
def leadsToDirectory (fs : Files) (p : Path) : Bool :=
  match descend fs.root (fs.start p) p.names with
  | .error _ => false
  | .ok names =>
    match fs.root.get? names with
    | some (.dir _) => true
    | _ => false

/-- Makes a directory unless it is there, and says so if it cannot be made. -/
def ensureDirectory (fs : Files) (p : Path) : Files × Except FileFault Unit :=
  match fs.makeDirectory p with
  | .ok fs => (fs, .ok ())
  | .error e => (fs, if fs.leadsToDirectory p then .ok () else .error e)

/-- Makes a directory and, if the one above it is missing, that one first. Directories made before
a failure stay. The names are given last first. -/
def makeDirectories (fs : Files) (absolute : Bool) : List String → Files × Except FileFault Unit
  | [] => (fs, .ok ())
  | name :: above =>
    let p : Path := { absolute, names := (name :: above).reverse, slashed := false }
    match fs.ensureDirectory p with
    | (fs, .error .notFound) =>
      match fs.makeDirectories absolute above with
      | (fs, .error e) => (fs, .error e)
      | (fs, .ok ()) => fs.ensureDirectory p
    | result => result

/-- A tree with a file at a path, and with the directories above it that were missing; unchanged if
no file can stand there. -/
def plant (fs : Files) (path : String) (data : ByteArray) : Files :=
  let p := Path.parse path
  let fs := (fs.makeDirectories p.absolute p.names.dropLast.reverse).1
  ((fs.write path data).toOption).getD fs

/-- A tree with a directory at a path, and with those above it that were missing. -/
def plantDirectory (fs : Files) (path : String) : Files :=
  let p := Path.parse path
  (fs.makeDirectories p.absolute p.names.reverse).1

/-- Removes a file. -/
def remove (fs : Files) (s : String) : Except FileFault Files := do
  match ← fs.locate s with
  | (_, .dir _) => .error .isDirectory
  | (names, .file _) => .ok { fs with root := fs.root.erase names }

end Files

end RuleScan
