import RuleScan.Rules.Draft

/-!
# Included files

The files that a source includes, directly or through other files.
-/

namespace RuleScan.Rules

mutual

/-- The number of bytes of all files below. -/
def bytesBelow : Node → Nat
  | .file data => data.size
  | .dir entries => bytesOfEntries entries

/-- The number of bytes of all files below some entries. -/
def bytesOfEntries : List (String × Node) → Nat
  | [] => 0
  | (_, node) :: rest => bytesBelow node + bytesOfEntries rest

end

/-- The paths that a source includes itself. -/
def includedBy (bytes : ByteArray) : List String :=
  match String.fromUTF8? bytes with
  | none => []
  | some text => (Source.read text).items.filterMap fun
    | .file path => some path
    | _ => none

/-- A file to include. -/
def readIncluded (fs : Files) (path : String) : Except Fault ByteArray :=
  (fs.read path).mapError fun
    | .notFound => .includeNotFound
    | _ => .includeUnreadable

/-- Reads the files at some paths and those that they include; `files` were read before. -/
def readAllIncluded (fs : Files) : (fuel : Nat) → (files : Included) → List String → Included
  | 0, files, _ => files
  | _, files, [] => files
  | fuel + 1, files, path :: rest =>
    if (files.lookup path).isSome then readAllIncluded fs fuel files rest
    else
      let found := readIncluded fs path
      let more := match found with
        | .ok bytes => includedBy bytes
        | .error _ => []
      readAllIncluded fs fuel ((path, found) :: files) (rest ++ more)

/-- The files that a source includes, directly or not. There are no more paths than bytes, and the
file at each is read once and gives no more paths than it has bytes, which bounds the steps. -/
def includedFiles (fs : Files) (bytes : ByteArray) : Included :=
  readAllIncluded fs (Nat.pow (bytes.size + bytesBelow fs.root + 1) 2) [] (includedBy bytes)

end RuleScan.Rules
