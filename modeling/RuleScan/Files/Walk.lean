import RuleScan.Files.Basic

/-!
# Walks through directories

A walk that starts at a directory comes to it and to everything at any depth below it: to each
directory before its entries, and to these in the order of their names. Where a directory cannot be
listed the walk has words for that in place of the entries, and goes on behind it.

The rule files are picked from a walk that got to its end. A rule file is a file whose extension is
`yar` or `yara` in any case; a dot at the start of a name begins no extension.
-/

namespace RuleScan

/-- The name that a path ends in, unless it goes up there. -/
def Path.name? (s : String) : Option String := (Path.parse s).names.getLast?.filter (· ≠ "..")

namespace Files

/-- What a walk comes to. -/
structure Spot where
  path : String
  isFile : Bool
  deriving DecidableEq

/-! ## Rule files -/

/-- What follows the last dot of a name, unless the name starts with that dot. -/
def extension? (name : String) : Option String :=
  let cs := name.toList.reverse
  match cs.dropWhile (· != '.') with
  | _ :: _ :: _ => some (String.ofList (cs.takeWhile (· != '.')).reverse)
  | _ => none

/-- Whether a name is that of a rule file. -/
def isRuleFile (name : String) : Bool :=
  (extension? name).any fun e => e.toLower = "yar" || e.toLower = "yara"

/-- Whether the file at a path is a rule file. -/
def isRulePath (path : String) : Bool := (Path.name? path).any isRuleFile

/-- The paths of the rule files that a walk comes to, or the words of its first failure. -/
def picked : List (Except String Spot) → Except String (List String)
  | [] => .ok []
  | .error words :: _ => .error words
  | .ok spot :: rest =>
    (picked rest).map fun files =>
      if spot.isFile && isRulePath spot.path then spot.path :: files else files

/-! ## Walking -/

/-- What belongs to some entries, in the order of their names. -/
def inOrder {α : Type} (entries : List (String × List α)) : List α :=
  (entries.mergeSort fun a b => a.1 ≤ b.1).flatMap (·.2)

/-- The words of a walk for a directory that it cannot list. -/
def walkWords (path : String) (fault : FileFault) : String :=
  "IO error for operation on " ++ path ++ ": " ++ fault.message

mutual

/-- A walk through what stands at a path. Directories are opened by their paths. -/
def spotsOf (path : String) : Node → List (Except String Spot)
  | .file _ => [.ok { path, isFile := true }]
  | .dir entries =>
    .ok { path, isFile := false } ::
      match checkPath path with
      | .ok () => inOrder (entrySpots path entries)
      | .error fault => [.error (walkWords path fault)]

/-- A walk through each entry of a directory. -/
def entrySpots (path : String) : List (String × Node) → List (String × List (Except String Spot))
  | [] => []
  | (name, node) :: rest => (name, spotsOf (join path name) node) :: entrySpots path rest

end

/-- A walk that starts at a path. -/
def walk (fs : Files) (path : String) : List (Except String Spot) :=
  match fs.locate path with
  | .ok (_, node) => spotsOf path node
  | .error fault => [.error (walkWords path fault)]

end Files

end RuleScan
