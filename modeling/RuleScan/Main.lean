import RuleScan.CommandLine.Run

/-!
# The program

Loads what the words of the command line name, runs the command line on it, and keeps the cache file
that the run wrote. Files that rules include are loaded as they come up.
-/

namespace RuleScan.CommandLine

/-- The paths that a run may read. -/
def Arguments.paths (a : Arguments) : List String :=
  a.rules ++ [a.content, a.comments, a.metadata, a.plugins, a.config, a.loadCache,
    a.saveCache].filterMap id

/-- A tree that holds nothing but the working directory. -/
def workingTree : IO Files := do
  let names := (← IO.currentDir).toString.splitOn "/" |>.filter (· ≠ "")
  let fs := (Files.makeDirectories { root := .dir [], cwd := [] } true names.reverse).1
  return { fs with cwd := names }

/-- Adds what stands at some paths to a tree, and what rule files at them include. -/
partial def load (fs : Files) : List String → IO Files
  | [] => return fs
  | path :: rest => do
    if fs.isThere path && !fs.isDirectory path then load fs rest
    else match ← (IO.FS.readBinFile path).toBaseIO with
      | .ok data => load (fs.plant path data) (Rules.includedBy data ++ rest)
      | .error _ =>
        match ← (do (← IO.FS.realPath path).readDir : IO _).toBaseIO with
        | .ok entries =>
          let below := entries.toList.map fun e => Files.join path e.fileName
          load (fs.plantDirectory path) (below ++ rest)
        | .error _ => load fs rest

/-- The directory part of a path. -/
def directoryOf (path : String) : String :=
  String.ofList (path.toList.reverse.dropWhile (· ≠ '/')).reverse

/-- Keeps the cache file that a run wrote. -/
def keep (e : Exit) (path : String) : IO Unit := do
  match e.files.read path with
  | .error _ => return
  | .ok data =>
    let directory := directoryOf path
    if directory ≠ "" then IO.FS.createDirAll directory
    IO.FS.writeBinFile path data

/-- Shows the log lines that are important enough. -/
def showLog (verbose : Bool) (e : Exit) : IO Unit := do
  let most := if verbose then LogLevel.debug else LogLevel.info
  for event in e.trace do
    if let .log level text := event then
      if level.rank ≤ most.rank then IO.eprintln (level.name ++ " " ++ text)

end RuleScan.CommandLine

open RuleScan RuleScan.CommandLine

/-- Runs the words after the program's name. -/
def main (words : List String) : IO UInt32 := do
  let asked := (Arguments.read words).toOption
  let fs ← load (← workingTree) (asked.elim [] Arguments.paths)
  let e := run words fs
  if let some a := asked then
    showLog a.verbose e
    if let some path := a.saveCache then keep e path
  IO.print e.output
  IO.eprint e.errors
  return e.code.toUInt32
