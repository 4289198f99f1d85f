import RuleScan.Engine
import RuleScan.Text.Bytes

/-!
# Engines that follow a script

An engine without rules of its own: what it accepts, what it refuses, where it crashes and what its
scans find is written down beforehand. It notes every call, which makes the order of calls visible.
-/

namespace RuleScan.Scripted

open RuleScan.Text

/-- What a scripted backend answers. -/
structure Backend where
  /-- Findings for buffers that contain some bytes; the first that fits counts. -/
  hits : List (ByteArray × Findings) := []
  /-- Buffers with these bytes fail, with these words. -/
  failOn : Option ByteArray := none
  failure : String := ""
  /-- Buffers with these bytes crash the backend. -/
  crashOn : Option ByteArray := none
  rules : Nat := 0

/-- How a scripted build ends. -/
inductive Ending
  | succeed
  | fail (words : String)
  | crash
  deriving DecidableEq, Repr

/-- What a scripted compiler does. -/
structure Compiler where
  /-- Texts that contain one of these are refused. -/
  refuseOn : List String := []
  /-- Texts that contain one of these crash the compiler. -/
  crashOn : List String := []
  ending : Ending := .succeed
  backend : Backend := {}

/-- Notes a call and looks at its text. -/
def look (c : Compiler) (what text : String) : Action Compiler Unit := do
  .emit (.note (what ++ ":" ++ text))
  if c.crashOn.any (containsText text) then .crash "scripted compiler panic"
  else if c.refuseOn.any (containsText text) then
    .fail (.compile (.refused ("rejected " ++ text)))

/-- Takes a request. -/
def ingest (r : Request) : Action Compiler Nat := do
  let c ← .get
  match r with
  | .space name => look c "ns" name; return 0
  | .source text => look c "src" text; return 0
  | .file path => look c "file" path; return 0
  | .paths paths spacePerFile =>
    let _ ← Action.forEach (look c (if spacePerFile then "path-ns" else "path")) paths
    return paths.length
  | .ignoreModule module => .fail (.input (.cannotIgnoreModules module))
  | .define name value => .fail (.input (.cannotDefineVariables name value))

/-- Builds the backend of the script. -/
def build : Action Compiler Backend := do
  .emit (.note "build")
  let c ← .get
  match c.ending with
  | .succeed => return c.backend
  | .fail words => .fail (.build words)
  | .crash => .crash "scripted build panic"

/-- Scans a buffer. -/
def scan (data : ByteArray) : Action Backend (Option Findings) := do
  .emit (.note ("scan:" ++ decimal data.size))
  let b ← .get
  if b.crashOn.any (containsBytes data) then .crash "scripted scan panic"
  else if b.failOn.any (containsBytes data) then .fail (.scan b.failure)
  else return (b.hits.find? fun h => containsBytes data h.1).map (·.2)

theorem look_silent (c : Compiler) (what text : String) : (look c what text).Silent :=
  (Action.Silent.note _).bind fun _ => .ite (.crash _) (.ite (.fail _) (.pure ()))

theorem ingest_silent (r : Request) : (ingest r).Silent := by
  refine Action.Silent.get.bind fun c => ?_
  cases r with
  | space name => exact (look_silent c _ name).bind fun _ => .pure 0
  | source text => exact (look_silent c _ text).bind fun _ => .pure 0
  | file path => exact (look_silent c _ path).bind fun _ => .pure 0
  | paths paths spacePerFile =>
    exact (Action.Silent.forEach (look_silent c _) paths).bind fun _ => .pure _
  | ignoreModule module => exact .fail _
  | define name value => exact .fail _

theorem build_silent : build.Silent :=
  (Action.Silent.note _).bind fun _ => Action.Silent.get.bind fun c => by
    split
    · exact .pure _
    · exact .fail _
    · exact .crash _

theorem scan_silent (data : ByteArray) : (scan data).Silent :=
  (Action.Silent.note _).bind fun _ => Action.Silent.get.bind fun _ =>
    .ite (.crash _) (.ite (.fail _) (.pure _))

/-- The engine that follows scripts. -/
def engine : Engine Compiler Backend where
  ingest := ingest
  build := build
  releaseCompiler _ := [.note "drop-compiler"]
  scan := scan
  ruleCount := do return (← .get).rules
  serialize := .fail (.input .cannotExport)
  releaseBackend _ := [.note "drop-backend"]
  ingest_silent := ingest_silent
  build_silent := build_silent
  releaseCompiler_silent _ := rfl
  scan_silent := scan_silent
  ruleCount_silent := .bind .get fun _ => .pure _
  serialize_silent := .fail _
  releaseBackend_silent _ := rfl

end RuleScan.Scripted
