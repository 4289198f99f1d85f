import RuleScan.Cache.Store
import RuleScan.Engine
import RuleScan.Rules.Toolchain
import RuleScan.Text.Blank

/-!
# The rule engine of sessions

The compilers and the rules of a toolchain as the parts of a session. A compiler starts working with
the first request that gets past its checks; every change that it is handed is entered in the trace.
Files are read from the tree that the engine is given.
-/

namespace RuleScan.Rules

/-- Takes requests until the rules are built. -/
structure Collector (C : Type) where
  options : CompileOptions := {}
  /-- The time that a scan with the rules may take. -/
  timeout : Option Duration := none
  /-- The compiler, once it works. -/
  compiler : Option C := none

/-- Rules that are ready to scan. -/
structure Ready (R : Type) where
  rules : R
  /-- The time that a scan may take. -/
  timeout : Option Duration := none

/-- A truth value in logs. -/
def boolText (b : Bool) : String := if b then "true" else "false"

namespace Collector

variable {C R : Type}

/-- A collector set up as a configuration says. -/
def ofConfig (c : Config) : Collector C := { options := c.compile, timeout := c.timeout }

/-- How a collector is shown. -/
def display (c : Collector C) : String :=
  "NativeCompiler \x7b options: CompilerOptions \x7b relaxed_re_syntax: "
    ++ boolText c.options.relaxedRegex ++ ", error_on_slow_pattern: "
    ++ boolText c.options.slowIsError ++ " \x7d, scan_timeout: "
    ++ c.timeout.elim "None" (fun d => "Some(" ++ d.display ++ ")")
    ++ ", worker_started: " ++ boolText c.compiler.isSome ++ " \x7d"

/-- What is logged when a compiler starts working. -/
def startLog (o : CompileOptions) : Event :=
  .log .debug ("Compiler worker started | Relaxed re syntax: " ++ boolText o.relaxedRegex
    ++ " | Error on slow pattern: " ++ boolText o.slowIsError)

variable (T : Toolchain C R) (fs : Files)

/-- Hands a change to the compiler, which starts working if it did not yet. -/
def submit (change : Change) : Action (Collector C) Unit := fun c =>
  let (compiler, trace) := match c.compiler with
    | some compiler => (compiler, [])
    | none => (T.start c.options, [startLog c.options])
  let (refusal, compiler) := T.apply fs change compiler
  ⟨match refusal with
    | none => .ok ()
    | some words => .error (.compile (.refused words)),
    { c with compiler := some compiler }, trace ++ [.change change refusal]⟩

/-- Opens a namespace, whose name must not be blank. -/
def addSpace (name : String) : Action (Collector C) Unit :=
  if Text.isBlankText name then .fail (.compile .blankNamespace) else submit T fs (.space name)

/-- Adds the rules of a file. -/
def addFile (path : String) : Action (Collector C) Unit := do
  let source ← .ofExcept ((fs.read path).mapError fun e => .compile (.unreadable path e))
  submit T fs (.source source (some path))

/-- Adds the rules of some files, each in a namespace of its own if that is wanted. -/
def addFiles (spacePerFile : Bool) : List String → Action (Collector C) Unit
  | [] => .pure ()
  | path :: rest => do
    if spacePerFile then addSpace T fs path
    addFile T fs path
    addFiles spacePerFile rest

/-- Adds the files that some paths stand for, path by path; answers their number. -/
def addEach (spacePerFile : Bool) : List String → Action (Collector C) Nat
  | [] => .pure 0
  | path :: rest => do
    let files ← .ofExcept ((T.ruleFiles fs path).mapError .compile)
    addFiles T fs spacePerFile files
    let added ← addEach spacePerFile rest
    return files.length + added

/-- Adds files and directories; answers the number of files. -/
def addPaths (paths : List String) (spacePerFile : Bool) : Action (Collector C) Nat := do
  let added ← addEach T fs spacePerFile paths
  .log .debug ("Rule paths added | Paths: " ++ decimal paths.length ++ " | Files: "
    ++ decimal added ++ " | Path as namespace: " ++ boolText spacePerFile)
  return added

/-- Takes a request. -/
def ingest : Request → Action (Collector C) Nat
  | .space name => do addSpace T fs name; return 0
  | .source text => do submit T fs (.source text.toUTF8 none); return 0
  | .file path => do addFile T fs path; return 0
  | .paths paths spacePerFile => addPaths T fs paths spacePerFile
  | .ignoreModule module => do submit T fs (.ignoreModule module); return 0
  | .define name value => do submit T fs (.define name value); return 0

/-- The rules of all accepted requests. The compiler stops working. -/
def build : Action (Collector C) (Ready R) := fun c =>
  ⟨.ok { rules := T.build (c.compiler.getD (T.start c.options)), timeout := c.timeout },
    { c with compiler := none }, []⟩

/-- What giving up a collector does. -/
def release (c : Collector C) : List Event :=
  if c.compiler.isSome then [.log .debug "Compiler worker released without build"] else []

theorem submit_silent (change : Change) : (submit T fs change).Silent := fun c => by
  cases h : c.compiler <;> simp [submit, h, startLog]

theorem addSpace_silent (name : String) : (addSpace T fs name).Silent := by
  unfold addSpace
  split
  · exact .fail _
  · exact submit_silent T fs _

theorem addFile_silent (path : String) : (addFile T fs path).Silent :=
  (Action.Silent.ofExcept _).bind fun _ => submit_silent T fs _

theorem addFiles_silent (spacePerFile : Bool) (files : List String) :
    (addFiles T fs spacePerFile files).Silent := by
  induction files with
  | nil => exact .pure ()
  | cons path rest ih =>
    have hrest := (addFile_silent T fs path).bind fun _ => ih
    cases spacePerFile with
    | false => exact hrest
    | true => exact (addSpace_silent T fs path).bind fun _ => hrest

theorem addEach_silent (spacePerFile : Bool) (paths : List String) :
    (addEach T fs spacePerFile paths).Silent := by
  induction paths with
  | nil => exact .pure 0
  | cons path rest ih =>
    exact (Action.Silent.ofExcept _).bind fun files =>
      (addFiles_silent T fs spacePerFile files).bind fun _ => ih.bind fun _ => .pure _

theorem ingest_silent (r : Request) : (ingest T fs r).Silent := by
  cases r with
  | space name => exact (addSpace_silent T fs name).bind fun _ => .pure 0
  | source text => exact (submit_silent T fs _).bind fun _ => .pure 0
  | file path => exact (addFile_silent T fs path).bind fun _ => .pure 0
  | paths paths spacePerFile =>
    exact (addEach_silent T fs spacePerFile paths).bind fun _ =>
      (Action.Silent.log _ _).bind fun _ => .pure _
  | ignoreModule module => exact (submit_silent T fs _).bind fun _ => .pure 0
  | define name value => exact (submit_silent T fs _).bind fun _ => .pure 0

end Collector

/-- The engine of a toolchain over a tree of files. -/
def Toolchain.engine {C R : Type} (T : Toolchain C R) (fs : Files) :
    Engine (Collector C) (Ready R) where
  ingest := Collector.ingest T fs
  build := Collector.build T
  releaseCompiler := Collector.release
  scan data := do
    let b ← .get
    let found ← .ofExcept ((T.scan b.timeout data b.rules).mapError .scan)
    return found.nonEmpty?
  ruleCount := do return T.size (← .get).rules
  serialize := do
    let b ← .get
    .ofExcept ((T.toBytes b.rules).mapError fun words => .cache (.notStored words))
  releaseBackend _ := []
  ingest_silent := Collector.ingest_silent T fs
  build_silent _ := rfl
  releaseCompiler_silent c := by unfold Collector.release; split <;> rfl
  scan_silent _ := .bind .get fun _ => .bind (.ofExcept _) fun _ => .pure _
  ruleCount_silent := .bind .get fun _ => .pure _
  serialize_silent := .bind .get fun _ => .ofExcept _
  releaseBackend_silent _ := rfl

/-- The rules in some bytes. -/
def Toolchain.restore {C R : Type} (T : Toolchain C R) (timeout : Option Duration)
    (bytes : ByteArray) : Except Failure (Ready R) :=
  match T.ofBytes bytes with
  | .ok rules => .ok { rules, timeout }
  | .error words => .error (.cache (.noRules words))

/-- The rules in a cache file. -/
def Toolchain.restoreFrom {C R : Type} (T : Toolchain C R) (K : Cache.Codec)
    (timeout : Option Duration) (path : String) : Action Files (Ready R) := do
  let ready ← .ofExcept (T.restore timeout (← K.load path))
  .log .info ("Compiler session restored from cache | Path: " ++ path ++ " | Rules: "
    ++ decimal (T.size ready.rules))
  return ready

/-- The engine of this library's toolchain over a tree of files. -/
def engine (fs : Files) : Engine (Collector Compiler) (Ready RuleSet) := toolchain.engine fs

/-- The rules of this library's toolchain in some bytes. -/
def restore : Option Duration → ByteArray → Except Failure (Ready RuleSet) := toolchain.restore

/-- The rules of this library's toolchain in a cache file. -/
def restoreFrom : Option Duration → String → Action Files (Ready RuleSet) :=
  toolchain.restoreFrom Cache.blocks

end RuleScan.Rules
