import RuleScan.Engine
import RuleScan.Text.Blank

/-!
# Sessions

A session collects rules, builds them once, scans with what was built, and is closed. Its phase
holds the one part that it owns at that time: a compiler while rules are collected, a backend once
they are built. Every operation first looks at the phase; one that does not fit it is a misuse,
which is logged and changes nothing.
-/

namespace RuleScan

/-- What a session is in the middle of. -/
inductive Phase (κ β : Type)
  | ingesting (compiler : κ)
  | built (backend : β)
  | buildFailed
  | closed

/-- A phase without what it holds. -/
inductive Status
  | ingesting
  | built
  | buildFailed
  | closed
  deriving DecidableEq, Repr

/-- The name of a status. -/
def Status.name : Status → String
  | ingesting => "Ingesting"
  | built => "Built"
  | buildFailed => "BuildFailed"
  | closed => "Closed"

/-- The misuse that an unfitting operation is in each status. -/
def Status.misuse : Status → Misuse
  | ingesting => .notBuilt
  | built => .alreadyBuilt
  | buildFailed => .buildFailed
  | closed => .closed

/-- The status of a phase. -/
def Phase.status : Phase κ β → Status
  | ingesting _ => .ingesting
  | built _ => .built
  | buildFailed => .buildFailed
  | closed => .closed

/-- A session. -/
structure Session (κ β : Type) where
  phase : Phase κ β
  /-- The namespace last set, if any. -/
  space : Option String := none
  /-- How many sources and files were accepted. -/
  sources : Nat := 0

namespace Session

variable {κ β : Type}

/-- A session that starts with a compiler. -/
def ofCompiler (c : κ) : Session κ β := { phase := .ingesting c }

/-- A session that starts with a backend already built. -/
def ofBackend (b : β) : Session κ β := { phase := .built b }

/-- The status of a session. -/
def status (s : Session κ β) : Status := s.phase.status

/-- Whether a session was closed. -/
def isClosed (s : Session κ β) : Bool := s.status = .closed

/-- A text that may be missing, quoted. -/
def optionalText : Option String → String
  | none => "None"
  | some s => "Some(" ++ Text.quoted s ++ ")"

/-- How a session is shown. -/
def display (s : Session κ β) : String :=
  "CompilerSession \x7b status: " ++ s.status.name
    ++ ", current_namespace: " ++ optionalText s.space
    ++ ", source_count: " ++ decimal s.sources ++ " \x7d"

variable (E : Engine κ β)

/-- Refuses an operation that does not fit the phase. -/
def misuse {α : Type} : Action (Session κ β) α := fun s =>
  let m := s.status.misuse
  (Action.log .error
      ("Compiler session misuse | Status: " ++ s.status.name ++ " | Error: " ++ m.message)
    |>.bind fun _ => .fail (.misuse m)) s

/-! ## Collecting rules -/

/-- Hands a request to the compiler. -/
def request (r : Request) : Action (Session κ β) Nat := fun s =>
  match s.phase with
  | .ingesting c =>
    let t := E.ingest r c
    ⟨t.reply, { s with phase := .ingesting t.state }, .call (.ingest r) :: t.trace⟩
  | _ => misuse s

/-- Counts accepted sources. -/
def count (n : Nat) : Action (Session κ β) Unit :=
  .modify fun s => { s with sources := s.sources + n }

/-- Sets the namespace of the rules that follow. -/
def addNamespace (name : String) : Action (Session κ β) Unit := do
  let _ ← request E (.space name)
  .modify fun s => { s with space := some name }

/-- Adds the text of rules. -/
def addSource (text : String) : Action (Session κ β) Unit := do
  let _ ← request E (.source text)
  count 1

/-- Adds files and directories; answers the number of files. -/
def addPaths (paths : List String) (spacePerFile : Bool) : Action (Session κ β) Nat := do
  let n ← request E (.paths paths spacePerFile)
  count n
  return n

/-- The parts of a text between semicolons. -/
def segments (s : String) : List String := s.splitOn ";"

/-- The paths in a list between semicolons: blanks around them do not count, and there must be one
that is not blank. -/
def splitPaths (s : String) : Except InputFault (List String) :=
  match ((segments s).map Text.trim).filter (· ≠ "") with
  | [] => .error (.noPaths s)
  | paths => .ok paths

/-- Adds one file. -/
def addOneFile (path : String) : Action (Session κ β) Unit := do
  let _ ← request E (.file path)
  count 1

/-- Adds the files in a list between semicolons, up to the first one that is refused. -/
def addFile (list : String) : Action (Session κ β) Unit := do
  let paths ← .ofExcept ((splitPaths list).mapError .input)
  let _ ← Action.forEach (addOneFile E) paths

/-- Adds the files in a list between semicolons, each in a namespace of its own. -/
def addFileWithNamespace (list : String) : Action (Session κ β) Unit := do
  let paths ← .ofExcept ((splitPaths list).mapError .input)
  let _ ← addPaths E paths true

/-- Leaves out a module that rules import. -/
def ignoreModule (module : String) : Action (Session κ β) Unit := do
  let _ ← request E (.ignoreModule module)

/-- Defines an external variable. -/
def defineVariable (name : String) (value : ExternalValue) : Action (Session κ β) Unit := do
  let _ ← request E (.define name value)

/-! ## Building -/

/-- Keeps a new backend. Where that is announced the rules are counted first, and the backend is
only kept if that succeeds. -/
def install (announce : Bool) (b : β) : Action (Session κ β) Unit := fun s =>
  if announce then
    let n := E.ruleCount b
    let trace := .call .ruleCount :: n.trace
    match n.reply with
    | .ok rules =>
      ⟨.ok (), { s with phase := .built n.state },
        trace ++ [.log .info ("Compiler session built | Sources: " ++ decimal s.sources
          ++ " | Rules: " ++ decimal rules)]⟩
    | .error e => ⟨.error e, s, trace ++ .call .releaseBackend :: E.releaseBackend n.state⟩
    | .crash w => ⟨.crash w, s, trace ++ .call .releaseBackend :: E.releaseBackend n.state⟩
  else ⟨.ok (), { s with phase := .built b }, []⟩

/-- Builds the rules collected so far, which is possible once. The compiler is given up; if the
build does not succeed the session has nothing left to work with. The line about a new backend is
only made, and its rules are only counted for it, where log lines of that level are kept. -/
def build (announce : Bool) : Action (Session κ β) Unit := fun s =>
  match s.phase with
  | .ingesting c =>
    let t := E.build c
    let s := { s with phase := .buildFailed }
    let trace := .call .build :: t.trace ++ .call .releaseCompiler :: E.releaseCompiler t.state
    match t.reply with
    | .ok b =>
      let r := install E announce b s
      ⟨r.reply, r.state, trace ++ r.trace⟩
    | .error e =>
      ⟨.error e, s, trace ++ [.log .warn ("Compiler session build failed | Sources: "
        ++ decimal s.sources ++ " | Error: " ++ e.message)]⟩
    | .crash w => ⟨.crash w, s, trace⟩
  | _ => misuse s

/-! ## Scanning -/

/-- Does something with the backend. -/
def withBackend {α : Type} (c : Call) (x : Action β α) : Action (Session κ β) α := fun s =>
  match s.phase with
  | .built b =>
    let t := x b
    ⟨t.reply, { s with phase := .built t.state }, .call c :: t.trace⟩
  | _ => misuse s

/-- Scans a buffer. -/
def scan (data : ByteArray) : Action (Session κ β) (Option Findings) :=
  withBackend (.scan data) (E.scan data)

/-- Scans a buffer; while rules are still collected nothing is found. -/
def scanIfBuilt (data : ByteArray) : Action (Session κ β) (Option Findings) := fun s =>
  match s.phase with
  | .ingesting _ =>
    ⟨.ok none, s, [.log .trace ("Native scan skipped, session not built | Bytes: "
      ++ decimal data.size)]⟩
  | _ => scan E data s

/-- The number of rules. -/
def ruleCount : Action (Session κ β) Nat := withBackend .ruleCount E.ruleCount

/-- The rules as bytes. -/
def exportRules : Action (Session κ β) ByteArray := withBackend .serialize E.serialize

/-! ## Closing -/

/-- What giving up the part that a phase holds does. -/
def releaseTrace : Phase κ β → List Event
  | .ingesting c => .call .releaseCompiler :: E.releaseCompiler c
  | .built b => .call .releaseBackend :: E.releaseBackend b
  | .buildFailed => []
  | .closed => []

/-- Gives up what the session holds; answers whether it was still open. -/
def close : Action (Session κ β) Bool := fun s =>
  match s.phase with
  | .closed => ⟨.ok false, s, []⟩
  | phase =>
    ⟨.ok true, { s with phase := .closed },
      .log .debug ("Compiler session closed | Previous status: " ++ s.status.name)
        :: releaseTrace E phase⟩

/-- The trace of a session that is no longer used. -/
def drop (s : Session κ β) : List Event := (close E s).trace

end Session

end RuleScan
