import RuleScan.CachedScanner
import RuleScan.CommandLine.Arguments
import RuleScan.ConfigFile
import RuleScan.Plugin.Patterns

/-!
# Running a command line

A run loads the configuration, gets the rules from sources or from a cache, loads the plugins, scans
the buffers named on the command line, and prints the outcome as a document. The first fault ends
it; it is reported with what lies behind it. The rules may be those of any toolchain, any codec may
compress the caches, and any searcher may look for the patterns of plugins; a run of the program
(`run`) takes those of this library.
-/

namespace RuleScan.CommandLine

/-! ## Faults -/

/-- Why a run fails. -/
inductive RunFault
  | noRules
  | badDefinition (given : String)
  | unreadable (path : String) (fault : FileFault)
  | noCache (path : String) (failure : Failure)
  /-- The document of the plugins cannot be read. -/
  | badPlugins (fault : Json.Fault)
  | failed (failure : Failure)
  | crashed (words : String)

/-- What is said first about a fault. -/
def RunFault.headline : RunFault → String
  | noRules => "no rules given: use --rules or --load-cache"
  | badDefinition given => "invalid --define " ++ Text.quoted given ++ ": expected NAME=VALUE"
  | unreadable path _ => "failed to read " ++ path
  | noCache path _ => "failed to restore rules from " ++ path
  | badPlugins fault => fault.message
  | failed failure => failure.message
  | crashed words => words

/-- What lies behind a fault, step by step. -/
def RunFault.causes : RunFault → List String
  | unreadable _ fault => [fault.message]
  | noCache _ failure => failure.message :: failure.cause?.toList
  | failed failure => failure.cause?.toList
  | _ => []

/-- The lines that list causes, numbered if there are several. -/
def causeLines : List String → String
  | [] => ""
  | [cause] => "\n\nCaused by:\n    " ++ cause
  | causes =>
    "\n\nCaused by:" ++ String.join (causes.mapIdx fun i c => "\n    " ++ decimal i ++ ": " ++ c)

/-- The report of a fault. -/
def RunFault.report (f : RunFault) : String :=
  "Error: " ++ f.headline ++ causeLines f.causes ++ "\n"

/-! ## Runs -/

/-- What a run works with: the files, and what was logged so far. -/
structure Desk where
  files : Files
  trace : List Event := []

/-- A part of a run. -/
abbrev Job := ExceptT RunFault (StateM Desk)

/-- The engine of a run. -/
abbrev RunEngine (C R : Type) := Engine (Rules.Collector C) (Rules.Ready R)

/-- The session of a run. -/
abbrev RunSession (C R : Type) := Session (Rules.Collector C) (Rules.Ready R)

/-- The scanner of a run. -/
abbrev RunScanner (C R : Type) := Scanner (Rules.Collector C) (Rules.Ready R) Pacer

variable {C R M α : Type}

/-- Notes what happened. -/
def note (trace : List Event) : Job Unit := modify fun d => { d with trace := d.trace ++ trace }

/-- The answer of an action, a failure being reported as `wrap` says. -/
def answer (wrap : Failure → RunFault) : Reply α → Job α
  | .ok a => pure a
  | .error e => throw (wrap e)
  | .crash w => throw (.crashed w)

/-- Does something with the files. -/
def onFiles (wrap : Failure → RunFault) (x : Action Files α) : Job α := do
  let r := x (← get).files
  modify fun d => { d with files := r.state }
  note r.trace
  answer wrap r.reply

/-- Does something with the scanner. -/
def onScanner (x : Action (RunScanner C R) α) (s : RunScanner C R) : Job (α × RunScanner C R) := do
  let r := x s
  note r.trace
  return (← answer .failed r.reply, r.state)

/-- Does something with the scanner and keeps the scanner alone. -/
def change (x : Action (RunScanner C R) α) (s : RunScanner C R) : Job (RunScanner C R) := do
  return (← onScanner x s).2

/-- Does something with the files and the scanner, and keeps the scanner alone. -/
def changeBoth (x : Action (Files × RunScanner C R) α) (s : RunScanner C R) :
    Job (RunScanner C R) := do
  let r := x ((← get).files, s)
  modify fun d => { d with files := r.state.1 }
  note r.trace
  let _ ← answer .failed r.reply
  return r.state.2

/-! ## The parts of a run -/

/-- The configuration in a file, if one is named. -/
def readConfig : Option String → Job Config
  | none => pure {}
  | some path => onFiles .failed (Config.load path)

/-- A configuration with the delay asked for. -/
def delayed (ms : Option UInt64) (config : Config) : Config :=
  match ms with
  | some ms => { config with pace := .fixedDelay ms }
  | none => config

/-- The configuration of a run. -/
def loadConfig (a : Arguments) : Job Config := do
  return delayed a.delayMillis (← readConfig a.config)

/-- A definition cut at its first equals sign. -/
def splitDefinition? (given : String) : Option (String × String) :=
  let cs := given.toList
  match cs.dropWhile (· != '=') with
  | [] => none
  | _ :: value => some (String.ofList (cs.takeWhile (· != '=')), String.ofList value)

/-- Defines the external variables. -/
def defineAll (E : RunEngine C R) : List String → RunScanner C R → Job (RunScanner C R)
  | [], s => pure s
  | given :: rest, s =>
    match splitDefinition? given with
    | none => throw (.badDefinition given)
    | some (name, value) => do
      let define := Session.defineVariable E name (.parse value)
      let s ← change (Scanner.onSession define) s
      defineAll E rest s

/-- Opens a namespace, if one is named. -/
def openSpace (E : RunEngine C R) : Option String → RunScanner C R → Job (RunScanner C R)
  | none, s => pure s
  | some name, s => change (Scanner.onSession (Session.addNamespace E name)) s

/-- Collects and builds the rules. -/
def buildRules (E : RunEngine C R) (a : Arguments) (s : RunScanner C R) :
    Job (RunScanner C R) := do
  let s ← change
    (Action.forEach (fun m => Scanner.onSession (Session.ignoreModule E m)) a.ignored) s
  let s ← defineAll E a.definitions s
  let s ← openSpace E a.space s
  let (count, s) ← onScanner (Scanner.onSession (Session.addPaths E a.rules a.spacePerFile)) s
  let s ← change (Scanner.onSession (Session.build E true)) s
  note [.log .info ("Rules compiled | Files: " ++ decimal count ++ " | Path as namespace: "
    ++ Rules.boolText a.spacePerFile)]
  return s

/-- Saves the rules of a scanner in a cache file, if one is named. -/
def saveRules (E : RunEngine C R) (K : Cache.Codec) :
    Option String → RunScanner C R → Job (RunScanner C R)
  | none, s => pure s
  | some path, s => do
    let s ← changeBoth (Scanner.saveCache E K path) s
    note [.log .info ("Rule cache saved | Path: " ++ path)]
    return s

/-- The scanner with rules from sources. -/
def freshScanner (E : RunEngine C R) (K : Cache.Codec) (a : Arguments) (config : Config) :
    Job (RunScanner C R) := do
  let session : RunSession C R := .ofCompiler (.ofConfig config)
  let s ← buildRules E a (.ofSession config (.ofPace config.pace) session)
  saveRules E K a.saveCache s

/-- The scanner with its rules, from a cache or from sources. -/
def prepareScanner (T : Rules.Toolchain C R) (K : Cache.Codec) (a : Arguments) (config : Config) :
    Job (RunScanner C R) :=
  match a.loadCache with
  | some path => onFiles (.noCache path) (Scanner.ofCache T K config path)
  | none =>
    if a.rules.isEmpty then throw .noRules
    else do freshScanner (T.engine (← get).files) K a config

/-- The plugins of some definitions. -/
def pluginsOf (S : Searcher M) : List Definition → Except Failure (List Plugin)
  | [] => .ok []
  | d :: rest => do
    let p ← PatternPlugin.ofDefinition S d
    .ok (p.toPlugin S :: (← pluginsOf S rest))

/-- The plugins defined in a document. -/
def loadPlugins (S : Searcher M) (path : String) : Job (List Plugin) := do
  match (← get).files.readText path with
  | .error e => throw (.unreadable path e)
  | .ok text =>
    match Json.decodeText (Json.list Definition.schema.decoder) text with
    | .error e => throw (.badPlugins e)
    | .ok definitions => answer .failed (.ofExcept (pluginsOf S definitions))

/-- A buffer from a file, if one is named. -/
def readBuffer : Option String → Job (Option ByteArray)
  | none => pure none
  | some path => do
    match (← get).files.read path with
    | .ok data => return some data
    | .error e => throw (.unreadable path e)

/-- The scanner with the plugins that are defined for it. -/
def addPlugins (S : Searcher M) (a : Arguments) (s : RunScanner C R) : Job (RunScanner C R) :=
  match a.plugins with
  | none => pure s
  | some path => do
    let plugins ← loadPlugins S path
    change (Scanner.onRegistry (Registry.registerAll plugins)) s

/-- The buffers of the sample. -/
def readSample (a : Arguments) : Job Sample := do
  let content ← readBuffer a.content
  let comment ← readBuffer a.comments
  let metadata ← readBuffer a.metadata
  return { content, comment, metadata }

/-- The text of an outcome. -/
def outcomeText (pretty : Bool) (o : Outcome) : String :=
  (if pretty then o.toJson.pretty else o.toJson.compact) ++ "\n"

/-- The rest of a run, once the rules are ready: its answer is the text that it prints. -/
def scanAndPrint (T : Rules.Toolchain C R) (S : Searcher M) (a : Arguments) (s : RunScanner C R) :
    Job String := do
  let s ← addPlugins S a s
  let sample ← readSample a
  let E := T.engine (← get).files
  let (outcome, s) ← onScanner (Scanner.scanDetailed E Pacer.strategy sample) s
  note [.log .info ("Scan finished | Results: " ++ decimal outcome.results.length
    ++ " | Plugin failures: " ++ decimal outcome.failures.length)]
  note (s.session.drop E)
  return outcomeText a.pretty outcome

/-- All of a run. -/
def job (T : Rules.Toolchain C R) (K : Cache.Codec) (S : Searcher M) (a : Arguments) :
    Job String := do
  let config ← loadConfig a
  let s ← prepareScanner T K a config
  scanAndPrint T S a s

/-! ## The end of a run -/

/-- What a run leaves: its exit code, what it prints, and the files. -/
structure Exit where
  code : Nat
  output : String := ""
  errors : String := ""
  files : Files
  trace : List Event := []

/-- What is printed when the version is asked for. -/
def versionText : String := "rsyara 0.1.0\n"

/-- What is printed when help is asked for: the options one by one, without what each is for. The
wording and the layout are those of this library; what an argument parser prints is longer. -/
def helpText : String :=
  "Weighted multi-channel rule scanner\n\nUsage: rsyara [OPTIONS]\n\nOptions:\n"
    ++ String.join (options.map fun o =>
      "      --" ++ o.long ++ (match o.arity with
        | .none => ""
        | .one => " <VALUE>"
        | .many => " <VALUE>...") ++ "\n")

/-- What is printed when the words are not understood. It is one text for everything that can be
wrong with them, in the wording of this library: the word at fault and the option that it stands
behind are not told. -/
def usageText : String := "error: unexpected argument or value\n\nUsage: rsyara [OPTIONS]\n"

/-- Runs a command line with the rules of a toolchain, the caches of a codec and the patterns of a
searcher. -/
def runWith (T : Rules.Toolchain C R) (K : Cache.Codec) (S : Searcher M) (words : List String)
    (files : Files) : Exit :=
  match Arguments.read words with
  | .error .misunderstood => { code := 2, errors := usageText, files }
  | .error .versionAsked => { code := 0, output := versionText, files }
  | .error .helpAsked => { code := 0, output := helpText, files }
  | .ok a =>
    match (job T K S a).run { files } with
    | (.ok output, desk) => { code := 0, output, files := desk.files, trace := desk.trace }
    | (.error e, desk) =>
      { code := 1, errors := e.report, files := desk.files, trace := desk.trace }

/-- Runs a command line. -/
def run : List String → Files → Exit := runWith Rules.toolchain Cache.blocks searcher

end RuleScan.CommandLine
