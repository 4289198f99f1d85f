import RuleScan.Channel
import RuleScan.Duration
import RuleScan.Files.Basic

/-!
# Configuration

The settings of a scan: the weights of the channels, how rules are compiled, how scans are paced,
what a failing plugin means, how long a scan may take, and where the rule cache lives. Every setting
has a default; a document gives those that differ.
-/

namespace RuleScan

open Json

/-! ## How rules are compiled -/

/-- How strictly rules are read. -/
structure CompileOptions where
  /-- Whether unknown escapes in regular expressions stand for themselves. -/
  relaxedRegex : Bool := true
  /-- Whether a pattern that would be slow to look for is an error. -/
  slowIsError : Bool := true
  deriving DecidableEq, Repr

namespace CompileOptions

/-- The options as a document. -/
def toJson (o : CompileOptions) : Value :=
  .record [("relaxed_re_syntax", .bool o.relaxedRegex),
    ("error_on_slow_pattern", .bool o.slowIsError)]

/-- The fields of a document of options, as far as they were given. -/
structure Given where
  relaxedRegex : Option Bool := none
  slowIsError : Option Bool := none

/-- Options in a document; one that is not given is on. -/
def schema : Schema Given CompileOptions where
  expected := "struct CompilerOptions"
  expectedList := "struct CompilerOptions with 2 elements"
  fields :=
    [.of "relaxed_re_syntax" false (·.relaxedRegex) (fun s a => { s with relaxedRegex := some a })
       bool,
     .of "error_on_slow_pattern" false (·.slowIsError)
       (fun s a => { s with slowIsError := some a }) bool]
  start := {}
  build := fun s => some
    { relaxedRegex := s.relaxedRegex.getD ({} : CompileOptions).relaxedRegex
      slowIsError := s.slowIsError.getD ({} : CompileOptions).slowIsError }

end CompileOptions

/-! ## How scans are paced -/

/-- How fast a scan goes through its buffers. -/
inductive Pace
  | unthrottled
  /-- A pause before each buffer. -/
  | fixedDelay (ms : UInt64)
  deriving DecidableEq, Repr

namespace Pace

/-- A pace as a document: the name of its kind beside what it holds. -/
def toJson : Pace → Value
  | unthrottled => .record [("kind", .text "unthrottled")]
  | fixedDelay ms => .record [("kind", .text "fixed_delay"), ("delay_ms", .ofNat ms.toNat)]

/-- How a pace is shown in logs. -/
def display : Pace → String
  | unthrottled => "Unthrottled"
  | fixedDelay ms => "FixedDelay \x7b delay_ms: " ++ decimal ms.toNat ++ " \x7d"

/-- The kinds of paces; true for the one with a delay. -/
def kinds : List (String × Bool) := [("unthrottled", false), ("fixed_delay", true)]

/-- A document of a pace while it is read: its kind, and its other fields, last first. -/
structure Given where
  delayed : Option Bool := none
  others : List (String × Value) := []

/-- Reads a field of the document of a pace. -/
def readField (depth : Nat) (name : String) (s : Given) (tokens : List Token) :
    Except Fault (Given × List Token) :=
  if name = "kind" then
    if s.delayed.isSome then .error (.duplicateField "kind")
    else do
      let (delayed, rest) ← named kinds depth (← colon tokens)
      .ok ({ s with delayed := some delayed }, rest)
  else do
    let (v, rest) ← value depth (← colon tokens)
    .ok ({ s with others := (name, v) :: s.others }, rest)

/-- The delay among the fields of a document. -/
def delayOf (others : List (String × Value)) : Except Fault Pace :=
  let rec go (seen : Option Nat) : List (String × Value) → Except Fault Pace
    | [] => match seen with
      | some ms => .ok (.fixedDelay ms.toUInt64)
      | none => .error (.missingField "delay_ms")
    | (name, v) :: rest =>
      if name = "delay_ms" then
        if seen.isSome then .error (.duplicateField "delay_ms")
        else do go (some (← v.natural 64 "u64")) rest
      else go seen rest
  go none others

/-- The pace of a kind whose other fields come in a list. -/
def ofItems (delayed : Bool) (items : List Value) : Except Fault Pace :=
  if delayed then
    match items with
    | [] => .error (.wrongLength 0 "struct variant PacingConfig::FixedDelay with 1 element")
    | v :: more => do
      let ms ← v.natural 64 "u64"
      if more.isEmpty then .ok (.fixedDelay ms.toUInt64)
      else .error (.wrongLength items.length "1 element in sequence")
  else if items.isEmpty then .ok .unthrottled
  else .error (.wrongLength items.length "0 elements in sequence")

/-- Reads a pace: its kind and, for a delay, its length. -/
def decoder : Decoder Pace
  | depth, .recordStart :: rest => do
    let depth ← deeper depth
    let (s, rest) ← fields (readField depth) (rest.length + 1) true ({} : Given) rest
    match s.delayed with
    | none => .error (.missingField "kind")
    | some false => .ok (.unthrottled, rest)
    | some true => .ok (← delayOf s.others.reverse, rest)
  | depth, .listStart :: rest => do
    let depth ← deeper depth
    match ← nextItem true rest with
    | (false, _) => .error (.missingField "kind")
    | (true, rest) =>
      let (delayed, rest) ← named kinds depth rest
      let (vs, rest) ← items value depth (rest.length + 1) false [] rest
      .ok (← ofItems delayed vs, rest)
  | _, tokens => .error (unexpected "internally tagged enum PacingConfig" tokens)

end Pace

/-! ## What a failing plugin means -/

/-- What happens to a scan in which a plugin fails. -/
inductive FailurePolicy
  /-- The failure is noted and the scan goes on. -/
  | skip
  /-- The scan fails. -/
  | abort
  deriving DecidableEq, Repr

namespace FailurePolicy

/-- The name of a policy in documents. -/
def name : FailurePolicy → String
  | skip => "skip"
  | abort => "abort"

/-- How a policy is shown in logs. -/
def display : FailurePolicy → String
  | skip => "Skip"
  | abort => "Abort"

/-- A policy as a document. -/
def toJson (p : FailurePolicy) : Value := .text p.name

/-- Reads a policy by its name. -/
def decoder : Decoder FailurePolicy := variant [("skip", skip), ("abort", abort)]

end FailurePolicy

/-! ## The whole configuration -/

/-- The settings of a scan. -/
structure Config where
  weights : Weights := {}
  compile : CompileOptions := {}
  pace : Pace := .unthrottled
  onPluginFailure : FailurePolicy := .skip
  /-- How many milliseconds the scan of one buffer may take. -/
  timeoutMillis : Option UInt64 := none
  cacheDir : String := ".cache/rsyara"
  deriving DecidableEq, Repr

namespace Config

/-- A configuration as a document that says all of it. -/
def toJson (c : Config) : Value :=
  .record [("weights", c.weights.toJson), ("compiler", c.compile.toJson), ("pacing", c.pace.toJson),
    ("plugin_failure", c.onPluginFailure.toJson),
    ("scan_timeout_ms", .ofOption (fun (ms : UInt64) => .ofNat ms.toNat) c.timeoutMillis),
    ("cache_dir", .text c.cacheDir)]

/-- The fields of a document of settings, as far as they were given. -/
structure Given where
  weights : Option Weights := none
  compile : Option CompileOptions := none
  pace : Option Pace := none
  onPluginFailure : Option FailurePolicy := none
  timeoutMillis : Option (Option UInt64) := none
  cacheDir : Option String := none

/-- Settings in a document; one that is not given has its default. -/
def schema : Schema Given Config where
  expected := "struct ScanConfig"
  expectedList := "struct ScanConfig with 6 elements"
  fields :=
    [.of "weights" false (·.weights) (fun s a => { s with weights := some a })
       Weights.schema.decoder,
     .of "compiler" false (·.compile) (fun s a => { s with compile := some a })
       CompileOptions.schema.decoder,
     .of "pacing" false (·.pace) (fun s a => { s with pace := some a }) Pace.decoder,
     .of "plugin_failure" false (·.onPluginFailure)
       (fun s a => { s with onPluginFailure := some a }) FailurePolicy.decoder,
     .of "scan_timeout_ms" false (·.timeoutMillis) (fun s a => { s with timeoutMillis := some a })
       (optional word64),
     .of "cache_dir" false (·.cacheDir) (fun s a => { s with cacheDir := some a })
       (textAs "path string")]
  start := {}
  build := fun s =>
    let default : Config := {}
    some
      { weights := s.weights.getD default.weights
        compile := s.compile.getD default.compile
        pace := s.pace.getD default.pace
        onPluginFailure := s.onPluginFailure.getD default.onPluginFailure
        timeoutMillis := s.timeoutMillis.getD default.timeoutMillis
        cacheDir := s.cacheDir.getD default.cacheDir }

/-- The time that the scan of one buffer may take. -/
def timeout (c : Config) : Option Duration := c.timeoutMillis.map Duration.ofMillis

/-- The file of the rule cache. -/
def cacheFile (c : Config) : String := Files.join c.cacheDir "rsyara_rules.bin"

/-! ## Changing settings one by one -/

/-- A pause before each buffer; none when the pause is empty. Of longer pauses the milliseconds are
kept modulo `2 ^ 64`. -/
def withFixedDelay (c : Config) (d : Duration) : Config :=
  { c with pace := if d.isZero then .unthrottled else .fixedDelay d.toMillis }

/-- A bound on the time of the scan of one buffer, in milliseconds modulo `2 ^ 64`. -/
def withTimeout (c : Config) (d : Duration) : Config := { c with timeoutMillis := some d.toMillis }

end Config

end RuleScan
