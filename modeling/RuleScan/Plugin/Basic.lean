import RuleScan.Findings.Document
import RuleScan.Trace

/-!
# Plugins

A plugin looks at a buffer by itself and answers at most one rule, under a name of its own. It may
fail or crash; `Plugin.contribution` is what it adds to the answer of all plugins together.
-/

namespace RuleScan

/-! ## Definitions -/

/-- The name, the metadata and the patterns of a plugin. -/
structure Definition where
  identifier : String
  space : String
  metadata : List MetaEntry := []
  /-- Regular expressions over bytes. -/
  patterns : List String := []
  /-- Whether all patterns must be found, and not just one. -/
  matchAll : Bool := false
  deriving DecidableEq, Repr

namespace Definition

/-- The definition with one more metadata entry. -/
def withMeta (d : Definition) (key value : String) : Definition :=
  { d with metadata := d.metadata ++ [⟨key, value⟩] }

/-- The definition with one more pattern. -/
def withPattern (d : Definition) (pattern : String) : Definition :=
  { d with patterns := d.patterns ++ [pattern] }

/-- The rule that a plugin answers, with the hits of its patterns. -/
def rule (d : Definition) (patterns : List PatternHits) : RuleMatch :=
  { identifier := d.identifier, space := d.space, metadata := d.metadata, patterns }

open Json

/-- A definition as a document. -/
def toJson (d : Definition) : Value :=
  .record [("identifier", .text d.identifier), ("namespace", .text d.space),
    ("metadata", .ofList MetaEntry.toJson d.metadata), ("patterns", .ofList .text d.patterns),
    ("match_all", .bool d.matchAll)]

/-- The fields of a definition, as far as they were given. -/
structure Given where
  identifier : Option String := none
  space : Option String := none
  metadata : Option (List MetaEntry) := none
  patterns : Option (List String) := none
  matchAll : Option Bool := none

/-- A definition in a document. -/
def schema : Schema Given Definition where
  expected := "struct RuleDefinition"
  expectedList := "struct RuleDefinition with 5 elements"
  fields :=
    [.of "identifier" true (·.identifier) (fun s a => { s with identifier := some a }) text,
     .of "namespace" true (·.space) (fun s a => { s with space := some a }) text,
     .of "metadata" false (·.metadata) (fun s a => { s with metadata := some a })
       (list MetaEntry.schema.decoder),
     .of "patterns" false (·.patterns) (fun s a => { s with patterns := some a }) (list text),
     .of "match_all" false (·.matchAll) (fun s a => { s with matchAll := some a }) bool]
  start := {}
  build := fun s => do
    pure
      { identifier := ← s.identifier, space := ← s.space, metadata := s.metadata.getD []
        patterns := s.patterns.getD [], matchAll := s.matchAll.getD false }

end Definition

/-! ## Plugins -/

/-- What a plugin answers about a buffer. -/
inductive Verdict
  | found (r : RuleMatch)
  | nothing
  | failed (words : String)
  /-- The plugin crashed, with words or without. -/
  | crashed (words : Option String)
  deriving DecidableEq, Repr

/-- A plugin. -/
structure Plugin where
  identifier : String
  space : String
  metadata : List MetaEntry
  scan : ByteArray → Verdict

/-- The name of a plugin with its namespace. -/
def Plugin.qualifiedName (p : Plugin) : String := p.space ++ ":" ++ p.identifier

/-- A plugin that did not do its work. -/
structure PluginFailure where
  plugin : String
  words : String
  crashed : Bool
  /-- The channel of the buffer, where it belongs to one. -/
  channel : Option Channel := none
  deriving DecidableEq, Repr

namespace PluginFailure

/-- A failure as a document. -/
def toJson (f : PluginFailure) : Json.Value :=
  .record [("plugin", .text f.plugin), ("message", .text f.words), ("panicked", .bool f.crashed),
    ("channel", .ofOption Channel.toJson f.channel)]

end PluginFailure

/-! ## Asking all plugins -/

/-- What a list of plugins answers about a buffer. -/
structure PluginScan where
  rules : List RuleMatch := []
  failures : List PluginFailure := []
  deriving DecidableEq, Repr

namespace PluginScan

/-- The rules as findings, if there are any. -/
def findings (s : PluginScan) : Option Findings := (Findings.ofRules s.rules).nonEmpty?

/-- The answers of two lists of plugins together. -/
def append (a b : PluginScan) : PluginScan := ⟨a.rules ++ b.rules, a.failures ++ b.failures⟩

end PluginScan

/-- What one plugin adds to the answer: a rule, a failure, or nothing. -/
def Plugin.contribution (p : Plugin) (data : ByteArray) : PluginScan :=
  match p.scan data with
  | .found r => { rules := [r] }
  | .nothing => {}
  | .failed words => { failures := [⟨p.qualifiedName, words, false, none⟩] }
  | .crashed words =>
    { failures := [⟨p.qualifiedName, words.getD "plugin panicked", true, none⟩] }

end RuleScan
