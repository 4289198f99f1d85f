import RuleScan.Pacing
import RuleScan.Plugin.Registry
import RuleScan.Session

/-!
# The scanner

A scanner takes the buffers of a sample through a session and the plugins, channel by channel,
inside one batch of its pacing strategy. On each channel the rules come first and the plugins
second. A failing rule scan ends the whole scan; a failing plugin is noted or ends it, as the policy
says.
-/

namespace RuleScan

/-- A session, plugins and a pacing strategy, with the weights of the channels. -/
structure Scanner (κ β π : Type) where
  session : Session κ β
  registry : Registry := {}
  pacing : π
  weights : Weights := {}
  onPluginFailure : FailurePolicy := .skip

/-- What a scan found, and which plugins failed. -/
structure Outcome where
  results : List WeightedFindings := []
  failures : List PluginFailure := []
  deriving DecidableEq

namespace Outcome

/-- An outcome as a document. -/
def toJson (o : Outcome) : Json.Value :=
  .record [("results", .ofList WeightedFindings.toJson o.results),
    ("plugin_failures", .ofList PluginFailure.toJson o.failures)]

/-- Both outcomes, one after the other. -/
def append (a b : Outcome) : Outcome := ⟨a.results ++ b.results, a.failures ++ b.failures⟩

end Outcome

/-- The buffers of a sample; each may be absent. -/
structure Sample where
  content : Option ByteArray := none
  comment : Option ByteArray := none
  metadata : Option ByteArray := none

namespace Sample

/-- The buffer of a channel. -/
def buffer? (s : Sample) : Channel → Option ByteArray
  | .content => s.content
  | .comment => s.comment
  | .metadata => s.metadata

/-- The buffers that are present, in the order of the channels. -/
def buffers (s : Sample) : List (Channel × ByteArray) :=
  Channel.ordered.filterMap fun c => (s.buffer? c).map fun data => (c, data)

end Sample

namespace Scanner

variable {κ β π : Type}

/-- A scanner with a session, set up as a configuration says. -/
def ofSession (c : Config) (pacing : π) (session : Session κ β) : Scanner κ β π :=
  { session, pacing, weights := c.weights, onPluginFailure := c.onPluginFailure }

/-- Does something with the session. -/
def onSession (x : Action (Session κ β) α) : Action (Scanner κ β π) α :=
  .zoom (·.session) (fun s session => { s with session }) x

/-- Does something with the plugins. -/
def onRegistry (x : Action Registry α) : Action (Scanner κ β π) α :=
  .zoom (·.registry) (fun s registry => { s with registry }) x

variable (E : Engine κ β) (P : Strategy π)

/-- How a scanner is shown. -/
def display (s : Scanner κ β π) : String :=
  "Scanner \x7b status: " ++ s.session.status.name ++ ", plugins: " ++ s.registry.display
    ++ ", pacing: " ++ Text.quoted (P.name s.pacing) ++ ", weights: ChannelWeights \x7b content: "
    ++ decimal s.weights.content.toNat ++ ", comment: " ++ decimal s.weights.comment.toNat
    ++ ", meta: " ++ decimal s.weights.metadata.toNat ++ " \x7d, plugin_failure: "
    ++ s.onPluginFailure.display ++ " \x7d"

/-- Scans a buffer with the rules alone. -/
def scanRules (data : ByteArray) : Action (Scanner κ β π) (Option Findings) :=
  onSession (Session.scanIfBuilt E data)

/-- Scans a buffer with the plugins alone. -/
def scanPlugins (data : ByteArray) : Action (Scanner κ β π) PluginScan :=
  onRegistry (Registry.scanAll data)

/-- Does some work inside a batch of the pacing strategy. -/
def withBatch (body : Nat → Action (Scanner κ β π) α) : Action (Scanner κ β π) α :=
  P.withBatch (·.pacing) (fun s pacing => { s with pacing }) body

/-- Waits before a buffer. -/
def pause (token : Nat) : Action (Scanner κ β π) Unit :=
  .zoom (·.pacing) (fun s pacing => { s with pacing }) (P.stepBatch token)

/-! ## Channels -/

/-- Logs a plugin failure that is passed over. -/
def skippedLog (c : Channel) (f : PluginFailure) : Event :=
  .log .warn ("Plugin scan failed, skipped | Plugin: " ++ f.plugin ++ " | Channel: " ++ c.name
    ++ " | Panicked: " ++ (if f.crashed then "true" else "false") ++ " | Error: " ++ f.words)

/-- Logs a plugin failure that ends the scan. -/
def abortLog (c : Channel) (f : PluginFailure) : Event :=
  .log .error ("Plugin scan failed, aborting | Plugin: " ++ f.plugin ++ " | Channel: " ++ c.name
    ++ " | Error: " ++ f.words)

/-- Deals with the plugin failures on a channel: all are noted, or the first one ends the scan. -/
def settleFailures (c : Channel) (failures : List PluginFailure) :
    Action (Scanner κ β π) (List PluginFailure) := fun s =>
  match s.onPluginFailure, failures with
  | _, [] => ⟨.ok [], s, []⟩
  | .abort, f :: _ => ⟨.error (.plugin f.plugin f.words), s, [abortLog c f]⟩
  | .skip, fs => ⟨.ok (fs.map fun f => { f with channel := some c }), s, fs.map (skippedLog c)⟩

/-- The number of rules in findings, if any. -/
def ruleHits (f : Option Findings) : Nat := f.elim 0 (·.rules.length)

/-- Logs what a channel gave. -/
def channelLog (token : Nat) (c : Channel) (data : ByteArray) (rules plugins : Option Findings) :
    Event :=
  .log .debug ("Channel scanned | Channel: " ++ c.name ++ " | Bytes: " ++ decimal data.size
    ++ " | Native hits: " ++ decimal (ruleHits rules) ++ " | Plugin hits: "
    ++ decimal (ruleHits plugins) ++ " | Batch: " ++ tokenText token)

/-- The findings that are there, with their channel and its weight. -/
def weigh (w : Weights) (c : Channel) (fs : List (Option Findings)) : List WeightedFindings :=
  fs.filterMap fun f => f.map fun findings => ⟨c, w.of c, findings⟩

/-- The second half of a channel: asks the plugins and puts what was found together. -/
def askPlugins (token : Nat) (c : Channel) (data : ByteArray) (rules : Option Findings) :
    Action (Scanner κ β π) Outcome := do
  let plugins ← scanPlugins data
  let failures ← settleFailures c plugins.failures
  let weights := (← .get).weights
  .emit (channelLog token c data rules plugins.findings)
  return { results := weigh weights c [rules, plugins.findings], failures }

/-- Scans one channel: waits, asks the rules, then the plugins. -/
def scanChannel (token : Nat) (c : Channel) (data : ByteArray) :
    Action (Scanner κ β π) Outcome := do
  pause P token
  let rules ← scanRules E data
  askPlugins token c data rules

/-- Scans some channels, one after the other. -/
def scanChannels (token : Nat) : List (Channel × ByteArray) → Action (Scanner κ β π) Outcome
  | [] => .pure {}
  | (c, data) :: rest => do
    let first ← scanChannel E P token c data
    let others ← scanChannels token rest
    return first.append others

/-- Scans a sample: findings with their weights, and the plugins that failed. -/
def scanDetailed (s : Sample) : Action (Scanner κ β π) Outcome :=
  withBatch P fun token => scanChannels E P token s.buffers

/-- Scans a sample: findings with their weights. -/
def scan (s : Sample) : Action (Scanner κ β π) (List WeightedFindings) := do
  return (← scanDetailed E P s).results

/-- Scans buffers with the rules alone, inside one batch. -/
def scanBatch (buffers : List ByteArray) : Action (Scanner κ β π) (List (Option Findings)) :=
  withBatch P fun token => .forEach (fun data => do pause P token; scanRules E data) buffers

end Scanner

end RuleScan
