import RuleScan.Plugin.Basic
import RuleScan.Regex.Search

/-!
# Plugins made of patterns

A plugin that looks for patterns in the bytes of a buffer. It answers its rule when one of its
patterns is found, or only when all are, and lists the hits of those found under their numbers. What
a pattern is and where it is found is up to a searcher; regular expressions are one kind of patterns
(`searcher`), and what is said about plugins over a searcher holds for any other.
-/

namespace RuleScan

open Regex (Span)

/-! ## Searchers -/

/-- Something that reads patterns as programs in `M` and looks for them in bytes. What is refused is
refused in words. -/
structure Searcher (M : Type) where
  read : String → Except String M
  /-- All matches in a buffer, one after the other. -/
  matchesIn : M → ByteArray → List Span

/-- The searcher of this library. -/
def searcher : Searcher Regex.Program where
  read pattern := (Regex.Program.read {} {} pattern).mapError Regex.Fault.message
  matchesIn := Regex.Program.matches

/-! ## Plugins -/

/-- The most hits of a pattern that are listed. -/
def maxHits : Nat := 1000

/-- A definition with the programs of its patterns. -/
structure PatternPlugin (M : Type) where
  definition : Definition
  programs : List M

namespace PatternPlugin

variable {M : Type} (S : Searcher M)

/-- Reads all patterns, up to the first one that is refused. -/
def readPatterns : List String → Except String (List M)
  | [] => .ok []
  | p :: rest => do
    let program ← S.read p
    .ok (program :: (← readPatterns rest))

/-- The plugin of a definition, which must have a name and at least one pattern. -/
def ofDefinition (d : Definition) : Except Failure (PatternPlugin M) :=
  if d.identifier = "" then .error (.input .noPluginName)
  else if d.patterns.isEmpty then .error (.input (.noPatterns d.identifier))
  else match readPatterns S d.patterns with
    | .ok programs => .ok ⟨d, programs⟩
    | .error words => .error (.regex words)

/-- The hits of a pattern, the first ones of those that it has. -/
def hits (p : M) (data : ByteArray) : List Hit :=
  ((S.matchesIn p data).take maxHits).map fun m => ⟨m.start, m.stop - m.start, false⟩

/-- The patterns with their hits, numbered from `index` on. -/
def patternHits (data : ByteArray) (index : Nat) : List M → List PatternHits
  | [] => []
  | p :: rest => ⟨"$" ++ decimal index, hits S p data⟩ :: patternHits data (index + 1) rest

/-- What the plugin answers about a buffer. -/
def scan (p : PatternPlugin M) (data : ByteArray) : Verdict :=
  let all := patternHits S data 0 p.programs
  let found := all.filter fun h => !h.hits.isEmpty
  if found.isEmpty then .nothing
  else if p.definition.matchAll && found.length < all.length then .nothing
  else .found (p.definition.rule found)

/-- The plugin as one of many. -/
def toPlugin (p : PatternPlugin M) : Plugin :=
  { identifier := p.definition.identifier, space := p.definition.space
    metadata := p.definition.metadata, scan := p.scan S }

end PatternPlugin

/-! ## Plugins made of functions -/

/-- What a function says about a buffer: the hits it found, nothing, or that it failed. -/
inductive Opinion
  | found (patterns : List PatternHits)
  | nothing
  | failed (words : String)
  | crashed (words : Option String)
  deriving DecidableEq, Repr

/-- A plugin with the name and the metadata of a definition that asks a function. -/
def Plugin.ofFunction (d : Definition) (f : ByteArray → Opinion) : Plugin where
  identifier := d.identifier
  space := d.space
  metadata := d.metadata
  scan data := match f data with
    | .found patterns => .found (d.rule patterns)
    | .nothing => .nothing
    | .failed words => .failed words
    | .crashed words => .crashed words

/-- A plugin that answers its rule, without hits, where a test holds. -/
def Plugin.ofPredicate (d : Definition) (test : ByteArray → Bool) : Plugin :=
  .ofFunction d fun data => if test data then .found [] else .nothing

end RuleScan
