import RuleScan.Channel
import RuleScan.Dictionary

/-!
# Findings

What a scan of one buffer found: the rules that hold, with the hits of their patterns, and the
output of the modules that were consulted. Findings are merged by appending the rules and by letting
later module outputs take the place of earlier ones. Empty findings are told apart by `nonEmpty?`.
-/

namespace RuleScan

/-- An entry of a rule's metadata. -/
structure MetaEntry where
  key : String
  value : String
  deriving DecidableEq, Repr

/-- Where a pattern was found. -/
structure Hit where
  offset : Nat
  length : Nat
  /-- Whether the bytes at that place had to be decoded to match. -/
  decoded : Bool := false
  deriving DecidableEq, Repr

/-- A pattern with its hits. -/
structure PatternHits where
  identifier : String
  hits : List Hit := []
  deriving DecidableEq, Repr

/-- A rule that holds. -/
structure RuleMatch where
  identifier : String
  space : String
  metadata : List MetaEntry := []
  patterns : List PatternHits := []
  deriving DecidableEq, Repr

namespace RuleMatch

/-- The value of the first metadata entry with a key. -/
def metaValue? (r : RuleMatch) (key : String) : Option String :=
  (r.metadata.find? (·.key == key)).map (·.value)

/-- The name of a rule with its namespace. -/
def qualifiedName (r : RuleMatch) : String := r.space ++ ":" ++ r.identifier

end RuleMatch

/-- What a scan of one buffer found. -/
structure Findings where
  rules : List RuleMatch := []
  /-- The output of each module, as a document of its own. -/
  outputs : Dictionary := {}
  deriving DecidableEq

namespace Findings

instance : Inhabited Findings := ⟨{}⟩

/-- The findings of a list of rules. -/
def ofRules (rules : List RuleMatch) : Findings := { rules }

/-- Whether nothing was found. -/
def isEmpty (f : Findings) : Bool := f.rules.isEmpty && f.outputs.isEmpty

/-- The findings, if there are any. -/
def nonEmpty? (f : Findings) : Option Findings := if f.isEmpty then none else some f

/-- The findings of both, the outputs of the second taking the place of the first's. -/
def merge (a b : Findings) : Findings :=
  { rules := a.rules ++ b.rules, outputs := a.outputs.merge b.outputs }

/-- All findings of a list, merged from the left. -/
def mergeAll (fs : List Findings) : Findings := fs.foldl merge {}

end Findings

/-- Findings on a channel, with the weight of the channel. -/
structure WeightedFindings where
  channel : Channel
  weight : UInt32
  findings : Findings
  deriving DecidableEq

end RuleScan
