import RuleScan.Findings.Basic

/-!
# Findings as documents

The JSON form of findings, and the schemas that read it. Parts that are empty may be left out, and a
metadata entry may call its key `ident`.
-/

namespace RuleScan

open Json

/-- A natural number that a position may have. -/
def position : Decoder Nat := natural 64 "usize"

/-! ## Metadata -/

/-- A metadata entry as a document. -/
def MetaEntry.toJson (m : MetaEntry) : Value :=
  .record [("key", .text m.key), ("value", .text m.value)]

/-- The fields of a metadata entry, as far as they were given. -/
structure MetaEntry.Given where
  key : Option String := none
  value : Option String := none

/-- A metadata entry, whose key may be written `ident`. -/
def MetaEntry.schema : Schema MetaEntry.Given MetaEntry where
  expected := "struct Metadata"
  expectedList := "struct Metadata with 2 elements"
  fields :=
    [{ FieldSchema.of "key" true (·.key) (fun (s : MetaEntry.Given) a => { s with key := some a })
        text with names := ["key", "ident"] },
     .of "value" true (·.value) (fun s a => { s with value := some a }) text]
  start := {}
  build := fun s => do pure { key := ← s.key, value := ← s.value }

/-! ## Hits -/

/-- A hit as a document. -/
def Hit.toJson (h : Hit) : Value :=
  .record [("offset", .ofNat h.offset), ("length", .ofNat h.length), ("xor_key", .bool h.decoded)]

/-- The fields of a hit, as far as they were given. -/
structure Hit.Given where
  offset : Option Nat := none
  length : Option Nat := none
  decoded : Option Bool := none

/-- A hit; one that does not say so was not decoded. -/
def Hit.schema : Schema Hit.Given Hit where
  expected := "struct PatternMatch"
  expectedList := "struct PatternMatch with 3 elements"
  fields :=
    [.of "offset" true (·.offset) (fun s a => { s with offset := some a }) position,
     .of "length" true (·.length) (fun s a => { s with length := some a }) position,
     .of "xor_key" false (·.decoded) (fun s a => { s with decoded := some a }) bool]
  start := {}
  build := fun s => do
    pure { offset := ← s.offset, length := ← s.length, decoded := s.decoded.getD false }

/-! ## Patterns -/

/-- A pattern with its hits as a document. -/
def PatternHits.toJson (p : PatternHits) : Value :=
  .record [("identifier", .text p.identifier), ("matches", .ofList Hit.toJson p.hits)]

/-- The fields of a pattern, as far as they were given. -/
structure PatternHits.Given where
  identifier : Option String := none
  hits : Option (List Hit) := none

/-- A pattern with its hits. -/
def PatternHits.schema : Schema PatternHits.Given PatternHits where
  expected := "struct Pattern"
  expectedList := "struct Pattern with 2 elements"
  fields :=
    [.of "identifier" true (·.identifier) (fun s a => { s with identifier := some a }) text,
     .of "matches" false (·.hits) (fun s a => { s with hits := some a }) (list Hit.schema.decoder)]
  start := {}
  build := fun s => do pure { identifier := ← s.identifier, hits := s.hits.getD [] }

/-! ## Rules -/

/-- A rule that holds as a document. -/
def RuleMatch.toJson (r : RuleMatch) : Value :=
  .record [("identifier", .text r.identifier), ("namespace", .text r.space),
    ("metadata", .ofList MetaEntry.toJson r.metadata),
    ("patterns", .ofList PatternHits.toJson r.patterns)]

/-- The fields of a rule, as far as they were given. -/
structure RuleMatch.Given where
  identifier : Option String := none
  space : Option String := none
  metadata : Option (List MetaEntry) := none
  patterns : Option (List PatternHits) := none

/-- A rule that holds. -/
def RuleMatch.schema : Schema RuleMatch.Given RuleMatch where
  expected := "struct MatchingRule"
  expectedList := "struct MatchingRule with 4 elements"
  fields :=
    [.of "identifier" true (·.identifier) (fun s a => { s with identifier := some a }) text,
     .of "namespace" true (·.space) (fun s a => { s with space := some a }) text,
     .of "metadata" false (·.metadata) (fun s a => { s with metadata := some a })
       (list MetaEntry.schema.decoder),
     .of "patterns" false (·.patterns) (fun s a => { s with patterns := some a })
       (list PatternHits.schema.decoder)]
  start := {}
  build := fun s => do
    pure
      { identifier := ← s.identifier, space := ← s.space
        metadata := s.metadata.getD [], patterns := s.patterns.getD [] }

/-! ## Findings -/

/-- Findings as a document. -/
def Findings.toJson (f : Findings) : Value :=
  .record [("matching_rules", .ofList RuleMatch.toJson f.rules),
    ("module_outputs", .record (f.outputs.entries.map fun e => (e.1, .text e.2)))]

/-- The fields of findings, as far as they were given. -/
structure Findings.Given where
  rules : Option (List RuleMatch) := none
  outputs : Option (List (String × String)) := none

/-- Findings; of repeated modules the last counts. -/
def Findings.schema : Schema Findings.Given Findings where
  expected := "struct ScanResult"
  expectedList := "struct ScanResult with 2 elements"
  fields :=
    [.of "matching_rules" false (·.rules) (fun s a => { s with rules := some a })
       (list RuleMatch.schema.decoder),
     .of "module_outputs" false (·.outputs) (fun s a => { s with outputs := some a }) (map text)]
  start := {}
  build := fun s => some
    { rules := s.rules.getD [], outputs := Dictionary.ofList (s.outputs.getD []) }

/-- Reads findings from the text of a document. -/
def Findings.ofText (s : String) : Except Fault Findings := decodeText Findings.schema.decoder s

/-- The text of the document of findings. -/
def Findings.toText (f : Findings) : String := f.toJson.compact

/-! ## Weighted findings -/

/-- Findings of a channel as a document. -/
def WeightedFindings.toJson (w : WeightedFindings) : Value :=
  .record [("channel", w.channel.toJson), ("weight", .ofNat w.weight.toNat),
    ("result", w.findings.toJson)]

/-- The fields of weighted findings, as far as they were given. -/
structure WeightedFindings.Given where
  channel : Option Channel := none
  weight : Option UInt32 := none
  findings : Option Findings := none

/-- Findings with their channel and weight, none of which may be left out. -/
def WeightedFindings.schema : Schema WeightedFindings.Given WeightedFindings where
  expected := "struct WeightedResult"
  expectedList := "struct WeightedResult with 3 elements"
  fields :=
    [.of "channel" true (·.channel) (fun s a => { s with channel := some a }) Channel.decoder,
     .of "weight" true (·.weight) (fun s a => { s with weight := some a }) word32,
     .of "result" true (·.findings) (fun s a => { s with findings := some a })
       Findings.schema.decoder]
  start := {}
  build := fun s => do
    pure { channel := ← s.channel, weight := ← s.weight, findings := ← s.findings }

end RuleScan
