import RuleScan.Findings.Basic
import RuleScan.Decimal.Shortest

/-!
# Listings of findings

The text shown for findings: a line that counts the rules, a line for each rule with its metadata
and the hits of its patterns, and a line for each module. Offsets are hexadecimal.
-/

namespace RuleScan

/-- A natural number in decimal. -/
def decimal (n : Nat) : String := String.ofList (Decimal.natDigits n)

/-- A natural number in hexadecimal. -/
def hexadecimal (n : Nat) : String := String.ofList (Nat.toDigits 16 n)

/-- A hit as offset and length. -/
def Hit.listing (h : Hit) : String :=
  "0x" ++ hexadecimal h.offset ++ "+" ++ decimal h.length ++ (if h.decoded then "(xor)" else "")

/-- A pattern with its hits between brackets. -/
def PatternHits.listing (p : PatternHits) : String :=
  p.identifier ++ "@[" ++ ",".intercalate (p.hits.map Hit.listing) ++ "]"

/-- A metadata entry. -/
def MetaEntry.listing (m : MetaEntry) : String := m.key ++ "=" ++ m.value

/-- A rule with its metadata, if it has any, and its patterns. -/
def RuleMatch.listing (r : RuleMatch) : String :=
  let metadata :=
    if r.metadata.isEmpty then ""
    else " [" ++ ", ".intercalate (r.metadata.map MetaEntry.listing) ++ "]"
  r.qualifiedName ++ metadata ++ String.join (r.patterns.map fun p => " " ++ p.listing)

/-- Findings, a line for each rule and module. -/
def Findings.listing (f : Findings) : String :=
  "ScanResult: " ++ decimal f.rules.length ++ " matching rule(s)\n"
    ++ String.join (f.rules.map fun r => "  " ++ r.listing ++ "\n")
    ++ String.join (f.outputs.entries.map fun e => "  module " ++ e.1 ++ ": " ++ e.2 ++ "\n")

/-- Findings after their channel and weight. -/
def WeightedFindings.listing (w : WeightedFindings) : String :=
  "[" ++ w.channel.name ++ " w=" ++ decimal w.weight.toNat ++ "] " ++ w.findings.listing

end RuleScan
