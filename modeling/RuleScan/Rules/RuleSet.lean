import RuleScan.Rules.Compiler
import RuleScan.Rules.Packed

/-!
# Sets of rules

The rules of a compiler, ready to scan. A set of rules can be stored as bytes: those of its script
after a fixed beginning. Main statement: stored rules are restored (`ofBytes_toBytes`).
-/

namespace RuleScan.Rules

/-- The rules that a compiler accepted. -/
structure RuleSet where
  compiled : Compiler

/-- The rules that a compiler accepted so far. -/
def Compiler.build (c : Compiler) : RuleSet := ⟨c⟩

/-- A rule with what a buffer makes of it. -/
structure Verdict where
  rule : Rule
  hits : List (Pattern × List Hit)
  holds : Bool

namespace Verdict

/-- The verdict on a rule, after those on the rules before it. -/
def of (o : CompileOptions) (externals : List (String × Val)) (data : ByteArray)
    (before : List Verdict) (r : Rule) : Verdict :=
  let hits := r.patterns.map fun p => (p, p.hits data)
  let rules := (before.filter fun v => v.rule.spaceNumber = r.spaceNumber).map fun v =>
    (v.rule.name, Val.bool v.holds)
  let condition := r.condition.eval
    { data
      options := o
      names := rules ++ externals
      patterns := hits.map fun (p, hits) => (p.name, hits) }
  ⟨r, hits, Rules.holds condition⟩

/-- Whether a rule is a global one that does not hold. -/
def silences (v : Verdict) : Bool := v.rule.isGlobal && !v.holds

/-- The rule and its patterns as they are listed. -/
def listed (v : Verdict) : RuleMatch where
  identifier := v.rule.name
  space := v.rule.space
  metadata := v.rule.metadata
  patterns := (v.hits.filter fun (p, _) => !p.hidden).map fun (p, hits) => ⟨p.name, hits⟩

end Verdict

namespace RuleSet

/-- The rules in the order of their declarations. -/
def rules (s : RuleSet) : List Rule := s.compiled.draft.rules

/-- The number of rules, private ones included. -/
def size (s : RuleSet) : Nat := s.rules.length

/-- The verdicts on all rules. -/
def verdicts (s : RuleSet) (data : ByteArray) : List Verdict :=
  let externals := s.compiled.draft.externals.map fun (n, v) => (n, Val.ofExternal v)
  s.rules.foldl (fun before r => before ++ [.of s.compiled.options externals data before r]) []

/-- The output of the modules that rules import. -/
def outputs (s : RuleSet) : Dictionary :=
  (s.compiled.draft.imported.filterMap module?).foldl (fun d m => d.insert m.name m.output) {}

/-- What the rules find in a buffer: the rules that hold and are not private, unless a global rule
of their namespace does not hold. -/
def scan (s : RuleSet) (data : ByteArray) : Findings :=
  let verdicts := s.verdicts data
  let silenced := (verdicts.filter Verdict.silences).map (·.rule.spaceNumber)
  let listed := verdicts.filter fun v =>
    v.holds && !v.rule.isPrivate && !silenced.contains v.rule.spaceNumber
  { rules := listed.map Verdict.listed, outputs := s.outputs }

/-! ## Storing -/

/-- The first bytes of stored rules. -/
def opening : List UInt8 := "YARA-X".toUTF8.data.toList

/-- The rules as bytes. -/
def toBytes (s : RuleSet) : ByteArray :=
  ⟨(opening ++ Packed.script s.compiled.options s.compiled.script).toArray⟩

/-- The rules in some bytes. -/
def ofBytes (bytes : ByteArray) : Except Fault RuleSet :=
  let input := bytes.data.toList
  if opening.isPrefixOf input then
    match Packed.readScript (input.drop opening.length) with
    | some (o, script) => .ok (Compiler.ofScript o script).build
    | none => .error .damagedBytes
  else .error .foreignBytes

theorem ofBytes_toBytes (s : RuleSet) : ofBytes s.toBytes = .ok s := by
  have h : opening.isPrefixOf (opening ++ Packed.script s.compiled.options s.compiled.script) := by
    simp
  simp only [ofBytes, toBytes, h, if_true, List.drop_left, Packed.readScript_script]
  rw [Compiler.build, Compiler.ofScript_script]

end RuleSet

end RuleScan.Rules
