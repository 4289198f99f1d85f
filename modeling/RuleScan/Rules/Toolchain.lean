import RuleScan.Failure
import RuleScan.Files.Walk
import RuleScan.Rules.RuleSet
import RuleScan.Trace

/-!
# Toolchains

What can be asked of the compilers of some kind, of the rules that they build, and of the walks that
find rule files for them. The compilers and the walks of this library are one kind (`toolchain`);
what is said about sessions over a toolchain holds for any other.
-/

namespace RuleScan.Rules

/-- Compilers with states in `C` that build rules in `R`. What is refused is refused in words. -/
structure Toolchain (C R : Type) where
  /-- What a walk through a directory comes to. Where it fails, it does so in words. -/
  walk : Files → String → List (Except String Files.Spot)
  start : CompileOptions → C
  newSpace : String → C → C
  ignoreModule : String → C → C
  define : String → ExternalValue → C → Option String × C
  /-- Adds rules, which may include files of the tree; where they come from may be given. -/
  addSource : Files → ByteArray → Option String → C → Option String × C
  build : C → R
  /-- What rules find in a buffer; a scan may be given a bound on its time. -/
  scan : Option Duration → ByteArray → R → Except String Findings
  /-- The number of rules. -/
  size : R → Nat
  toBytes : R → Except String ByteArray
  ofBytes : ByteArray → Except String R

namespace Toolchain

variable {C R : Type} (T : Toolchain C R)

/-- Makes a change. Only variables and sources can be refused. -/
def apply (fs : Files) : Change → C → Option String × C
  | .space name, c => (none, T.newSpace name c)
  | .ignoreModule module, c => (none, T.ignoreModule module c)
  | .define name value, c => T.define name value c
  | .source bytes origin, c => T.addSource fs bytes origin c

/-- The files that a path stands for: the rule files that a walk through a directory comes to, or
what is not a directory itself. -/
def ruleFiles (fs : Files) (path : String) : Except CompileFault (List String) :=
  if fs.isDirectory path then (Files.picked (T.walk fs path)).mapError (.unlisted path)
  else .ok [path]

end Toolchain

/-- The toolchain of this library. Its scans take no time. -/
def toolchain : Toolchain Compiler RuleSet where
  walk := Files.walk
  start := Compiler.start
  newSpace name c := c.newSpace name
  ignoreModule module c := c.ignoreModule module
  define name value c := let r := c.define name value; (r.1.map Fault.message, r.2)
  addSource fs bytes _ c := let r := c.addSource fs bytes; (r.1.map Fault.message, r.2)
  build := Compiler.build
  scan _ data rules := .ok (rules.scan data)
  size := RuleSet.size
  toBytes rules := .ok rules.toBytes
  ofBytes bytes := (RuleSet.ofBytes bytes).mapError Fault.message

end RuleScan.Rules
