import RuleScan.Rules.Included
import RuleScan.Rules.Script

/-!
# Compilers of rules

A compiler follows instructions one after the other. It remembers them: `draft_eq` says that its
draft is the one that its script makes.
-/

namespace RuleScan.Rules

/-- A compiler at work. -/
structure Compiler where
  options : CompileOptions
  /-- What it was told. -/
  script : Script
  /-- The rules that it accepted. -/
  draft : Draft
  draft_eq : draft = .ofScript options script

namespace Compiler

/-- A compiler that was told nothing yet. -/
def start (o : CompileOptions) : Compiler := ⟨o, [], {}, rfl⟩

/-- The compiler that a script makes. -/
def ofScript (o : CompileOptions) (script : Script) : Compiler :=
  ⟨o, script, .ofScript o script, rfl⟩

theorem ofScript_script (c : Compiler) : ofScript c.options c.script = c := by
  obtain ⟨o, script, draft, rfl⟩ := c
  rfl

/-- Follows an instruction; answers its first fault. -/
def follow (c : Compiler) (i : Instruction) : Option Fault × Compiler :=
  let followed := c.draft.follow c.options i
  (followed.1, ⟨c.options, c.script ++ [i], followed.2, by
    rw [Draft.ofScript_append, ← c.draft_eq]⟩)

/-- Opens a namespace; rules before it cannot be referred to any more. -/
def newSpace (c : Compiler) (name : String) : Compiler := (c.follow (.space name)).2

/-- Passes over what uses a module from now on, unless it is a known one that was imported. -/
def ignoreModule (c : Compiler) (name : String) : Compiler := (c.follow (.ignoreModule name)).2

/-- Defines an external variable. One that is defined already gets the new value all the same. -/
def define (c : Compiler) (name : String) (value : ExternalValue) : Option Fault × Compiler :=
  c.follow (.define name (.ofExternal value))

/-- Adds the rules of a source, which may include files. Its first fault is answered; rules without
fault are added all the same. -/
def addSource (c : Compiler) (fs : Files) (bytes : ByteArray) : Option Fault × Compiler :=
  let files := (includedFiles fs bytes).map fun (path, found) => (path, StoredFile.ofResult found)
  c.follow (.source bytes files)

end Compiler

end RuleScan.Rules
