import RuleScan.Rules.Evaluation
import RuleScan.Rules.SourceReader
import RuleScan.Files.Basic
import RuleScan.Decimal.Layout

/-!
# Rules that were accepted so far

A draft holds the rules of all sources that were added, and what names stand for in the next one. A
rule with a fault is left out and the other rules of its source stay; a rule that uses something
that is passed over is left out without a fault, and is passed over itself from then on. Names of
rules and imports belong to a namespace; modules give their output wherever they were imported.
-/

namespace RuleScan.Rules

open RuleScan.Text

/-- A rule at work. -/
structure Rule where
  name : String
  space : String
  /-- The number of the namespace: two namespaces may have one name. -/
  spaceNumber : Nat
  isGlobal : Bool
  isPrivate : Bool
  metadata : List MetaEntry
  patterns : List Pattern
  condition : Expr

/-- The rules that were accepted so far. -/
structure Draft where
  space : String := "default"
  spaceNumber : Nat := 0
  /-- The rules in the order of their declarations. -/
  rules : List Rule := []
  /-- The modules that were imported in the namespace. -/
  visible : List String := []
  /-- All modules that were imported. -/
  imported : List String := []
  /-- The modules to pass over. -/
  ignored : List String := []
  /-- The rules that were passed over. -/
  dropped : List String := []
  externals : List (String × ExternalValue) := []

namespace Draft

/-- Opens a namespace. -/
def openSpace (d : Draft) (name : String) : Draft :=
  { d with space := name, spaceNumber := d.spaceNumber + 1, visible := [] }

/-- Passes over what uses a module from now on, unless it is a known one that was imported. -/
def ignoreModule (d : Draft) (name : String) : Draft := { d with ignored := name :: d.ignored }

/-- Whether a name can be that of an external variable. -/
def isVariableName (name : String) : Bool :=
  match name.toList with
  | [] => false
  | c :: rest =>
    (c = '_' || Unicode.isAlphabetic c) && rest.all fun c => c = '_' || Unicode.isAlphanumeric c

/-- Defines an external variable. One that is defined already gets the new value all the same. -/
def define (d : Draft) (name : String) (value : ExternalValue) : Option Fault × Draft :=
  if !isVariableName name then (some (.invalidName name), d)
  else
    let fault := if (d.externals.lookup name).isSome then some (.variableExists name) else none
    (fault, { d with externals := (name, value) :: d.externals })

/-- Imports a module. -/
def importModule (d : Draft) (name : String) : Except Fault Draft :=
  if (module? name).isSome then
    .ok { d with
      visible := if d.visible.contains name then d.visible else name :: d.visible
      imported := if d.imported.contains name then d.imported else d.imported ++ [name] }
  else if d.ignored.contains name then .ok d
  else .error .unknownModule

/-! ## Rules -/

/-- The names of the rules of the namespace. -/
def ruleNames (d : Draft) : List String :=
  (d.rules.filter fun r => r.spaceNumber = d.spaceNumber).map (·.name)

/-- What the names stand for that do not belong to rules. -/
def otherNames (d : Draft) : List (String × Ty) :=
  (d.visible.filterMap fun n => (module? n).map fun m => (n, Ty.record m.members))
    ++ d.externals.map (fun (n, v) => (n, Val.typeOfExternal v))
    ++ readers.map fun (n, _) => (n, form [.integer] .integer)

/-- What the names in a condition stand for. -/
def scope (d : Draft) (o : CompileOptions) (patterns : List String) : Scope where
  options := o
  locals := []
  names := d.ruleNames.map (fun n => (n, .bool)) ++ d.otherNames
  passedOver := d.ignored ++ d.dropped
  patterns := patterns
  hasCurrent := false

/-- Whether no two of some names are the same. -/
def distinct : List String → Bool
  | [] => true
  | n :: rest => !rest.contains n && distinct rest

/-- Turns the patterns of a rule into searches; `seen` are the names of those before. -/
def compilePatterns (o : CompileOptions) (seen : List String) :
    List PatternDecl → Except Fault (List Pattern)
  | [] => .ok []
  | p :: rest => do
    if p.name ≠ "$" && seen.contains p.name then throw .duplicatePattern
    let pattern ← p.compile o
    return pattern :: (← compilePatterns o (p.name :: seen) rest)

/-- Whether a condition leaves a pattern unused that is not meant to be. -/
def leavesUnused (condition : Expr) (patterns : List String) : Bool :=
  let globs := condition.globs
  patterns.any fun p => !(['$', '_'].isPrefixOf p.toList) && !globs.any fun g => g.covers p

end Draft

/-- The text of a metadata value. -/
def MetaValue.display : MetaValue → String
  | bool b => if b then "true" else "false"
  | integer i => ExternalValue.integerText i.toInt
  | real x => Decimal.Layout.plain.write x
  | text s => lossy s

namespace Draft

/-- The rule of a declaration. -/
def compileRule (d : Draft) (o : CompileOptions) (r : RuleDecl) : Checked Rule := do
  if d.ruleNames.contains r.name then throw (.fault .duplicateRule)
  if (d.otherNames.lookup r.name).isSome then throw (.fault .conflictingRule)
  if !distinct r.tags then throw (.fault .duplicateTag)
  let patterns ← (compilePatterns o [] r.patterns).mapError .fault
  let names := patterns.map (·.name)
  let known ← r.condition.check (d.scope o names)
  known.asCondition
  if leavesUnused r.condition names then throw (.fault .unusedPattern)
  return { name := r.name
           space := d.space
           spaceNumber := d.spaceNumber
           isGlobal := r.isGlobal
           isPrivate := r.isPrivate
           metadata := r.metadata.map fun (key, v) => ⟨key, v.display⟩
           patterns := patterns
           condition := r.condition }

/-- Adds the rule of a declaration. -/
def addRule (d : Draft) (o : CompileOptions) (r : RuleDecl) : Except Fault Draft :=
  match d.compileRule o r with
  | .ok rule => .ok { d with rules := d.rules ++ [rule] }
  | .error .passedOver => .ok { d with dropped := r.name :: d.dropped }
  | .error (.fault f) => .error f

end Draft

/-! ## Sources -/

/-- The files that a source may include: their bytes, or why there are none. -/
abbrev Included := List (String × Except Fault ByteArray)

namespace Draft

/-- Keeps what was achieved, and collects the fault if there is one. -/
def collect (faults : List Fault) (d : Draft) : Except Fault Draft → List Fault × Draft
  | .ok d => (faults, d)
  | .error f => (faults ++ [f], d)

/-- Adds a source; answers the faults of its parts that were left out. Files are included at most
`depth` deep, and those that are being included already are given. -/
def addSource (o : CompileOptions) (files : Included) :
    (depth : Nat) → (within : List String) → Draft → ByteArray → List Fault × Draft
  | 0, _, d, _ => ([.includeLoop], d)
  | depth + 1, within, d, bytes =>
    match String.fromUTF8? bytes with
    | none => ([.notText], d)
    | some text =>
      let source := Source.read text
      let add : List Fault × Draft → Item → List Fault × Draft
        | (faults, d), .module name => collect faults d (d.importModule name)
        | (faults, d), .rule r => collect faults d (d.addRule o r)
        | (faults, d), .file path =>
          if within.contains path then (faults ++ [.includeLoop], d)
          else match files.lookup path with
            | some (.ok bytes) =>
              let (more, d) := addSource o files depth (path :: within) d bytes
              (faults ++ more, d)
            | some (.error f) => (faults ++ [f], d)
            | none => (faults ++ [.includeNotFound], d)
      let (faults, d) := source.items.foldl add ([], d)
      (faults ++ source.faults, d)

end Draft

end RuleScan.Rules
