import RuleScan.Regex.Weight

/-!
# Programs for regular expressions

An expression becomes a list of instructions, each of which falls through to the next one unless it
says otherwise. Branches are listed in the order in which they are preferred. `Expr.codeSize` is the
number of instructions, so that forward targets are known before the code behind them is laid out.
-/

namespace RuleScan.Regex

open RuleScan.Text

/-- An instruction. -/
inductive Instr
  /-- One byte of a set. -/
  | byte (set : RangeTable)
  /-- The UTF-8 form of one character of a set. -/
  | scalar (set : RangeTable)
  | look (l : Look)
  /-- Goes on at any of the targets, earlier ones preferred. -/
  | split (targets : List Nat)
  | accept

/-- A program: its instructions, and a bound on the steps that take no bytes. -/
structure Program where
  code : Array Instr
  fuel : Nat

/-! ## Size -/

mutual

/-- The number of instructions of an expression. -/
def Expr.codeSize : Expr → Nat
  | .empty => 0
  | .byte _ => 1
  | .scalar _ => 1
  | .look _ => 1
  | .rep min max _ e =>
    match max with
    | none => if min = 0 then e.codeSize + 2 else min * e.codeSize + 1
    | some max => min * e.codeSize + (max - min) * (e.codeSize + 1)
  | .concat es => codeSizes es
  | .alternation es => branchSizes es + 1

/-- The number of instructions of expressions after each other. -/
def Expr.codeSizes : List Expr → Nat
  | [] => 0
  | e :: rest => e.codeSize + codeSizes rest

/-- The number of instructions of branches, each of which ends in a jump. -/
def Expr.branchSizes : List Expr → Nat
  | [] => 0
  | e :: rest => e.codeSize + 1 + branchSizes rest

end

/-! ## Code -/

/-- The targets of a choice between going on and leaving, in order of preference. -/
def choice (greedy : Bool) (on leave : Nat) : List Nat :=
  if greedy then [on, leave] else [leave, on]

/-- Lays out the same code a number of times. -/
def copies (emit : Array Instr → Array Instr) : Nat → Array Instr → Array Instr
  | 0, code => code
  | n + 1, code => copies emit n (emit code)

mutual

/-- Lays out the code of an expression behind other code. -/
def Expr.emit : Expr → Array Instr → Array Instr
  | .empty, code => code
  | .byte set, code => code.push (.byte (.ofSet set))
  | .scalar set, code => code.push (.scalar (.ofSet set))
  | .look l, code => code.push (.look l)
  | .rep min max greedy e, code =>
    let size := e.codeSize
    match max with
    | none =>
      if min = 0 then
        let start := code.size
        let leave := start + size + 2
        let again := if e.nullable then choice greedy (start + 1) leave else [start]
        (e.emit (code.push (.split (choice greedy (start + 1) leave)))).push (.split again)
      else
        let last := code.size + (min - 1) * size
        (copies e.emit min code).push (.split (choice greedy last (last + size + 1)))
    | some max =>
      let start := code.size + min * size
      let leave := start + (max - min) * (size + 1)
      let optional (code : Array Instr) : Array Instr :=
        e.emit (code.push (.split (choice greedy (code.size + 1) leave)))
      copies optional (max - min) (copies e.emit min code)
  | .concat es, code => emitAll es code
  | .alternation es, code =>
    let start := code.size
    let leave := start + 1 + branchSizes es
    emitBranches leave es (code.push (.split (branchStarts (start + 1) es)))

/-- Lays out expressions after each other. -/
def Expr.emitAll : List Expr → Array Instr → Array Instr
  | [], code => code
  | e :: rest, code => emitAll rest (e.emit code)

/-- Lays out branches, each of which ends in a jump. -/
def Expr.emitBranches (leave : Nat) : List Expr → Array Instr → Array Instr
  | [], code => code
  | e :: rest, code => emitBranches leave rest ((e.emit code).push (.split [leave]))

/-- Where the branches start. -/
def Expr.branchStarts (start : Nat) : List Expr → List Nat
  | [] => []
  | e :: rest => start :: branchStarts (start + e.codeSize + 1) rest

end

/-- The ways on from an instruction that takes no bytes. -/
def Instr.ways : Instr → Nat
  | .split targets => targets.length
  | _ => 1

/-- The program of an expression. -/
def Program.ofExpr (e : Expr) : Program :=
  let code := (e.emit #[]).push .accept
  { code, fuel := code.foldl (fun n i => n + i.ways) 1 }

/-- Reads an expression and lays out its program, if it is not too big. -/
def Program.read (d : Dialect) (f : Flags) (pattern : String) : Except Fault Program := do
  let e ← Expr.read d f pattern
  if e.memory > memoryLimit then throw (.tooBig memoryLimit)
  return .ofExpr e

end RuleScan.Regex
