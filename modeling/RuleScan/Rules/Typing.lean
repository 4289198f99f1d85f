import RuleScan.Rules.Module
import RuleScan.Rules.Pattern

/-!
# Types of conditions

What can be known of a condition before any buffer is seen: the type of each part, and the value of
parts that are constant whole numbers. A condition is refused for a fault, or because it uses
something that is passed over, which is no fault of its own.
-/

namespace RuleScan.Rules

/-- Why a condition is refused. -/
inductive Refusal
  | fault (f : Fault)
  /-- It uses something that is passed over. -/
  | passedOver
  deriving DecidableEq, Repr

/-- The outcome of a check. -/
abbrev Checked := Except Refusal

/-- Refuses for a fault. -/
def Checked.fault (f : Fault) : Checked α := .error (.fault f)

/-- What is known of a part of a condition. -/
structure Known where
  ty : Ty
  /-- Its value, if it is a constant whole number. -/
  constant : Option Int64 := none

/-- What the names in a condition stand for. -/
structure Scope where
  options : CompileOptions
  /-- Names from inside the condition, the newest first. -/
  locals : List (String × Ty)
  /-- Names from outside; the first entry of a name counts. -/
  names : List (String × Ty)
  /-- Names of what is passed over, if they stand for nothing else. -/
  passedOver : List String
  /-- The patterns of the rule. -/
  patterns : List String
  /-- Whether a loop has a current pattern. -/
  hasCurrent : Bool

/-! ## Choices of patterns -/

/-- Whether a glob stands for a pattern. -/
def PatternGlob.covers (g : PatternGlob) (name : String) : Bool :=
  if g.starred then g.name.toList.isPrefixOf name.toList else name = g.name

/-- Whether a pattern is among those to choose from. -/
def PatternSet.covers : PatternSet → String → Bool
  | them, _ => true
  | chosen globs, name => globs.any (·.covers name)

/-- Checks that each choice of patterns stands for one at least. -/
def PatternSet.check (s : Scope) : PatternSet → Checked Unit
  | them => if s.patterns.isEmpty then .fault .emptyPatternSet else .ok ()
  | chosen globs =>
    if globs.all fun g => s.patterns.any g.covers then .ok () else .fault .emptyPatternSet

/-- Checks that a pattern is one of the rule, or that there is a current one. -/
def PatternRef.check (s : Scope) : PatternRef → Checked Unit
  | some name => if s.patterns.contains name then .ok () else .fault .unknownPattern
  | none => if s.hasCurrent then .ok () else .fault .malformed

/-! ## Single parts -/

namespace Scope

/-- The type that a name stands for. -/
def typeOf (s : Scope) (n : String) : Checked Ty :=
  match s.locals.lookup n <|> s.names.lookup n with
  | some ty => .ok ty
  | none => if s.passedOver.contains n then .error .passedOver else .fault .unknownIdentifier

/-- A scope with further names from inside the condition, the last of which counts first. -/
def withLocals (s : Scope) (vars : List String) (tys : List Ty) : Scope :=
  { s with locals := (vars.zip tys).reverse ++ s.locals }

end Scope

namespace Known

/-- Nothing but a type. -/
def of (ty : Ty) : Known := { ty }

/-- A whole number that must fit into a word. -/
def folded (i : Int) : Checked Known :=
  if ExternalValue.fits i then .ok ⟨.integer, some (Int64.ofInt i)⟩ else .fault .numberOutOfRange

/-- Checks a type. -/
def require (k : Known) (accepts : Ty → Bool) : Checked Unit :=
  if accepts k.ty then .ok () else .fault .wrongType

/-- Whether a type is a given single type. -/
def isA (ty : Ty) : Ty → Bool := ty.same

/-- Checks that a part can be a condition. -/
def asCondition (k : Known) : Checked Unit := k.require Ty.isTruthy

/-- Checks for a whole number that is not known to be negative. -/
def asSize (k : Known) : Checked Unit := do
  k.require (isA .integer)
  if k.constant.any (· < 0) then .fault .negativeNumber

/-- Checks for a whole number that is not known to be out of a range. -/
def asNumberIn (k : Known) (low high : Int64) : Checked Unit := do
  k.require (isA .integer)
  if k.constant.any fun i => i < low || high < i then .fault .numberOutOfRange

/-- Checks the bounds of a range. -/
def asRange (low high : Known) : Checked Unit := do
  match low.constant, high.constant with
  | some l, some h => if h < l then .fault .invalidRange
  | _, _ => .ok ()

/-- Whether a constant stands for a truth value. -/
def isBit (k : Known) : Bool := k.constant.any fun i => i == 0 || i == 1

/-- Checks two sides of a comparison. -/
def checkComparison (op : Comparison) (a b : Known) : Checked Known := do
  let isEquality := op == .eq || op == .ne
  let accepts : Ty → Bool := fun ty => ty.isTruthy && (isEquality || !isA .bool ty)
  let mixes := isEquality
    && ((isA .bool a.ty && b.isBit) || (a.isBit && isA .bool b.ty))
  if mixes then return of .bool
  a.require accepts
  b.require accepts
  if a.ty.same b.ty || (a.ty.isNumber && b.ty.isNumber) then return of .bool
  else .fault .mismatchedTypes

/-- Checks two texts. -/
def checkTexts (a b : Known) : Checked Known := do
  a.require (isA .text)
  b.require (isA .text)
  return of .bool

/-- Checks two operands of an operation on numbers; sums, differences and products of constants are
constants. -/
def checkArithmetic (op : Arithmetic) (a b : Known) : Checked Known := do
  let onReals := op == .add || op == .sub || op == .mul || op == .div
  let accepts : Ty → Bool := if onReals then Ty.isNumber else isA .integer
  a.require accepts
  b.require accepts
  if isA .integer a.ty && isA .integer b.ty then
    match op, a.constant, b.constant with
    | .add, some x, some y => folded (x.toInt + y.toInt)
    | .sub, some x, some y => folded (x.toInt - y.toInt)
    | .mul, some x, some y => folded (x.toInt * y.toInt)
    | .shiftLeft, _, some y => if y < 0 then .fault .negativeNumber else return of .integer
    | .shiftRight, _, some y => if y < 0 then .fault .negativeNumber else return of .integer
    | _, _, _ => return of .integer
  else return of .real

/-- Checks a sign. -/
def checkSign (k : Known) : Checked Known := do
  k.require Ty.isNumber
  match k.constant with
  | some x => folded (-x.toInt)
  | none => return of k.ty

/-- Checks a field of a record. -/
def checkField (k : Known) (n : String) : Checked Known :=
  match k.ty with
  | .record fields =>
    match fields.lookup n with
    | some ty => .ok (of ty)
    | none => .fault .unknownField
  | _ => .fault .wrongType

/-- Checks an item of a list or a dictionary. -/
def checkItem (k index : Known) : Checked Known := do
  match k.ty with
  | .list ty => index.require (isA .integer); return of ty
  | .dictionary ty => index.require (isA .text); return of ty
  | _ => .fault .wrongType

/-- Checks a call. -/
def checkCall (f : Known) (args : List Known) : Checked Known :=
  match f.ty with
  | .function forms =>
    match forms.find? fun (tys, _) => Ty.sameAll tys (args.map (·.ty)) with
    | some (_, result) => .ok (of result)
    | none => .fault .wrongArguments
  | _ => .fault .wrongType

/-- Checks that values between commas are of one type. -/
def checkAlike : List Known → Checked Ty
  | [] => .fault .malformed
  | k :: rest =>
    if rest.all fun other => k.ty.same other.ty then .ok k.ty else .fault .mismatchedTypes

end Known

/-! ## Conditions -/

mutual

/-- What is known of a part of a condition. -/
def Expr.check (s : Scope) : Expr → Checked Known
  | .bool _ => .ok (.of .bool)
  | .integer i => .ok ⟨.integer, some i⟩
  | .real _ => .ok (.of .real)
  | .text _ => .ok (.of .text)
  | .regex r => do
    let _ ← (r.read s.options false).mapError Refusal.fault
    return .of .regex
  | .filesize => .ok (.of .integer)
  | .name n => return .of (← s.typeOf n)
  | .field e n => do (← e.check s).checkField n
  | .item e index => do
    let k ← e.check s
    k.checkItem (← index.check s)
  | .call f args => do
    let k ← f.check s
    k.checkCall (← checkAll s args)
  | .neg e => do (← e.check s).checkSign
  | .complement e => do
    (← e.check s).require (Known.isA .integer)
    return .of .integer
  | .not e => do
    (← e.check s).asCondition
    return .of .bool
  | .defined e => do
    let _ ← e.check s
    return .of .bool
  | .and left right => do
    (← left.check s).asCondition
    (← right.check s).asCondition
    return .of .bool
  | .or left right => do
    (← left.check s).asCondition
    (← right.check s).asCondition
    return .of .bool
  | .arithmetic op left right => do
    let a ← left.check s
    a.checkArithmetic op (← right.check s)
  | .compare op left right => do
    let a ← left.check s
    a.checkComparison op (← right.check s)
  | .textTest _ _ left right => do
    let a ← left.check s
    a.checkTexts (← right.check s)
  | .matches left right => do
    let a ← left.check s
    let b ← right.check s
    a.require (Known.isA .text)
    b.require (Known.isA .regex)
    return .of .bool
  | .found p place => do
    p.check s
    place.check s
    return .of .bool
  | .count p place => do
    p.check s
    place.check s
    return .of .integer
  | .offset p index => do
    p.check s
    (← index.check s).asNumberIn 1 Int64.maxValue
    return .of .integer
  | .length p index => do
    p.check s
    (← index.check s).asNumberIn 1 Int64.maxValue
    return .of .integer
  | .ofPatterns q set place => do
    q.check s
    set.check s
    place.check s
    return .of .bool
  | .ofConditions q conditions => do
    q.check s
    for k in ← checkAll s conditions do
      k.asCondition
    return .of .bool
  | .forPatterns q set body => do
    q.check s
    set.check s
    (← body.check { s with hasCurrent := true }).asCondition
    return .of .bool
  | .forEach q vars domain body => do
    q.check s
    let tys ← domain.check s
    if tys.length ≠ vars.length then throw (.fault .wrongVariableCount)
    (← body.check (s.withLocals vars tys)).asCondition
    return .of .bool
  | .letIn vars values body => do
    let tys := (← checkAll s values).map (·.ty)
    (← body.check (s.withLocals vars tys)).asCondition
    return .of .bool

/-- What is known of some parts. -/
def checkAll (s : Scope) : List Expr → Checked (List Known)
  | [] => .ok []
  | e :: rest => do
    let k ← e.check s
    return k :: (← checkAll s rest)

/-- Checks where a pattern is looked for. -/
def Place.check (s : Scope) : Place → Checked Unit
  | .anywhere => .ok ()
  | .at offset => do (← offset.check s).asSize
  | .within low high => do
    let l ← low.check s
    l.asSize
    let h ← high.check s
    h.asSize
    l.asRange h

/-- Checks how many of some things must hold. -/
def Quantifier.check (s : Scope) : Quantifier → Checked Unit
  | .all => .ok ()
  | .any => .ok ()
  | .none => .ok ()
  | .count e => do (← e.check s).asSize
  | .percent e => do (← e.check s).asNumberIn 0 100

/-- The types of the variables of a loop. -/
def Iterable.check (s : Scope) : Iterable → Checked (List Ty)
  | .range low high => do
    let l ← low.check s
    l.asSize
    let h ← high.check s
    h.asSize
    l.asRange h
    return [.integer]
  | .items es => do return [← Known.checkAlike (← checkAll s es)]
  | .members e => do
    match (← e.check s).ty with
    | .list ty => return [ty]
    | .dictionary ty => return [.text, ty]
    | _ => .fault .wrongType

end

/-! ## Patterns that are used -/

/-- The patterns that a place between patterns uses, as globs. -/
def PatternRef.globs : PatternRef → List PatternGlob
  | some name => [⟨name, false⟩]
  | none => []

/-- The patterns to choose from, as globs. -/
def PatternSet.globs : PatternSet → List PatternGlob
  | them => [⟨"$", true⟩]
  | chosen globs => globs

mutual

/-- The patterns that a condition uses. -/
def Expr.globs : Expr → List PatternGlob
  | .bool _ => []
  | .integer _ => []
  | .real _ => []
  | .text _ => []
  | .regex _ => []
  | .filesize => []
  | .name _ => []
  | .field e _ => e.globs
  | .item e index => e.globs ++ index.globs
  | .call f args => f.globs ++ globsOfAll args
  | .neg e => e.globs
  | .complement e => e.globs
  | .not e => e.globs
  | .defined e => e.globs
  | .and left right => left.globs ++ right.globs
  | .or left right => left.globs ++ right.globs
  | .arithmetic _ left right => left.globs ++ right.globs
  | .compare _ left right => left.globs ++ right.globs
  | .textTest _ _ left right => left.globs ++ right.globs
  | .matches left right => left.globs ++ right.globs
  | .found p place => p.globs ++ place.globs
  | .count p place => p.globs ++ place.globs
  | .offset p index => p.globs ++ index.globs
  | .length p index => p.globs ++ index.globs
  | .ofPatterns q set place => q.globs ++ set.globs ++ place.globs
  | .ofConditions q conditions => q.globs ++ globsOfAll conditions
  | .forPatterns q set body => q.globs ++ set.globs ++ body.globs
  | .forEach q _ domain body => q.globs ++ domain.globs ++ body.globs
  | .letIn _ values body => globsOfAll values ++ body.globs

/-- The patterns that some conditions use. -/
def globsOfAll : List Expr → List PatternGlob
  | [] => []
  | e :: rest => e.globs ++ globsOfAll rest

/-- The patterns that a place uses. -/
def Place.globs : Place → List PatternGlob
  | .anywhere => []
  | .at offset => offset.globs
  | .within low high => low.globs ++ high.globs

/-- The patterns that a number of things uses. -/
def Quantifier.globs : Quantifier → List PatternGlob
  | .all => []
  | .any => []
  | .none => []
  | .count e => e.globs
  | .percent e => e.globs

/-- The patterns that the range of a loop uses. -/
def Iterable.globs : Iterable → List PatternGlob
  | .range low high => low.globs ++ high.globs
  | .items es => globsOfAll es
  | .members e => e.globs

end

end RuleScan.Rules
