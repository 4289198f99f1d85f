import RuleScan.Rules.Typing
import RuleScan.Unicode.Query

/-!
# The meaning of conditions

What a condition stands for on a buffer. A part without a value is undefined (`none`): an operation
on something undefined is undefined, but where a truth value is needed it counts as false.
Conditions whose types were checked are undefined only where the buffer makes them so.
-/

namespace RuleScan.Rules

open RuleScan.Text

/-- What a condition is about: a buffer, and what was found out about it. -/
structure Surroundings where
  data : ByteArray
  options : CompileOptions
  /-- The values of names from outside: rules and external variables. -/
  names : List (String × Val)
  /-- The patterns of the rule with their hits. -/
  patterns : List (String × List Hit)
  /-- The hits of the current pattern of a loop. -/
  current : List Hit := []
  /-- The values of names from inside the condition, the newest first. -/
  locals : List (String × Option Val) := []

/-- Whether something holds; what is undefined does not. -/
def holds (v : Option Val) : Bool := v.any Val.truth

/-! ## Operations -/

/-- An operation on whole numbers. Shifts by more than all bits give zero. -/
def Arithmetic.onIntegers (op : Arithmetic) (a b : Int64) : Option Int64 :=
  match op with
  | add => some (a + b)
  | sub => some (a - b)
  | mul => some (a * b)
  | div => if b = 0 then none else some (a / b)
  | mod => if b = 0 then none else some (a % b)
  | bitAnd => some (a &&& b)
  | bitOr => some (a ||| b)
  | bitXor => some (a ^^^ b)
  | shiftLeft => some (if b < 64 then a <<< b else 0)
  | shiftRight => some (if b < 64 then a >>> b else 0)

/-- An operation on real numbers. -/
def Arithmetic.onReals (op : Arithmetic) (a b : Float) : Option Float :=
  match op with
  | add => some (a + b)
  | sub => some (a - b)
  | mul => some (a * b)
  | div => some (a / b)
  | _ => none

/-- An operation on two numbers, which are real if one of them is. -/
def Arithmetic.apply (op : Arithmetic) : Val → Val → Option Val
  | .integer a, .integer b => (op.onIntegers a b).map .integer
  | a, b => do return .real (← op.onReals (← a.toReal?) (← b.toReal?))

/-- A comparison by an order and an equality. -/
def Comparison.on (op : Comparison) (before same : α → α → Bool) (a b : α) : Bool :=
  match op with
  | eq => same a b
  | ne => !same a b
  | lt => before a b
  | le => before a b || same a b
  | gt => before b a
  | ge => before b a || same a b

/-- A comparison of two values. -/
def Comparison.apply (op : Comparison) : Val → Val → Option Val
  | .integer a, .integer b => some (.bool (op.on (· < ·) (· == ·) a b))
  | .text a, .text b => some (.bool (op.on textBefore sameBytes a b))
  | .bool a, .bool b => some (.bool (op.on (!· && ·) (· == ·) a b))
  | .bool a, .integer b => some (.bool (op.on (!· && ·) (· == ·) a (b != 0)))
  | .integer a, .bool b => some (.bool (op.on (!· && ·) (· == ·) (a != 0) b))
  | a, b => do return .bool (op.on (· < ·) (· == ·) (← a.toReal?) (← b.toReal?))

/-- A character that stands for all that differ from it only in case. -/
def foldChar (c : Char) : Char :=
  if c.toNat < 128 then c.toLower
  else match Unicode.orbits.find? (·.contains c.toNat) with
    | some (_ :: lower :: _) => Char.ofNat lower
    | _ => c

/-- A text in which case makes no difference. -/
def foldText (s : ByteArray) : ByteArray :=
  match String.fromUTF8? s with
  | some text => (text.map foldChar).toUTF8
  | none => ⟨s.data.map lowerByte⟩

/-- A test of two texts. -/
def TextTest.apply (test : TextTest) (ignoreCase : Bool) (a b : ByteArray) : Bool :=
  let a := if ignoreCase then foldText a else a
  let b := if ignoreCase then foldText b else b
  match test with
  | contains => containsBytes a b
  | startsWith => occursAt a b 0
  | endsWith => b.size ≤ a.size && occursAt a b (a.size - b.size)
  | equals => sameBytes a b

/-- Whether a regular expression matches somewhere in a text. -/
def RegexText.matchesIn (o : CompileOptions) (r : RegexText) (s : ByteArray) : Bool :=
  match r.read o false with
  | .ok (e, _) => ((Regex.Program.ofExpr e).find s 0).isSome
  | .error _ => false

/-! ## Patterns -/

namespace Surroundings

/-- The hits of a pattern. -/
def hitsOf (c : Surroundings) : PatternRef → List Hit
  | some name => (c.patterns.lookup name).getD []
  | none => c.current

/-- The hits of the patterns to choose from, one list for each. -/
def chosen (c : Surroundings) (set : PatternSet) : List (List Hit) :=
  (c.patterns.filter fun p => set.covers p.1).map (·.2)

/-- Surroundings with further names from inside the condition, the last of which counts first. -/
def withLocals (c : Surroundings) (vars : List String) (values : List (Option Val)) :
    Surroundings :=
  { c with locals := (vars.zip values).reverse ++ c.locals }

/-- The value of a name. -/
def valueOf (c : Surroundings) (n : String) : Option Val :=
  match c.locals.lookup n with
  | some v => v
  | none => c.names.lookup n

end Surroundings

/-- A number of things as a value. -/
def countVal (n : Nat) : Val := .integer (Int64.ofNat n)

/-- The hit of a number, the first one having number one. -/
def hitNumber? (hits : List Hit) (number : Int64) : Option Hit :=
  if 1 ≤ number then hits[number.toInt.toNat - 1]? else none

/-- The hits that start in a range. -/
def hitsWithin (hits : List Hit) (low high : Int64) : List Hit :=
  hits.filter fun h => low.toInt ≤ h.offset && (h.offset : Int) ≤ high.toInt

/-- The whole number that a value is. -/
def integer? : Option Val → Option Int64
  | some (.integer i) => some i
  | _ => none

/-! ## How many -/

/-- How many things must hold. -/
inductive Demand
  | all
  | any
  | none
  | atLeast (n : Int64)

/-- Whether as many of some things hold as are demanded. -/
def Demand.met (d : Demand) (outcomes : List Bool) : Bool :=
  let count := (outcomes.filter id).length
  match d with
  | all => count = outcomes.length
  | any => 0 < count
  | none => count = 0
  | atLeast n => if n = 0 then count = 0 else n.toInt ≤ count

/-- The least number of things that is a percentage of all, rounded up. -/
def shareOf (percent : Int64) (total : Nat) : Int64 :=
  Int64.ofInt (-((-(percent.toInt * total)) / 100))

/-! ## Conditions -/

/-- The names that a field or a name is reached by. -/
def Expr.path : Expr → List String
  | .name n => [n]
  | .field e n => e.path ++ [n]
  | _ => []

/-- The value of a function at some values. -/
def callFunction (data : ByteArray) (path : List String) (args : List Val) : Option Val :=
  match path with
  | [name] => callReader data name args
  | path => callModule data path args

/-- The whole numbers from `low` on, so many. -/
def numbersFrom (low : Int) : (count : Nat) → List (Option Val)
  | 0 => []
  | count + 1 => some (.integer (Int64.ofInt low)) :: numbersFrom (low + 1) count

mutual

/-- The value of a part of a condition. -/
def Expr.eval (c : Surroundings) : Expr → Option Val
  | .bool b => some (.bool b)
  | .integer i => some (.integer i)
  | .real x => some (.real x)
  | .text s => some (.text s)
  | .regex _ => none
  | .filesize => some (countVal c.data.size)
  | .name n => c.valueOf n
  | .field e n => memberValue (e.path ++ [n])
  | .item _ _ => none
  | .call f args => do callFunction c.data f.path (← (evalAll c args).mapM id)
  | .neg e =>
    match e.eval c with
    | some (.integer i) => some (.integer (-i))
    | some (.real x) => some (.real (-x))
    | _ => none
  | .complement e => (integer? (e.eval c)).map fun i => .integer (~~~i)
  | .not e => (e.eval c).map fun v => .bool !v.truth
  | .defined e => some (.bool (e.eval c).isSome)
  | .and left right => some (.bool (holds (left.eval c) && holds (right.eval c)))
  | .or left right => some (.bool (holds (left.eval c) || holds (right.eval c)))
  | .arithmetic op left right => do op.apply (← left.eval c) (← right.eval c)
  | .compare op left right => do op.apply (← left.eval c) (← right.eval c)
  | .textTest test ignoreCase left right =>
    match left.eval c, right.eval c with
    | some (.text a), some (.text b) => some (.bool (test.apply ignoreCase a b))
    | _, _ => none
  | .matches left right =>
    match left.eval c, right with
    | some (.text s), .regex r => some (.bool (r.matchesIn c.options s))
    | _, _ => none
  | .found p place => (place.hits c (c.hitsOf p)).map fun hits => .bool !hits.isEmpty
  | .count p place => (place.hits c (c.hitsOf p)).map fun hits => countVal hits.length
  | .offset p index => do
    let hit ← hitNumber? (c.hitsOf p) (← integer? (index.eval c))
    return countVal hit.offset
  | .length p index => do
    let hit ← hitNumber? (c.hitsOf p) (← integer? (index.eval c))
    return countVal hit.length
  | .ofPatterns q set place => do
    let outcomes := (c.chosen set).map fun hits =>
      (place.hits c hits).any fun found => !found.isEmpty
    return .bool ((← q.demand c outcomes.length).met outcomes)
  | .ofConditions q conditions => do
    let outcomes := (evalAll c conditions).map holds
    return .bool ((← q.demand c outcomes.length).met outcomes)
  | .forPatterns q set body => do
    let outcomes := (c.chosen set).map fun hits => holds (body.eval { c with current := hits })
    return .bool ((← q.demand c outcomes.length).met outcomes)
  | .forEach q vars domain body => do
    let outcomes := (domain.turns c).map fun values => holds (body.eval (c.withLocals vars values))
    let demand ← q.demand c outcomes.length
    return .bool (!outcomes.isEmpty && demand.met outcomes)
  | .letIn vars values body =>
    some (.bool (holds (body.eval (c.withLocals vars (evalAll c values)))))

/-- The values of some parts. -/
def evalAll (c : Surroundings) : List Expr → List (Option Val)
  | [] => []
  | e :: rest => e.eval c :: evalAll c rest

/-- Those of some hits that are at a place. -/
def Place.hits (c : Surroundings) (hits : List Hit) : Place → Option (List Hit)
  | .anywhere => some hits
  | .at offset => do
    let i ← integer? (offset.eval c)
    return hitsWithin hits i i
  | .within low high => do
    return hitsWithin hits (← integer? (low.eval c)) (← integer? (high.eval c))

/-- How many of `total` things must hold. -/
def Quantifier.demand (c : Surroundings) (total : Nat) : Quantifier → Option Demand
  | .all => some .all
  | .any => some .any
  | .none => some .none
  | .count e => (integer? (e.eval c)).map .atLeast
  | .percent e => (integer? (e.eval c)).map fun p => .atLeast (shareOf p total)

/-- The values of the variables of a loop, once for each turn. -/
def Iterable.turns (c : Surroundings) : Iterable → List (List (Option Val))
  | .range low high =>
    match integer? (low.eval c), integer? (high.eval c) with
    | some l, some h => (numbersFrom l.toInt (h.toInt + 1 - l.toInt).toNat).map ([·])
    | _, _ => []
  | .items es => (evalAll c es).map ([·])
  | .members _ => []

end

end RuleScan.Rules
