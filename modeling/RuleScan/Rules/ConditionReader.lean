import RuleScan.Rules.Token

/-!
# Reading conditions

A reader by recursive descent. What it reads is a value or a condition (`Operand.isValue`): only
values may be operands of arithmetic and comparisons, and a condition in parentheses stays one. From
weakest to strongest bind `or`, `and`, `not` and `defined`, comparisons, the arithmetic operations
of `levels`, signs, and fields, items and calls.
-/

namespace RuleScan.Rules

/-- Reads something off the front of a source. -/
abbrev Parse := StateT (List Char) (Except Fault)

/-! ## Single tokens -/

/-- The next token, which stays. -/
def peekToken : Parse Token := do return (nextToken (← get)).1

/-- The next token, which is taken. -/
def takeNext : Parse Token := do
  let (token, rest) := nextToken (← get)
  set rest
  return token

/-- The source does not follow the grammar. -/
def refuse : Parse α := throw .malformed

/-- Takes a symbol if it is next, and says whether it was. -/
def takesSymbol (s : String) : Parse Bool := do
  match ← peekToken with
  | .symbol t => if t = s then do let _ ← takeNext; return true else return false
  | _ => return false

/-- Takes a word if it is next, and says whether it was. -/
def takesWord (w : String) : Parse Bool := do
  match ← peekToken with
  | .word t => if t = w then do let _ ← takeNext; return true else return false
  | _ => return false

/-- Takes a symbol that must be next. -/
def expectSymbol (s : String) : Parse Unit := do
  if !(← takesSymbol s) then refuse

/-- Takes a word that must be next. -/
def expectWord (w : String) : Parse Unit := do
  if !(← takesWord w) then refuse

/-- Takes a name. -/
def takeName : Parse String := do
  match ← takeNext with
  | .word w => if keywords.contains w then refuse else return w
  | _ => refuse

/-- Takes names between commas. -/
def takeNames : (fuel : Nat) → Parse (List String)
  | 0 => refuse
  | fuel + 1 => do
    let first ← takeName
    if ← takesSymbol "," then return first :: (← takeNames fuel) else return [first]

/-- The name of a pattern with its dollar sign, if it is named. -/
def patternRef (name : String) : PatternRef := if name = "" then none else some ("$" ++ name)

/-- Takes chosen patterns between commas, up to a closing parenthesis. -/
def takeGlobs : (fuel : Nat) → Parse (List PatternGlob)
  | 0 => refuse
  | fuel + 1 => do
    match ← takeNext with
    | .pattern name =>
      let starred ← takesSymbol "*"
      let glob : PatternGlob := ⟨"$" ++ name, starred⟩
      if ← takesSymbol "," then return glob :: (← takeGlobs fuel)
      expectSymbol ")"
      return [glob]
    | _ => refuse

/-! ## Operators -/

/-- What was read, and whether it is a value and no condition. -/
structure Operand where
  expr : Expr
  isValue : Bool

/-- The expression of an operand that must be a value. -/
def Operand.value (o : Operand) : Parse Expr := if o.isValue then return o.expr else refuse

/-- The arithmetic operations from the weakest level to the strongest. -/
def levels : List (List (String × Arithmetic)) :=
  [[("|", .bitOr)], [("^", .bitXor)], [("&", .bitAnd)], [("<<", .shiftLeft), (">>", .shiftRight)],
   [("+", .add), ("-", .sub)], [("*", .mul), ("\\", .div), ("%", .mod)]]

/-- What a name or a symbol between two values makes of them. -/
def comparisonOf : Token → Option (Expr → Expr → Expr)
  | .symbol "==" => some (.compare .eq)
  | .symbol "!=" => some (.compare .ne)
  | .symbol "<" => some (.compare .lt)
  | .symbol "<=" => some (.compare .le)
  | .symbol ">" => some (.compare .gt)
  | .symbol ">=" => some (.compare .ge)
  | .word "contains" => some (.textTest .contains false)
  | .word "icontains" => some (.textTest .contains true)
  | .word "startswith" => some (.textTest .startsWith false)
  | .word "istartswith" => some (.textTest .startsWith true)
  | .word "endswith" => some (.textTest .endsWith false)
  | .word "iendswith" => some (.textTest .endsWith true)
  | .word "iequals" => some (.textTest .equals true)
  | .word "matches" => some .matches
  | _ => none

/-- The operation at one level that is next. A percent sign before `of` is none. -/
def arithmeticAt (level : List (String × Arithmetic)) : Parse (Option Arithmetic) := do
  let (token, rest) := nextToken (← get)
  match token with
  | .symbol s =>
    match (nextToken rest).1 with
    | .word "of" => return none
    | _ => return (level.find? (·.1 = s)).map (·.2)
  | _ => return none

/-- Takes a percent sign before `of`, and says whether it was there. -/
def takesPercent : Parse Bool := do
  let (token, rest) := nextToken (← get)
  match token, (nextToken rest).1 with
  | .symbol "%", .word "of" => set rest; return true
  | _, _ => return false

/-! ## The reader -/

mutual

/-- Conditions joined by `or`. -/
def readOr : (fuel : Nat) → Parse Operand
  | 0 => refuse
  | fuel + 1 => do readOrMore fuel (← readAnd fuel)

/-- Further conditions after `or`. -/
def readOrMore : (fuel : Nat) → Operand → Parse Operand
  | 0, _ => refuse
  | fuel + 1, left => do
    if ← takesWord "or" then
      let right ← readAnd fuel
      readOrMore fuel ⟨.or left.expr right.expr, false⟩
    else return left

/-- Conditions joined by `and`. -/
def readAnd : (fuel : Nat) → Parse Operand
  | 0 => refuse
  | fuel + 1 => do readAndMore fuel (← readTerm fuel)

/-- Further conditions after `and`. -/
def readAndMore : (fuel : Nat) → Operand → Parse Operand
  | 0, _ => refuse
  | fuel + 1, left => do
    if ← takesWord "and" then
      let right ← readTerm fuel
      readAndMore fuel ⟨.and left.expr right.expr, false⟩
    else return left

/-- A single condition. -/
def readTerm : (fuel : Nat) → Parse Operand
  | 0 => refuse
  | fuel + 1 => do
    let start ← get
    match ← takeNext with
    | .pattern name => return ⟨.found (patternRef name) (← readPlace fuel), false⟩
    | .word "true" => return ⟨.bool true, false⟩
    | .word "false" => return ⟨.bool false, false⟩
    | .word "not" => return ⟨.not (← readTerm fuel).expr, false⟩
    | .word "defined" => return ⟨.defined (← readTerm fuel).expr, false⟩
    | .word "for" => return ⟨← readFor fuel, false⟩
    | .word "with" => return ⟨← readWith fuel [] [], false⟩
    | .word "all" => expectWord "of"; return ⟨← readOf fuel .all, false⟩
    | .word "any" => expectWord "of"; return ⟨← readOf fuel .any, false⟩
    | .word "none" => expectWord "of"; return ⟨← readOf fuel .none, false⟩
    | _ => set start; readComparison fuel

/-- Where a pattern is looked for. -/
def readPlace : (fuel : Nat) → Parse Place
  | 0 => refuse
  | fuel + 1 => do
    if ← takesWord "at" then return .at (← readValue fuel)
    if ← takesWord "in" then
      let (low, high) ← readRange fuel
      return .within low high
    return .anywhere

/-- A range between parentheses. -/
def readRange : (fuel : Nat) → Parse (Expr × Expr)
  | 0 => refuse
  | fuel + 1 => do
    expectSymbol "("
    let low ← readValue fuel
    expectSymbol ".."
    let high ← readValue fuel
    expectSymbol ")"
    return (low, high)

/-- Patterns or conditions to choose from, after `of`. -/
def readOf : (fuel : Nat) → Quantifier → Parse Expr
  | 0, _ => refuse
  | fuel + 1, q => do
    if ← takesWord "them" then return .ofPatterns q .them (← readPlace fuel)
    expectSymbol "("
    match ← peekToken with
    | .pattern _ =>
      let globs ← takeGlobs fuel
      return .ofPatterns q (.chosen globs) (← readPlace fuel)
    | _ => return .ofConditions q (← readConditions fuel)

/-- Conditions between commas, up to a closing parenthesis. -/
def readConditions : (fuel : Nat) → Parse (List Expr)
  | 0 => refuse
  | fuel + 1 => do
    let first ← readOr fuel
    if ← takesSymbol "," then return first.expr :: (← readConditions fuel)
    expectSymbol ")"
    return [first.expr]

/-- How many of some things must hold, in a loop. -/
def readQuantifier : (fuel : Nat) → Parse Quantifier
  | 0 => refuse
  | fuel + 1 => do
    if ← takesWord "all" then return .all
    if ← takesWord "any" then return .any
    if ← takesWord "none" then return .none
    let n ← readValue fuel
    if ← takesSymbol "%" then return .percent n else return .count n

/-- A loop, after `for`. -/
def readFor : (fuel : Nat) → Parse Expr
  | 0 => refuse
  | fuel + 1 => do
    let q ← readQuantifier fuel
    if ← takesWord "of" then
      let set ← if ← takesWord "them" then pure PatternSet.them else do
        expectSymbol "("
        pure (.chosen (← takeGlobs fuel))
      return .forPatterns q set (← readBody fuel)
    else
      let vars ← takeNames fuel
      expectWord "in"
      let domain ← readIterable fuel
      return .forEach q vars domain (← readBody fuel)

/-- The condition of a loop between parentheses, after a colon. -/
def readBody : (fuel : Nat) → Parse Expr
  | 0 => refuse
  | fuel + 1 => do
    expectSymbol ":"
    expectSymbol "("
    let body ← readOr fuel
    expectSymbol ")"
    return body.expr

/-- What a loop runs over: a range, a list of values, or the members of a value. -/
def readIterable : (fuel : Nat) → Parse Iterable
  | 0 => refuse
  | fuel + 1 => do
    if ← takesSymbol "(" then
      let first ← readValue fuel
      if ← takesSymbol ".." then
        let high ← readValue fuel
        expectSymbol ")"
        return .range first high
      else if ← takesSymbol "," then return .items (first :: (← readArguments fuel))
      else
        expectSymbol ")"
        return .items [first]
    else return .members (← readValue fuel)

/-- Values between commas, up to a closing parenthesis. -/
def readArguments : (fuel : Nat) → Parse (List Expr)
  | 0 => refuse
  | fuel + 1 => do
    let first ← readValue fuel
    if ← takesSymbol "," then return first :: (← readArguments fuel)
    expectSymbol ")"
    return [first]

/-- Names for values, after `with`; those read so far are given last first. -/
def readWith : (fuel : Nat) → List String → List Expr → Parse Expr
  | 0, _, _ => refuse
  | fuel + 1, vars, values => do
    let name ← takeName
    expectSymbol "="
    let value ← readValue fuel
    if ← takesSymbol "," then readWith fuel (name :: vars) (value :: values)
    else return .letIn (name :: vars).reverse (value :: values).reverse (← readBody fuel)

/-- A value. -/
def readValue : (fuel : Nat) → Parse Expr
  | 0 => refuse
  | fuel + 1 => do (← readArithmetic fuel levels).value

/-- A value, or values with comparisons between them, or a value that counts. -/
def readComparison : (fuel : Nat) → Parse Operand
  | 0 => refuse
  | fuel + 1 => do
    let first ← readArithmetic fuel levels
    if ← takesPercent then
      let n ← first.value
      expectWord "of"
      return ⟨← readOf fuel (.percent n), false⟩
    if ← takesWord "of" then return ⟨← readOf fuel (.count (← first.value)), false⟩
    readComparisonMore fuel first

/-- Further comparisons. -/
def readComparisonMore : (fuel : Nat) → Operand → Parse Operand
  | 0, _ => refuse
  | fuel + 1, left => do
    match comparisonOf (← peekToken) with
    | none => return left
    | some join =>
      let _ ← takeNext
      let l ← left.value
      let r ← readValue fuel
      -- The outcome may be compared again, but is no operand of arithmetic.
      let more ← readComparisonMore fuel ⟨join l r, true⟩
      return { more with isValue := false }

/-- Values joined by the operations of some levels. -/
def readArithmetic : (fuel : Nat) → List (List (String × Arithmetic)) → Parse Operand
  | 0, _ => refuse
  | fuel + 1, [] => readUnary fuel
  | fuel + 1, level :: stronger => do
    readArithmeticMore fuel level stronger (← readArithmetic fuel stronger)

/-- Further values joined by the operations of a level. -/
def readArithmeticMore : (fuel : Nat) → List (String × Arithmetic) →
    List (List (String × Arithmetic)) → Operand → Parse Operand
  | 0, _, _, _ => refuse
  | fuel + 1, level, stronger, left => do
    match ← arithmeticAt level with
    | none => return left
    | some op =>
      let _ ← takeNext
      let l ← left.value
      let r ← (← readArithmetic fuel stronger).value
      readArithmeticMore fuel level stronger ⟨.arithmetic op l r, true⟩

/-- A value after signs. -/
def readUnary : (fuel : Nat) → Parse Operand
  | 0 => refuse
  | fuel + 1 => do
    if ← takesSymbol "-" then return ⟨.neg (← (← readUnary fuel).value), true⟩
    if ← takesSymbol "~" then return ⟨.complement (← (← readUnary fuel).value), true⟩
    readPostfix fuel (← readPrimary fuel)

/-- The fields, items and calls after a value. -/
def readPostfix : (fuel : Nat) → Operand → Parse Operand
  | 0, _ => refuse
  | fuel + 1, left => do
    if ← takesSymbol "." then
      readPostfix fuel ⟨.field (← left.value) (← takeName), true⟩
    else if ← takesSymbol "[" then
      let e ← left.value
      let index ← readValue fuel
      expectSymbol "]"
      readPostfix fuel ⟨.item e index, true⟩
    else
      match left.expr, ← peekToken with
      | .name _, .symbol "(" => readCall fuel left.expr
      | .field _ _, .symbol "(" => readCall fuel left.expr
      | _, _ => return left

/-- A call, before its opening parenthesis. -/
def readCall : (fuel : Nat) → Expr → Parse Operand
  | 0, _ => refuse
  | fuel + 1, f => do
    expectSymbol "("
    if ← takesSymbol ")" then readPostfix fuel ⟨.call f [], true⟩
    else readPostfix fuel ⟨.call f (← readArguments fuel), true⟩

/-- The number of a hit between brackets; the first one if there are none. -/
def readHitIndex : (fuel : Nat) → Parse Expr
  | 0 => refuse
  | fuel + 1 => do
    if ← takesSymbol "[" then
      let index ← readValue fuel
      expectSymbol "]"
      return index
    else return .integer 1

/-- A literal, a name, a pattern's count, offset or length, or something between parentheses. -/
def readPrimary : (fuel : Nat) → Parse Operand
  | 0 => refuse
  | fuel + 1 => do
    match ← takeNext with
    | .integer value => return ⟨.integer (← value), true⟩
    | .real x => return ⟨.real x, true⟩
    | .text value _ => return ⟨.text (← value), true⟩
    | .regex value => return ⟨.regex (← value), true⟩
    | .patternCount name =>
      if ← takesWord "in" then
        let (low, high) ← readRange fuel
        return ⟨.count (patternRef name) (.within low high), true⟩
      return ⟨.count (patternRef name) .anywhere, true⟩
    | .patternOffset name => return ⟨.offset (patternRef name) (← readHitIndex fuel), true⟩
    | .patternLength name => return ⟨.length (patternRef name) (← readHitIndex fuel), true⟩
    | .symbol "(" =>
      let inside ← readOr fuel
      expectSymbol ")"
      return inside
    | .word "filesize" => return ⟨.filesize, true⟩
    | .word w => if keywords.contains w then refuse else return ⟨.name w, true⟩
    | _ => refuse

end

/-- Reads a condition. -/
def readCondition : Parse Expr := do
  let length := (← get).length
  return (← readOr (20 * length + 40)).expr

end RuleScan.Rules
