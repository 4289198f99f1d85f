import RuleScan.Rules.ConditionReader

/-!
# Reading patterns

A pattern is a text, a regular expression, or bytes written in hexadecimal between braces, with
modifiers behind it. Bytes may have unknown halves, be negated, stand in alternatives, and have
jumps between them.
-/

namespace RuleScan.Rules

/-! ## Hexadecimal patterns -/

/-- Passes over blanks and comments. -/
def passHexBlanks (cs : List Char) : Except Fault (List Char) :=
  match passBlanks .outside cs with
  | some rest => .ok rest
  | none => .error .malformed

/-- Whether a character is half of a byte, known or not. -/
def isHexHalf (c : Char) : Bool := isHexDigit c || c = '?'

/-- The value and the mask of half of a byte. -/
def hexHalf (c : Char) : Nat × Nat := if c = '?' then (0, 0) else (valueIn 16 [c], 15)

/-- A byte from its halves. -/
def hexByte (a b : Char) (negated : Bool) : Except Fault HexPart :=
  let (high, highMask) := hexHalf a
  let (low, lowMask) := hexHalf b
  let mask := 16 * highMask + lowMask
  if negated && mask = 0 then .error .invalidPattern
  else .ok (.byte (16 * high + low) mask negated)

/-- The most bytes that a bound of a jump may be. -/
def maxJump : Nat := 65535

/-- Takes a number of a jump, if there is one. -/
def takeJumpNumber (cs : List Char) : Except Fault (Option Nat × List Char) := do
  let (digits, rest) := splitWhile Char.isDigit cs
  let n := valueIn 10 digits
  if n > maxJump then .error .invalidInteger
  else .ok (if digits.isEmpty then none else some n, ← passHexBlanks rest)

/-- A jump of a number of bytes between bounds. One that goes nowhere or backwards is refused. -/
def jumpOf (low : Nat) (high : Option Nat) : Except Fault HexPart :=
  match high with
  | some h =>
    if h < low || h = 0 then .error .invalidPattern else .ok (.jump low (some h))
  | none => .ok (.jump low none)

/-- Takes a jump after its opening bracket. -/
def takeJump (cs : List Char) : Except Fault (HexPart × List Char) := do
  let (low, cs) ← takeJumpNumber (← passHexBlanks cs)
  match low, cs with
  | some n, ']' :: rest => .ok (← jumpOf n (some n), rest)
  | _, '-' :: cs =>
    let (high, cs) ← takeJumpNumber (← passHexBlanks cs)
    match cs with
    | ']' :: rest => .ok (← jumpOf (low.getD 0) high, rest)
    | _ => .error .malformed
  | _, _ => .error .malformed

/-- Whether a part is a jump. -/
def HexPart.isJump : HexPart → Bool
  | jump _ _ => true
  | _ => false

/-- Parts that were read last first, in their order. They must not start or end with a jump. -/
def closeHexParts (parts : List HexPart) : Except Fault (List HexPart) :=
  match parts, parts.getLast? with
  | last :: _, some first =>
    if last.isJump || first.isJump then .error .malformed else .ok parts.reverse
  | _, _ => .error .malformed

mutual

/-- Takes parts up to a character that ends them; those taken so far are given last first. -/
def takeHexParts : (fuel : Nat) → List HexPart → List Char → Except Fault (List HexPart × List Char)
  | 0, _, _ => .error .malformed
  | fuel + 1, done, cs => do
    match ← passHexBlanks cs with
    | '(' :: rest =>
      let (branches, rest) ← takeHexBranches fuel [] rest
      takeHexParts fuel (.choice branches :: done) rest
    | '[' :: rest =>
      let (jump, rest) ← takeJump rest
      takeHexParts fuel (jump :: done) rest
    | '~' :: a :: b :: rest =>
      if isHexHalf a && isHexHalf b then takeHexParts fuel ((← hexByte a b true) :: done) rest
      else .error .malformed
    | a :: rest =>
      if isHexHalf a then
        match rest with
        | b :: rest =>
          if isHexHalf b then takeHexParts fuel ((← hexByte a b false) :: done) rest
          else .error .malformed
        | [] => .error .malformed
      else .ok (← closeHexParts done, a :: rest)
    | [] => .error .malformed

/-- Takes alternatives up to the closing parenthesis. -/
def takeHexBranches : (fuel : Nat) → List (List HexPart) → List Char →
    Except Fault (List (List HexPart) × List Char)
  | 0, _, _ => .error .malformed
  | fuel + 1, done, cs => do
    match ← takeHexParts fuel [] cs with
    | (parts, '|' :: rest) => takeHexBranches fuel (parts :: done) rest
    | (parts, ')' :: rest) => .ok ((parts :: done).reverse, rest)
    | _ => .error .malformed

end

/-- Takes a hexadecimal pattern after its opening brace. -/
def takeHexPattern : Parse (List HexPart) := do
  let cs ← get
  match ← takeHexParts (cs.length + 2) [] cs with
  | (parts, '\x7d' :: rest) => set rest; return parts
  | _ => refuse

/-! ## Modifiers -/

/-- Takes a key of one byte. -/
def takeKey : Parse Nat := do
  match ← takeNext with
  | .integer value =>
    let n := (← value).toInt.toNat
    if n > 255 then throw .invalidInteger
    return n
  | _ => refuse

/-- The keys of a keyed text: one, a range of them, or all. -/
def takeKeys : Parse Modifier := do
  if !(← takesSymbol "(") then return .keyed 0 255
  let low ← takeKey
  let high ← if ← takesSymbol "-" then takeKey else pure low
  expectSymbol ")"
  if high < low then throw .invalidRange
  return .keyed low high

/-- Whether some bytes are an alphabet: sixty-four different characters that can be printed, none of
which fills up. -/
def isAlphabet (s : ByteArray) : Bool :=
  let bytes := s.data.toList
  bytes.length = 64 && bytes.all fun b =>
    32 ≤ b && b < 127 && b != 61 && (bytes.filter (· == b)).length = 1

/-- The alphabet of a text in base64, if it has its own. -/
def takeAlphabet : Parse (Option ByteArray) := do
  if !(← takesSymbol "(") then return none
  match ← takeNext with
  | .text value _ =>
    let alphabet ← value
    expectSymbol ")"
    if !isAlphabet alphabet then throw .invalidAlphabet
    return some alphabet
  | _ => refuse

/-- Takes a modifier, if one is next. -/
def takeModifier : Parse (Option Modifier) := do
  if ← takesWord "ascii" then return some .ascii
  if ← takesWord "wide" then return some .wide
  if ← takesWord "nocase" then return some .ignoreCase
  if ← takesWord "fullword" then return some .fullWord
  if ← takesWord "private" then return some .hidden
  if ← takesWord "xor" then return some (← takeKeys)
  if ← takesWord "base64" then return some (.base64 (← takeAlphabet))
  if ← takesWord "base64wide" then return some (.base64Wide (← takeAlphabet))
  return none

/-- Takes all modifiers, none of which may be repeated. -/
def takeModifiers : (fuel : Nat) → List Modifier → Parse (List Modifier)
  | 0, _ => refuse
  | fuel + 1, done => do
    match ← takeModifier with
    | none => return done.reverse
    | some m =>
      if done.any (·.kind = m.kind) then throw .duplicateModifier
      takeModifiers fuel (m :: done)

/-! ## Patterns -/

/-- Takes what a pattern looks for. -/
def takeSource : Parse PatternSource := do
  match ← takeNext with
  | .text value _ => return .text (← value)
  | .regex value => return .regex (← value)
  | .symbol "\x7b" => return .hex (← takeHexPattern)
  | _ => refuse

/-- Takes a pattern, if one is next. -/
def takePattern : Parse (Option PatternDecl) := do
  match ← peekToken with
  | .pattern name =>
    let _ ← takeNext
    expectSymbol "="
    let source ← takeSource
    return some ⟨"$" ++ name, source, ← takeModifiers 9 []⟩
  | _ => return none

/-- Takes all patterns. -/
def takePatterns : (fuel : Nat) → Parse (List PatternDecl)
  | 0 => return []
  | fuel + 1 => do
    match ← takePattern with
    | none => return []
    | some p => return p :: (← takePatterns fuel)

end RuleScan.Rules
