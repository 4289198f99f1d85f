import RuleScan.Rules.PatternReader

/-!
# Reading sources

A source is a sequence of imports, includes and rules. A part that cannot be read is passed over up
to the next word that starts one, so that what stands before and after it still counts.
-/

namespace RuleScan.Rules

/-! ## Metadata -/

/-- The negative of a signed word. -/
def negatedWord (i : Int64) : Int64 := -i

/-- Takes the value of a metadata entry. -/
def takeMetaValue : Parse MetaValue := do
  match ← takeNext with
  | .integer value => return .integer (← value)
  | .real x => return .real x
  | .text value _ => return .text (← value)
  | .word "true" => return .bool true
  | .word "false" => return .bool false
  | .symbol "-" =>
    match ← takeNext with
    | .integer value => return .integer (negatedWord (← value))
    | .real x => return .real (-x)
    | _ => refuse
  | _ => refuse

/-- Takes metadata entries as long as names are next. -/
def takeMetadata : (fuel : Nat) → Parse (List (String × MetaValue))
  | 0 => return []
  | fuel + 1 => do
    match ← peekToken with
    | .word w =>
      if keywords.contains w then return []
      let _ ← takeNext
      expectSymbol "="
      let value ← takeMetaValue
      return (w, value) :: (← takeMetadata fuel)
    | _ => return []

/-! ## Rules -/

/-- Takes names as long as they are next. -/
def takeTags : (fuel : Nat) → Parse (List String)
  | 0 => return []
  | fuel + 1 => do
    match ← peekToken with
    | .word w =>
      if keywords.contains w then return []
      let _ ← takeNext
      return w :: (← takeTags fuel)
    | _ => return []

/-- Takes the parts of a section that must not be empty. -/
def takeSection (heading : String) (parts : Parse (List α)) : Parse (List α) := do
  if !(← takesWord heading) then return []
  expectSymbol ":"
  let found ← parts
  if found.isEmpty then refuse
  return found

/-- Takes a rule after the words before its name. -/
def takeRule (isGlobal isPrivate : Bool) : Parse Item := do
  let name ← takeName
  let fuel := (← get).length + 1
  let tags ← if ← takesSymbol ":" then do
      let tags ← takeTags fuel
      if tags.isEmpty then refuse
      pure tags
    else pure []
  expectSymbol "\x7b"
  let metadata ← takeSection "meta" (takeMetadata fuel)
  let patterns ← takeSection "strings" (takePatterns fuel)
  expectWord "condition"
  expectSymbol ":"
  let condition ← readCondition
  expectSymbol "\x7d"
  return .rule { name, isGlobal, isPrivate, tags, metadata, patterns, condition }

/-- Takes the words before the name of a rule, and the rule. -/
def takeRuleAfter : (fuel : Nat) → (isGlobal isPrivate : Bool) → Parse Item
  | 0, _, _ => refuse
  | fuel + 1, isGlobal, isPrivate => do
    match ← takeNext with
    | .word "rule" => takeRule isGlobal isPrivate
    | .word "global" => if isGlobal then refuse else takeRuleAfter fuel true isPrivate
    | .word "private" => if isPrivate then refuse else takeRuleAfter fuel isGlobal true
    | _ => refuse

/-- Takes the name of a module or a file. -/
def takePlainText : Parse String := do
  match ← takeNext with
  | .text value plain =>
    if !plain then throw .unexpectedEscape
    return (String.fromUTF8? (← value)).getD ""
  | _ => refuse

/-- Takes a part of a source. -/
def takeItem : Parse Item := do
  match ← peekToken with
  | .word "import" => let _ ← takeNext; return .module (← takePlainText)
  | .word "include" => let _ ← takeNext; return .file (← takePlainText)
  | _ => takeRuleAfter 3 false false

/-! ## Sources -/

/-- Whether a token starts a part of a source. -/
def Token.startsItem : Token → Bool
  | word w => ["import", "include", "rule", "global", "private"].contains w
  | _ => false

/-- The source from the next token on that starts a part or ends it. -/
def recover : (fuel : Nat) → List Char → List Char
  | 0, _ => []
  | fuel + 1, cs =>
    match nextToken cs with
    | (.ended, _) => []
    | (token, rest) =>
      if token.startsItem then cs
      -- A stray character is passed over by itself.
      else if rest.length < cs.length then recover fuel rest
      else recover fuel cs.tail

/-- Reads the parts of a source; those read so far and their faults are given last first. -/
def readItems : (fuel : Nat) → List Item → List Fault → List Char → Source
  | 0, items, faults, _ => ⟨items.reverse, faults.reverse⟩
  | fuel + 1, items, faults, cs =>
    match nextToken cs with
    | (.ended, _) => ⟨items.reverse, faults.reverse⟩
    | (_, rest) =>
      match takeItem.run cs with
      | .ok (item, rest) => readItems fuel (item :: items) faults rest
      | .error e =>
        let rest := if rest.length < cs.length then rest else cs.tail
        readItems fuel items (e :: faults) (recover (rest.length + 1) rest)

/-- Reads a source. -/
def Source.read (text : String) : Source :=
  let cs := text.toList
  readItems (cs.length + 1) [] [] cs

end RuleScan.Rules
