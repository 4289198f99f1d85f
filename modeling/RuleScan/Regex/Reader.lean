import RuleScan.Regex.Ast
import RuleScan.Regex.Fault
import RuleScan.Unicode.Query

/-!
# Reading regular expressions

A reader by recursive descent. Functions on a single construct take the characters after its opening
and return what they read with the characters left over. White space and comments are skipped
between all parts of a construct while the flag for it is on (`verbose`).
-/

namespace RuleScan.Regex

open RuleScan.Unicode

/-- What a dialect accepts beyond the usual expressions. -/
structure Dialect where
  /-- Whether `x{,3}` counts from zero. -/
  emptyMinimum : Bool := false
  /-- Whether unknown escapes and braces that count nothing stand for themselves. -/
  relaxed : Bool := false
  deriving DecidableEq, Repr

/-- How deep an expression may be nested. -/
def nestLimit : Nat := 250

/-! ## White space -/

/-- The characters after white space and comments. -/
def skipBlanks (inComment : Bool) : List Char → List Char
  | [] => []
  | c :: rest =>
    if inComment then skipBlanks (c != '\n') rest
    else if isBlank c then skipBlanks false rest
    else if c = '#' then skipBlanks true rest
    else c :: rest

/-- The characters from the next part on. -/
def skip (verbose : Bool) (cs : List Char) : List Char :=
  if verbose then skipBlanks false cs else cs

/-- The characters from the part after the next character on. -/
def advance (verbose : Bool) (cs : List Char) : List Char := skip verbose cs.tail

/-- The character of the part after the next character. A comment is looked into. -/
def peekPart (verbose : Bool) (cs : List Char) : Option Char :=
  let rec go (inComment : Bool) : List Char → Option Char
    | [] => cs.tail.head?
    | c :: rest =>
      if isBlank c then go inComment rest
      else if !inComment && c = '#' then go true rest
      else some c
  if verbose then go false cs.tail else cs.tail.head?

/-! ## Escapes -/

/-- Whether a character has a meaning of its own in expressions. -/
def isMeta (c : Char) : Bool := "\\.+*?()|[]\x7b\x7d^$#&-~".toList.contains c

/-- Whether a character may be escaped without need. -/
def isEscapable (c : Char) : Bool :=
  isMeta c || (c.toNat < 128 && !c.isAlphanum && c != '<' && c != '>')

/-- The value of a hexadecimal digit of either case. -/
def hexValue? (c : Char) : Option Nat :=
  if '0' ≤ c && c ≤ '9' then some (c.toNat - 48)
  else if 'a' ≤ c && c ≤ 'f' then some (c.toNat - 87)
  else if 'A' ≤ c && c ≤ 'F' then some (c.toNat - 55)
  else none

/-- The character with a code point. -/
def scalar? (n : Nat) : Option Char := if h : n.isValidChar then some (Char.ofNatAux n h) else none

/-- Reads a fixed number of hexadecimal digits. -/
def readHexDigits (verbose : Bool) :
    (count : Nat) → (value : Nat) → List Char → Except Fault (Nat × List Char)
  | 0, value, cs => .ok (value, cs)
  | _ + 1, _, [] => .error .escapeUnexpectedEnd
  | count + 1, value, c :: rest =>
    match hexValue? c with
    | none => .error .escapeHexInvalidDigit
    | some d => readHexDigits verbose count (16 * value + d) (advance verbose (c :: rest))

/-- Reads hexadecimal digits up to a closing brace; `value` is that of the digits so far, if there
are any. -/
def readHexBraced (verbose : Bool) :
    (fuel : Nat) → (value : Option Nat) → List Char → Except Fault (Nat × List Char)
  | 0, _, _ => .error .escapeUnexpectedEnd
  | _, _, [] => .error .escapeUnexpectedEnd
  | fuel + 1, value, c :: rest =>
    if c = '\x7d' then
      match value with
      | none => .error .escapeHexEmpty
      | some n => .ok (n, advance verbose (c :: rest))
    else match hexValue? c with
      | none => .error .escapeHexInvalidDigit
      | some d =>
        readHexBraced verbose fuel (some (16 * value.getD 0 + d)) (advance verbose (c :: rest))

/-- Reads the character after `x`, `u` or `U`, which stand for two, four and eight digits. -/
def readHex (verbose : Bool) (letter : Char) (rest : List Char) :
    Except Fault (Literal × List Char) := do
  let digits := if letter = 'x' then 2 else if letter = 'u' then 4 else 8
  let rest := skip verbose rest
  let (value, after, isByte) ← match rest with
    | [] => Except.error Fault.escapeUnexpectedEnd
    | '\x7b' :: _ => do
      let cs := advance verbose rest
      let (value, after) ← readHexBraced verbose (cs.length + 1) none cs
      pure (value, after, false)
    | _ => do
      let (value, after) ← readHexDigits verbose digits 0 rest
      pure (value, after, letter = 'x')
  match scalar? value with
  | none => .error .escapeHexInvalid
  | some c => .ok (⟨c, isByte⟩, after)

/-- Reads a property name up to a closing brace. -/
def readPropertyName (verbose : Bool) :
    (fuel : Nat) → (name : List Char) → List Char → Except Fault (List Char × List Char)
  | 0, _, _ => .error .escapeUnexpectedEnd
  | _, _, [] => .error .escapeUnexpectedEnd
  | fuel + 1, name, c :: rest =>
    if c = '\x7d' then .ok (name.reverse, rest)
    else readPropertyName verbose fuel (c :: name) (advance verbose (c :: rest))

/-- Splits a list before the first place where another one stands, which is left out. -/
def splitAt? (sep : List Char) : List Char → Option (List Char × List Char)
  | [] => none
  | c :: rest =>
    if sep.isPrefixOf (c :: rest) then some ([], (c :: rest).drop sep.length)
    else (splitAt? sep rest).map fun (a, b) => (c :: a, b)

/-- A property and whether its complement is meant, from the text between braces. -/
def propertyOf (negated : Bool) (name : List Char) : PropertyQuery × Bool :=
  let valued (n v : List Char) : PropertyQuery := .valued (String.ofList n) (String.ofList v)
  match splitAt? ['!', '='] name, splitAt? [':'] name, splitAt? ['='] name with
  | some (n, v), _, _ => (valued n v, !negated)
  | none, some (n, v), _ => (valued n v, negated)
  | none, none, some (n, v) => (valued n v, negated)
  | none, none, none => (.named (String.ofList name), negated)

/-- Reads a property after its letter. -/
def readProperty (verbose negated : Bool) (rest : List Char) :
    Except Fault ((PropertyQuery × Bool) × List Char) :=
  match skip verbose rest with
  | [] => .error .escapeUnexpectedEnd
  | '\x7b' :: more => do
    let cs := skip verbose more
    let (name, after) ← readPropertyName verbose (cs.length + 1) [] cs
    .ok (propertyOf negated name, after)
  | '\\' :: _ => .error .unicodeClassInvalid
  | c :: more => .ok ((.named c.toString, negated), skip verbose more)

/-- The letters of a name for a word boundary. -/
def isBoundaryLetter (c : Char) : Bool := c.isAlpha || c = '-'

/-- Reads the letters of a name for a word boundary. -/
def readBoundaryName (verbose : Bool) :
    (fuel : Nat) → (name : List Char) → List Char → List Char × List Char
  | 0, name, cs => (name.reverse, cs)
  | _, name, [] => (name.reverse, [])
  | fuel + 1, name, c :: rest =>
    if isBoundaryLetter c then
      readBoundaryName verbose fuel (c :: name) (advance verbose (c :: rest))
    else (name.reverse, c :: rest)

/-- Reads a name between braces after `\b`. Braces that cannot hold a name are left for a
repetition. -/
def readBoundary (verbose : Bool) (cs : List Char) : Except Fault (Assertion × List Char) :=
  match cs with
  | '\x7b' :: more =>
    match skip verbose more with
    | [] => .error .wordBoundaryUnexpectedEnd
    | c :: rest =>
      if !isBoundaryLetter c then .ok (.wordBoundary, cs)
      else match readBoundaryName verbose (rest.length + 2) [] (c :: rest) with
        | (name, '\x7d' :: after) =>
          match String.ofList name with
          | "start" => .ok (.wordStart, after)
          | "end" => .ok (.wordEnd, after)
          | "start-half" => .ok (.wordStartHalf, after)
          | "end-half" => .ok (.wordEndHalf, after)
          | _ => .error .wordBoundaryUnrecognized
        | _ => .error .wordBoundaryUnclosed
  | _ => .ok (.wordBoundary, cs)

/-- The character of a one-letter escape. -/
def letterEscape? : Char → Option Char
  | 'a' => some '\x07'
  | 'f' => some '\x0c'
  | 't' => some '\t'
  | 'n' => some '\n'
  | 'r' => some '\r'
  | 'v' => some '\x0b'
  | _ => none

/-- The class of a one-letter escape, and whether its complement is meant. -/
def letterClass? : Char → Option (LetterClass × Bool)
  | 'd' => some (.digit, false)
  | 'D' => some (.digit, true)
  | 's' => some (.space, false)
  | 'S' => some (.space, true)
  | 'w' => some (.word, false)
  | 'W' => some (.word, true)
  | _ => none

/-- The assertion of a one-letter escape, `\b` excepted. -/
def letterAssertion? : Char → Option Assertion
  | 'A' => some .textStart
  | 'z' => some .textEnd
  | 'B' => some .notWordBoundary
  | '<' => some .wordStart
  | '>' => some .wordEnd
  | _ => none

/-- Reads an escape after its backslash. -/
def readEscape (d : Dialect) (verbose : Bool) : List Char → Except Fault (Ast × List Char)
  | [] => .error .escapeUnexpectedEnd
  | c :: rest => do
    if c.isDigit then throw .backreference
    if c = 'x' || c = 'u' || c = 'U' then
      let (l, after) ← readHex verbose c rest
      return (.literal l, after)
    if c = 'p' || c = 'P' then
      let ((q, negated), after) ← readProperty verbose (c = 'P') rest
      return (.property q negated, after)
    if c = 'b' then
      let (a, after) ← readBoundary verbose rest
      return (.assertion a, after)
    match letterClass? c, letterEscape? c, letterAssertion? c with
    | some (l, negated), _, _ => return (.letter l negated, rest)
    | none, some e, _ => return (.literal ⟨e, false⟩, rest)
    | none, none, some a => return (.assertion a, rest)
    | none, none, none =>
      if isEscapable c || d.relaxed then return (.literal ⟨c, false⟩, rest)
      throw .escapeUnrecognized

/-! ## Brackets -/

/-- The names of the classes between `[:` and `:]`. -/
def asciiNames : List String :=
  ["alnum", "alpha", "ascii", "blank", "cntrl", "digit", "graph", "lower", "print", "punct",
   "space", "upper", "word", "xdigit"]

/-- Reads a named class after its opening bracket, if there is one. -/
def readAsciiClass : List Char → Option (ClassSet × List Char)
  | ':' :: rest =>
    let (negated, rest) := match rest with
      | '^' :: more => (true, more)
      | rest => (false, rest)
    let name := String.ofList (rest.takeWhile (· != ':'))
    match rest.dropWhile (· != ':') with
    | ':' :: ']' :: after =>
      if asciiNames.contains name then some (.ascii name negated, after) else none
    | _ => none
  | _ => none

/-- Reads dashes at the start of a set, which stand for themselves. -/
def readLeadingDashes (verbose : Bool) :
    (fuel : Nat) → List ClassSet → List Char → Except Fault (List ClassSet × List Char)
  | 0, _, _ => .error .classUnclosed
  | _, _, [] => .error .classUnclosed
  | fuel + 1, done, c :: rest =>
    if c = '-' then
      readLeadingDashes verbose fuel (.literal ⟨'-', false⟩ :: done) (advance verbose (c :: rest))
    else .ok (done, c :: rest)

/-- Reads the opening of a set after its bracket: whether it is negated, and the characters that
stand for themselves there, last first. -/
def readClassOpen (verbose : Bool) (cs : List Char) :
    Except Fault ((Bool × List ClassSet) × List Char) := do
  let cs := skip verbose cs
  let (negated, cs) := match cs with
    | '^' :: rest => (true, skip verbose rest)
    | cs => (false, cs)
  let (dashes, cs) ← readLeadingDashes verbose (cs.length + 1) [] cs
  match dashes, cs with
  | [], ']' :: rest =>
    let rest := skip verbose rest
    if rest.isEmpty then .error .classUnclosed
    else .ok ((negated, [.literal ⟨']', false⟩]), rest)
  | dashes, cs => .ok ((negated, dashes), cs)

/-- Reads one character or class inside brackets. -/
def readClassItem (d : Dialect) (verbose : Bool) : List Char → Except Fault (Ast × List Char)
  | '\\' :: rest => readEscape d verbose rest
  | c :: rest => .ok (.literal ⟨c, false⟩, rest)
  | [] => .error .classUnclosed

/-- A primitive expression as a set. -/
def setOf : Ast → Except Fault ClassSet
  | .literal l => .ok (.literal l)
  | .property q negated => .ok (.property q negated)
  | .letter l negated => .ok (.letter l negated)
  | _ => .error .classEscapeInvalid

/-- A primitive expression as an end of a range. -/
def boundaryOf : Ast → Except Fault Literal
  | .literal l => .ok l
  | _ => .error .classRangeLiteral

/-- Reads a character, a class or a range inside brackets. -/
def readClassRange (d : Dialect) (verbose : Bool) (cs : List Char) :
    Except Fault (ClassSet × List Char) := do
  let (first, cs) ← readClassItem d verbose cs
  let cs := skip verbose cs
  match cs with
  | [] => .error .classUnclosed
  | c :: _ =>
    let next := peekPart verbose cs
    if c != '-' || next == some ']' || next == some '-' then
      return (← setOf first, cs)
    let cs := advance verbose cs
    if cs.isEmpty then throw .classUnclosed
    let (second, cs) ← readClassItem d verbose cs
    let low ← boundaryOf first
    let high ← boundaryOf second
    if high.char < low.char then throw .classRangeInvalid
    return (.range low high, cs)

/-- Joins a pending operation with its right side. -/
def closeOperation (pending : Option (SetOp × ClassSet)) (items : List ClassSet) : ClassSet :=
  let right := ClassSet.ofList items.reverse
  match pending with
  | none => right
  | some (op, left) => .binary op left right

/-- Reads the inside of a set up to its closing bracket: `pending` is an operation that waits for
its right side, `items` are those read since, last first. -/
def readClassBody (d : Dialect) (verbose : Bool) : (fuel : Nat) →
    (pending : Option (SetOp × ClassSet)) → (items : List ClassSet) → List Char →
    Except Fault (ClassSet × List Char)
  | 0, _, _, _ => .error .classUnclosed
  | fuel + 1, pending, items, cs =>
    let operation (op : SetOp) (rest : List Char) : Except Fault (ClassSet × List Char) :=
      readClassBody d verbose fuel (some (op, closeOperation pending items)) [] rest
    match skip verbose cs with
    | [] => .error .classUnclosed
    | ']' :: rest => .ok (closeOperation pending items, rest)
    | '[' :: rest =>
      match readAsciiClass rest with
      | some (set, after) => readClassBody d verbose fuel pending (set :: items) after
      | none => do
        let ((negated, start), rest) ← readClassOpen verbose rest
        let (inner, rest) ← readClassBody d verbose fuel none start rest
        readClassBody d verbose fuel pending (.bracketed negated inner :: items) rest
    | '&' :: '&' :: rest => operation .intersection rest
    | '-' :: '-' :: rest => operation .difference rest
    | '~' :: '~' :: rest => operation .symmetricDifference rest
    | cs => do
      let (set, rest) ← readClassRange d verbose cs
      readClassBody d verbose fuel pending (set :: items) rest

/-- Reads a set after its opening bracket. -/
def readClass (d : Dialect) (verbose : Bool) (cs : List Char) : Except Fault (Ast × List Char) := do
  let ((negated, start), cs) ← readClassOpen verbose cs
  let (set, cs) ← readClassBody d verbose (2 * cs.length + 2) none start cs
  .ok (.bracketed negated set, cs)

/-! ## Repetitions -/

/-- Reads digits with blanks around them; none is told apart from too many. -/
def readCount (verbose : Bool) (cs : List Char) : Except Fault (Option Nat) × List Char :=
  let rec digits : Nat → List Char → List Char → List Char × List Char
    | 0, done, cs => (done.reverse, cs)
    | _, done, [] => (done.reverse, [])
    | fuel + 1, done, c :: rest =>
      if c.isDigit then digits fuel (c :: done) (advance verbose (c :: rest))
      else (done.reverse, c :: rest)
  let cs := cs.dropWhile isBlank
  let (ds, rest) := digits (cs.length + 1) [] cs
  let rest := skip verbose (rest.dropWhile isBlank)
  let value := ds.foldl (fun n c => 10 * n + (c.toNat - 48)) 0
  let count : Except Fault (Option Nat) :=
    if ds.isEmpty then .ok none
    else if value < Nat.pow 2 32 then .ok (some value)
    else .error .decimalInvalid
  (count, rest)

/-- A count that must be there. -/
def requireCount (count : Except Fault (Option Nat)) : Except Fault Nat := do
  match ← count with
  | some n => .ok n
  | none => .error .repetitionCountEmpty

/-- Whether a fault says that what stands after a brace is no count of anything. -/
def Fault.meansNoCount : Fault → Bool
  | repetitionMissing => true
  | repetitionCountEmpty => true
  | repetitionCountUnclosed => true
  | _ => false

/-- How often something is repeated, and whether as often as possible. -/
structure Repeat where
  min : Nat
  max : Option Nat
  greedy : Bool

/-- Reads an optional question mark, which makes a repetition lazy. -/
def readLazy : List Char → Bool × List Char
  | '?' :: rest => (false, rest)
  | rest => (true, rest)

/-- Reads the bounds of a repetition after its opening brace. -/
def readBounds (d : Dialect) (verbose : Bool) (cs : List Char) :
    Except Fault (Repeat × List Char) := do
  let cs := skip verbose cs
  if cs.isEmpty then throw .repetitionCountUnclosed
  let (first, cs) := readCount verbose cs
  let (min, max, cs) ← match cs with
    | [] => Except.error Fault.repetitionCountUnclosed
    | ',' :: rest =>
      match skip verbose rest with
      | [] => Except.error Fault.repetitionCountUnclosed
      | '\x7d' :: rest => do pure (← requireCount first, none, '\x7d' :: rest)
      | cs => do
        let min ← match d.emptyMinimum, first with
          | true, .ok none => pure 0
          | _, first => requireCount first
        let (second, cs) := readCount verbose cs
        pure (min, some (← requireCount second), cs)
    | cs => do
      let n ← requireCount first
      pure (n, some n, cs)
  match cs with
  | '\x7d' :: rest =>
    let (greedy, rest) := readLazy (skip verbose rest)
    if max.any (· < min) then throw .repetitionCountInvalid
    return (⟨min, max, greedy⟩, rest)
  | _ => throw .repetitionCountUnclosed

/-- Puts a repetition in place of the last part, which must be one that can be repeated. -/
def repeatLast (r : Repeat) : List Ast → Except Fault (List Ast)
  | [] => .error .repetitionMissing
  | .empty :: _ => .error .repetitionMissing
  | .flags _ :: _ => .error .repetitionMissing
  | e :: before => .ok (.repetition r.min r.max r.greedy e :: before)

/-! ## Groups -/

/-- A flag by its letter. -/
def flag? : Char → Option Flag
  | 'i' => some .caseInsensitive
  | 'm' => some .multiLine
  | 's' => some .dotMatchesNewLine
  | 'U' => some .swapGreed
  | 'u' => some .unicode
  | 'R' => some .crlf
  | 'x' => some .ignoreWhitespace
  | _ => none

/-- Reads flags up to a colon or a closing parenthesis, which is left. -/
def readFlags (done : List FlagItem) : List Char → Except Fault (List FlagItem × List Char)
  | [] => .error .flagUnexpectedEnd
  | c :: rest =>
    if c = ':' || c = ')' then
      if done.head? = some .negation then .error .flagDanglingNegation
      else .ok (done.reverse, c :: rest)
    else if c = '-' then
      if done.contains .negation then .error .flagRepeatedNegation
      else readFlags (.negation :: done) rest
    else match flag? c with
      | none => .error .flagUnrecognized
      | some f =>
        if done.contains (.flag f) then .error .flagDuplicate else readFlags (.flag f :: done) rest

/-- Whether a character may stand in the name of a group. -/
def isNameChar (first : Bool) (c : Char) : Bool :=
  if first then c = '_' || isAlphabetic c
  else c = '_' || c = '.' || c = '[' || c = ']' || isAlphanumeric c

/-- Reads the name of a group up to its closing bracket. -/
def readGroupName (name : List Char) : List Char → Except Fault (String × List Char)
  | [] => .error .groupNameUnexpectedEnd
  | '>' :: rest =>
    if name.isEmpty then .error .groupNameEmpty else .ok (String.ofList name.reverse, rest)
  | c :: rest =>
    if isNameChar name.isEmpty c then readGroupName (c :: name) rest else .error .groupNameInvalid

/-- What an opening parenthesis starts. -/
inductive Opening
  /-- Flags for the rest of the group around them. -/
  | flags (items : List FlagItem)
  | group (flags : List FlagItem) (name : Option String)

/-- Reads the opening of a group after its parenthesis. -/
def readOpening (verbose : Bool) (cs : List Char) : Except Fault (Opening × List Char) :=
  match skip verbose cs with
  | '?' :: '=' :: _ => .error .lookAround
  | '?' :: '!' :: _ => .error .lookAround
  | '?' :: '<' :: '=' :: _ => .error .lookAround
  | '?' :: '<' :: '!' :: _ => .error .lookAround
  | '?' :: 'P' :: '<' :: rest => do
    let (name, rest) ← readGroupName [] rest
    .ok (.group [] (some name), rest)
  | '?' :: '<' :: rest => do
    let (name, rest) ← readGroupName [] rest
    .ok (.group [] (some name), rest)
  | '?' :: [] => .error .groupUnclosed
  | '?' :: rest => do
    let (items, rest) ← readFlags [] rest
    match rest with
    | ')' :: rest => if items.isEmpty then .error .repetitionMissing else .ok (.flags items, rest)
    | _ => .ok (.group items none, rest.tail)
  | cs => .ok (.group [] none, cs)

/-! ## Whole expressions -/

/-- What is left to read, whether white space is skipped, and the names of groups so far. -/
structure Cursor where
  rest : List Char
  verbose : Bool
  names : List String

/-- The cursor before other characters. -/
def Cursor.at (c : Cursor) (rest : List Char) : Cursor := { c with rest }

/-- One of the branches read so far and the last one, both last first. -/
def closeBranches (branches parts : List Ast) : Ast :=
  .alternationOf (.concatOf parts.reverse :: branches).reverse

/-- Reads branches up to the end, or to the parenthesis that closes the group around them. -/
def readBranches (d : Dialect) : (fuel : Nat) → (inGroup : Bool) → (branches parts : List Ast) →
    Cursor → Except Fault (Ast × Cursor)
  | 0, _, _, _, _ => .error .groupUnclosed
  | fuel + 1, inGroup, branches, parts, c =>
    let go (parts : List Ast) (rest : List Char) :=
      readBranches d fuel inGroup branches parts (c.at rest)
    match skip c.verbose c.rest with
    | [] => if inGroup then .error .groupUnclosed else .ok (closeBranches branches parts, c.at [])
    | ')' :: rest =>
      if inGroup then .ok (closeBranches branches parts, c.at rest) else .error .groupUnopened
    | '|' :: rest =>
      readBranches d fuel inGroup (.concatOf parts.reverse :: branches) [] (c.at rest)
    | '(' :: rest => do
      match ← readOpening c.verbose rest with
      | (.flags items, rest) =>
        let verbose := (flagState .ignoreWhitespace items).getD c.verbose
        readBranches d fuel inGroup branches (.flags items :: parts) { c with rest, verbose }
      | (.group items name, rest) =>
        if name.any c.names.contains then throw .groupNameDuplicate
        let names := name.toList ++ c.names
        let verbose := (flagState .ignoreWhitespace items).getD c.verbose
        let (sub, after) ← readBranches d fuel true [] [] { rest, verbose, names }
        readBranches d fuel inGroup branches (.group items sub :: parts)
          { after with verbose := c.verbose }
    | '[' :: rest => do
      let (set, rest) ← readClass d c.verbose rest
      go (set :: parts) rest
    | '?' :: rest => do
      let (greedy, rest) := readLazy rest
      go (← repeatLast ⟨0, some 1, greedy⟩ parts) rest
    | '*' :: rest => do
      let (greedy, rest) := readLazy rest
      go (← repeatLast ⟨0, none, greedy⟩ parts) rest
    | '+' :: rest => do
      let (greedy, rest) := readLazy rest
      go (← repeatLast ⟨1, none, greedy⟩ parts) rest
    | '\x7b' :: rest => do
      let counted : Except Fault (List Ast × List Char) := do
        let _ ← repeatLast ⟨0, none, true⟩ parts
        let (r, rest) ← readBounds d c.verbose rest
        pure (← repeatLast r parts, rest)
      match counted with
      | .ok (parts, rest) => go parts rest
      | .error e =>
        if d.relaxed && e.meansNoCount then go (.literal ⟨'\x7b', false⟩ :: parts) rest else throw e
    | '\\' :: rest => do
      let (e, rest) ← readEscape d c.verbose rest
      go (e :: parts) rest
    | '.' :: rest => go (.dot :: parts) rest
    | '^' :: rest => go (.assertion .lineStart :: parts) rest
    | '$' :: rest => go (.assertion .lineEnd :: parts) rest
    | ch :: rest => go (.literal ⟨ch, false⟩ :: parts) rest

/-- Reads a regular expression. -/
def Ast.read (d : Dialect) (pattern : String) : Except Fault Ast := do
  let cs := pattern.toList
  let (e, _) ← readBranches d (2 * cs.length + 2) false [] [] ⟨cs, false, []⟩
  if e.depth > nestLimit then throw (.nestedTooDeep nestLimit)
  return e

end RuleScan.Regex
