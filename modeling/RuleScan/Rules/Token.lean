import RuleScan.Decimal.Binary
import RuleScan.Rules.Syntax
import RuleScan.Text.Numeral

/-!
# The tokens of rule sources

A source is cut into tokens on demand, since what stands between the braces of a hexadecimal pattern
is read by another reader. `nextToken` passes over blanks and comments and takes one token. Literals
whose form is fine but whose meaning is not carry their fault.
-/

namespace RuleScan.Rules

/-- A token. -/
inductive Token
  | ended
  | word (w : String)
  /-- A name after a dollar sign, `#`, `@` or an exclamation mark. -/
  | pattern (name : String)
  | patternCount (name : String)
  | patternOffset (name : String)
  | patternLength (name : String)
  | integer (value : Except Fault Int64)
  | real (value : Float)
  /-- A text between quotes; `plain` says that it has no escapes. -/
  | text (value : Except Fault ByteArray) (plain : Bool)
  | regex (value : Except Fault RegexText)
  | symbol (s : String)
  /-- Something that starts no token. -/
  | stray

/-! ## Blanks and comments -/

/-- Where a reader stands: in the open, in a comment to the end of the line, or in one between
marks. -/
inductive BlankMode
  | outside
  | line
  | block

/-- Whether a character separates tokens. -/
def isSeparator (c : Char) : Bool := c = ' ' || c = '\t' || c = '\n' || c = '\r'

/-- Passes over blanks and comments; none if a comment is not closed. -/
def passBlanks : BlankMode → List Char → Option (List Char)
  | .outside, '/' :: '/' :: rest => passBlanks .line rest
  | .outside, '/' :: '*' :: rest => passBlanks .block rest
  | .outside, c :: rest => if isSeparator c then passBlanks .outside rest else some (c :: rest)
  | .line, '\n' :: rest => passBlanks .outside rest
  | .line, _ :: rest => passBlanks .line rest
  | .block, '*' :: '/' :: rest => passBlanks .outside rest
  | .block, _ :: rest => passBlanks .block rest
  | .block, [] => none
  | _, [] => some []

/-! ## Names and numbers -/

/-- Whether a name may start with a character. -/
def startsName (c : Char) : Bool := c.isAlpha || c = '_'

/-- Whether a character may stand in a name. -/
def inName (c : Char) : Bool := c.isAlphanum || c = '_'

/-- The longest stretch of characters with a property, and the rest. -/
def splitWhile (p : Char → Bool) (cs : List Char) : List Char × List Char :=
  (cs.takeWhile p, cs.dropWhile p)

/-- The value of digits in a base up to sixteen. -/
def valueIn (base : Nat) (digits : List Char) : Nat :=
  digits.foldl (fun n c => base * n + hexDigitValue c) 0
where
  /-- The value of a hexadecimal digit. -/
  hexDigitValue (c : Char) : Nat :=
    if c.isDigit then c.toNat - 48 else if c.isLower then c.toNat - 87 else c.toNat - 55

/-- Whether a character is a hexadecimal digit. -/
def isHexDigit (c : Char) : Bool :=
  c.isDigit || ('a' ≤ c && c ≤ 'f') || ('A' ≤ c && c ≤ 'F')

/-- A natural number as a signed word. -/
def wordOf (n : Nat) : Except Fault Int64 :=
  if n < Nat.pow 2 63 then .ok (Int64.ofNat n) else .error .invalidInteger

/-- Takes a number that starts with a digit. -/
def takeNumber (cs : List Char) : Token × List Char :=
  match cs with
  | '0' :: 'x' :: rest =>
    let (digits, rest) := splitWhile isHexDigit rest
    if digits.isEmpty then (.stray, rest) else (.integer (wordOf (valueIn 16 digits)), rest)
  | '0' :: 'o' :: rest =>
    let (digits, rest) := splitWhile (fun c => '0' ≤ c && c ≤ '7') rest
    if digits.isEmpty then (.stray, rest) else (.integer (wordOf (valueIn 8 digits)), rest)
  | cs =>
    let (digits, rest) := splitWhile Char.isDigit cs
    let n := valueIn 10 digits
    match rest with
    | 'K' :: 'B' :: rest => (.integer (wordOf (n * Nat.pow 2 10)), rest)
    | 'M' :: 'B' :: rest => (.integer (wordOf (n * Nat.pow 2 20)), rest)
    | '.' :: c :: more =>
      if c.isDigit then
        let (fraction, rest) := splitWhile Char.isDigit (c :: more)
        (.real (Decimal.nearest (valueIn 10 (digits ++ fraction)) (-fraction.length)), rest)
      else (.integer (wordOf n), rest)
    | rest => (.integer (wordOf n), rest)

/-! ## Texts -/

/-- Takes what stands before an unescaped closing character; a line must not end before that. -/
def takeUntil (close : Char) : List Char → Option (List Char × List Char)
  | [] => none
  | '\\' :: c :: rest =>
    if c = '\n' then none
    else (takeUntil close rest).map fun (a, b) => ('\\' :: c :: a, b)
  | c :: rest =>
    if c = close then some ([], rest)
    else if c = '\n' || c = '\\' then none
    else (takeUntil close rest).map fun (a, b) => (c :: a, b)

/-- The bytes of a text with its escapes resolved. -/
def unescape : List Char → Except Fault (List UInt8)
  | [] => .ok []
  | '\\' :: 'x' :: a :: b :: rest =>
    if isHexDigit a && isHexDigit b then do
      .ok ((valueIn 16 [a, b]).toUInt8 :: (← unescape rest))
    else .error .invalidEscape
  | '\\' :: c :: rest => do
    let code ← match c with
      | 'n' => .ok 10
      | 'r' => .ok 13
      | 't' => .ok 9
      | '0' => .ok 0
      | '"' => .ok 34
      | '\\' => .ok 92
      | _ => .error Fault.invalidEscape
    .ok (code :: (← unescape rest))
  | c :: rest => do .ok (c.toString.toUTF8.data.toList ++ (← unescape rest))

/-- Takes a text after its opening quote. -/
def takeText (cs : List Char) : Token × List Char :=
  match takeUntil '"' cs with
  | none => (.stray, cs)
  | some (inside, rest) =>
    (.text ((unescape inside).map fun bytes => ⟨bytes.toArray⟩) (!inside.contains '\\'), rest)

/-- The characters of a regular expression with slashes no longer escaped. -/
def unescapeSlashes : List Char → List Char
  | '\\' :: '/' :: rest => '/' :: unescapeSlashes rest
  | '\\' :: c :: rest => '\\' :: c :: unescapeSlashes rest
  | c :: rest => c :: unescapeSlashes rest
  | [] => []

/-- Takes a regular expression after its opening slash, with the letters behind it. -/
def takeRegex (cs : List Char) : Token × List Char :=
  match takeUntil '/' cs with
  | none => (.stray, cs)
  | some (inside, rest) =>
    let (letters, rest) := splitWhile Char.isAlphanum rest
    let value : Except Fault RegexText :=
      if letters.all fun c => c = 'i' || c = 's' then
        .ok ⟨String.ofList (unescapeSlashes inside), letters.contains 'i', letters.contains 's'⟩
      else .error .invalidRegexModifier
    (.regex value, rest)

/-! ## Tokens -/

/-- The symbols of two characters. -/
def pairs : List (Char × Char) :=
  [('=', '='), ('!', '='), ('<', '='), ('>', '='), ('<', '<'), ('>', '>'), ('.', '.')]

/-- The symbols of one character. -/
def singles : List Char :=
  ['\x7b', '\x7d', '(', ')', '[', ']', ':', ',', '=', '<', '>', '+', '-', '*', '\\', '%', '&', '|',
   '^', '~', '.']

/-- Takes a symbol. -/
def takeSymbol (c : Char) (rest : List Char) : Token × List Char :=
  let one : Token × List Char :=
    if singles.contains c then (.symbol c.toString, rest) else (.stray, rest)
  match rest with
  | d :: more => if pairs.contains (c, d) then (.symbol (String.ofList [c, d]), more) else one
  | [] => one

/-- Takes a name after its mark. -/
def takeMarked (token : String → Token) (rest : List Char) : Token × List Char :=
  let (name, rest) := splitWhile inName rest
  (token (String.ofList name), rest)

/-- The token that starts with a character. -/
def takeToken (c : Char) (rest : List Char) : Token × List Char :=
  if startsName c then
    let (name, rest) := splitWhile inName (c :: rest)
    (.word (String.ofList name), rest)
  else if c.isDigit then takeNumber (c :: rest)
  else match c, rest with
    | '"', rest => takeText rest
    | '/', rest => takeRegex rest
    | '$', rest => takeMarked .pattern rest
    | '#', rest => takeMarked .patternCount rest
    | '@', rest => takeMarked .patternOffset rest
    | '!', '=' :: rest => (.symbol "!=", rest)
    | '!', rest => takeMarked .patternLength rest
    | c, rest => takeSymbol c rest

/-- The next token and what follows it. -/
def nextToken (cs : List Char) : Token × List Char :=
  match passBlanks .outside cs with
  | none => (.stray, [])
  | some [] => (.ended, [])
  | some (c :: rest) => takeToken c rest

/-- The words that are no names. -/
def keywords : List String :=
  ["all", "and", "any", "ascii", "at", "base64", "base64wide", "condition", "contains", "defined",
   "endswith", "entrypoint", "false", "filesize", "for", "fullword", "global", "icontains",
   "iendswith", "iequals", "import", "in", "include", "istartswith", "matches", "meta", "nocase",
   "none", "not", "of", "or", "private", "rule", "startswith", "strings", "them", "true", "wide",
   "with", "xor"]

end RuleScan.Rules
