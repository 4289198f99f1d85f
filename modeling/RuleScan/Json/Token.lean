import RuleScan.Json.Fault

/-!
# The tokens of a JSON text

A text is cut into tokens from left to right. Some tokens can be read in two ways: a string or a
number may be taken as a value, or only skipped over. Skipping asks less of the text (surrogates
need no partner, magnitudes no bound), so such a token carries both readings. After a token that
cannot even be skipped nothing follows, since no reader gets past it.
-/

namespace RuleScan.Json

/-- A literal name. -/
inductive Word
  | null
  | yes
  | no
  deriving DecidableEq, Repr

/-- A token. -/
inductive Token
  | listStart
  | listEnd
  | recordStart
  | recordEnd
  | comma
  | colon
  | word (read : Except Fault Word)
  | number (read : Except Fault Number) (skip : Except Fault Unit)
  | text (read : Except Fault String) (skip : Except Fault Unit)
  /-- A character that starts no token. -/
  | stray

/-! ## Words -/

/-- Reads the rest of a word. -/
def lexWord (word : Word) : List Char → List Char → Except Fault Word × List Char
  | [], rest => (.ok word, rest)
  | _ :: _, [] => (.error .eofInValue, [])
  | e :: expected, c :: rest =>
    if c = e then lexWord word expected rest else (.error .expectedIdent, [])

/-! ## Strings -/

/-- The value of a hexadecimal digit of either case. -/
def hexDigit? (c : Char) : Option Nat :=
  if '0' ≤ c && c ≤ '9' then some (c.toNat - 48)
  else if 'a' ≤ c && c ≤ 'f' then some (c.toNat - 87)
  else if 'A' ≤ c && c ≤ 'F' then some (c.toNat - 55)
  else none

/-- The bytes that characters take. -/
def byteLength (cs : List Char) : Nat := cs.foldl (fun n c => n + c.utf8Size) 0

/-- The four hexadecimal digits of an escape. A text that ends before four more bytes ends in the
string; any other lack of digits is an invalid escape. -/
def lexHex : List Char → Except Fault (Nat × List Char)
  | a :: b :: c :: d :: rest =>
    match hexDigit? a, hexDigit? b, hexDigit? c, hexDigit? d with
    | some a, some b, some c, some d => .ok (((a * 16 + b) * 16 + c) * 16 + d, rest)
    | _, _, _, _ => .error .invalidEscape
  | short => .error (if byteLength short < 4 then .eofInText else .invalidEscape)

/-- The character of a one-letter escape. -/
def simpleEscape? : Char → Option Char
  | '"' => some '"'
  | '\\' => some '\\'
  | '/' => some '/'
  | 'b' => some '\x08'
  | 'f' => some '\x0c'
  | 'n' => some '\n'
  | 'r' => some '\r'
  | 't' => some '\t'
  | _ => none

/-- The second half of a surrogate pair whose first half is `lead`. -/
def lexTrail (lead : Nat) : List Char → Except Fault (Char × List Char)
  | [] => .error .eofInText
  | '\\' :: [] => .error .eofInText
  | '\\' :: 'u' :: rest => do
    let (n, rest) ← lexHex rest
    if 0xDC00 ≤ n && n ≤ 0xDFFF then
      .ok (Char.ofNat (0x10000 + (lead - 0xD800) * 0x400 + (n - 0xDC00)), rest)
    else .error .loneSurrogate
  | _ => .error .endOfHexEscape

/-- What follows the backslash of an escape, as a character. -/
def lexEscape : List Char → Except Fault (Char × List Char)
  | [] => .error .eofInText
  | 'u' :: rest => do
    let (n, rest) ← lexHex rest
    if 0xDC00 ≤ n && n ≤ 0xDFFF then .error .loneSurrogate
    else if 0xD800 ≤ n && n ≤ 0xDBFF then lexTrail n rest
    else .ok (Char.ofNat n, rest)
  | c :: rest =>
    match simpleEscape? c with
    | some e => .ok (e, rest)
    | none => .error .invalidEscape

/-- What follows the backslash of an escape, skipped. -/
def skipEscape : List Char → Except Fault (List Char)
  | [] => .error .eofInText
  | 'u' :: rest => (lexHex rest).map (·.2)
  | c :: rest =>
    match simpleEscape? c with
    | some _ => .ok rest
    | none => .error .invalidEscape

/-- Reads a string up to its closing quote; the fuel bounds the number of characters. -/
def readText : Nat → List Char → List Char → Except Fault (List Char)
  | 0, _, _ => .error .eofInText
  | _, _, [] => .error .eofInText
  | fuel + 1, done, c :: rest =>
    if c = '"' then .ok done.reverse
    else if c = '\\' then do
      let (e, rest) ← lexEscape rest
      readText fuel (e :: done) rest
    else if c.toNat < 32 then .error .controlCharacter
    else readText fuel (c :: done) rest

/-- Skips a string past its closing quote; the fuel bounds the number of characters. -/
def skipText : Nat → List Char → Except Fault (List Char)
  | 0, _ => .error .eofInText
  | _, [] => .error .eofInText
  | fuel + 1, c :: rest =>
    if c = '"' then .ok rest
    else if c = '\\' then do skipText fuel (← skipEscape rest)
    else if c.toNat < 32 then .error .controlCharacter
    else skipText fuel rest

/-- The token of a string, after its opening quote. -/
def lexText (cs : List Char) : Token × List Char :=
  let read := (readText (cs.length + 1) [] cs).map String.ofList
  match skipText (cs.length + 1) cs with
  | .ok rest => (.text read (.ok ()), rest)
  | .error e => (.text read (.error e), [])

/-! ## Numbers -/

/-- Whether a character is a decimal digit. -/
def isDigit (c : Char) : Bool := '0' ≤ c && c ≤ '9'

/-- The value of a decimal digit. -/
def digitValue (c : Char) : Nat := c.toNat - 48

/-- Skips the exponent of a number, after its letter. -/
def skipExponent (cs : List Char) : Except Fault (List Char) :=
  let cs := match cs with
    | '+' :: rest => rest
    | '-' :: rest => rest
    | _ => cs
  match cs with
  | c :: rest => if isDigit c then .ok (rest.dropWhile isDigit) else .error .invalidNumber
  | [] => .error .invalidNumber

/-- Skips the fraction and the exponent of a number. -/
def skipFraction (cs : List Char) : Except Fault (List Char) :=
  match cs with
  | '.' :: rest =>
    match rest with
    | c :: _ =>
      if isDigit c then
        match rest.dropWhile isDigit with
        | 'e' :: rest => skipExponent rest
        | 'E' :: rest => skipExponent rest
        | rest => .ok rest
      else .error .invalidNumber
    | [] => .error .invalidNumber
  | 'e' :: rest => skipExponent rest
  | 'E' :: rest => skipExponent rest
  | _ => .ok cs

/-- Skips a number, after its sign. -/
def skipNumber : List Char → Except Fault (List Char)
  | '0' :: rest =>
    match rest with
    | c :: _ => if isDigit c then .error .invalidNumber else skipFraction rest
    | [] => .ok []
  | c :: rest => if isDigit c then skipFraction (rest.dropWhile isDigit) else .error .invalidNumber
  | [] => .error .invalidNumber

/-- The greatest natural number of sixty-four bits. -/
def maxNatural : Nat := Nat.pow 2 64 - 1

/-- Takes digits into a number as long as it stays within sixty-four bits. The result is the number,
how many digits it took, and the rest. -/
def takeDigits (acc count : Nat) : List Char → Nat × Nat × List Char
  | [] => (acc, count, [])
  | c :: rest =>
    if isDigit c && acc * 10 + digitValue c ≤ maxNatural then
      takeDigits (acc * 10 + digitValue c) (count + 1) rest
    else (acc, count, c :: rest)

/-- The powers of ten up to the greatest one that is a double. -/
def tenTo (n : Nat) : Float := Decimal.nearest 1 n

/-- The double `significand · 10 ^ expo`, by one rounding of the significand and one per scaling
step, which is how these texts are read. -/
def scale (significand : Nat) (expo : Int) : Except Fault Float :=
  let rec shrink : Nat → Float → Int → Float
    | 0, f, _ => f
    | fuel + 1, f, e =>
      if e.natAbs ≤ 308 then f / tenTo e.natAbs
      else if f == 0.0 then f
      else shrink fuel (f / 1e308) (e + 308)
  let f := significand.toUInt64.toFloat
  if expo < 0 then .ok (shrink 8 f expo)
  else if expo ≤ 308 then
    let g := f * tenTo expo.toNat
    if g.isInf then .error .numberOutOfRange else .ok g
  else if f == 0.0 then .ok f
  else .error .numberOutOfRange

/-- The exponent after its letter: its sign and its value, none when it exceeds thirty-one bits. -/
def lexExponent (cs : List Char) : Except Fault (Bool × Option Nat) :=
  let (positive, cs) := match cs with
    | '+' :: rest => (true, rest)
    | '-' :: rest => (false, rest)
    | _ => (true, cs)
  match cs with
  | [] => .error .eofInValue
  | c :: _ =>
    if isDigit c then
      let n := (cs.takeWhile isDigit).foldl
        (fun n c => min (n * 10 + digitValue c) (Nat.pow 2 40)) 0
      .ok (positive, if n < Nat.pow 2 31 then some n else none)
    else .error .invalidNumber

/-- A double from its significand, its exponent so far and the text of its exponent part. -/
def withExponent (significand : Nat) (expo : Int) (cs : List Char) : Except Fault Float := do
  match ← lexExponent cs with
  | (true, some n) => scale significand (expo + n)
  | (false, some n) => scale significand (expo - n)
  | (true, none) => if significand = 0 then .ok 0.0 else .error .numberOutOfRange
  | (false, none) => .ok 0.0

/-- What may follow the digits of a double. -/
def afterDigits (significand : Nat) (expo : Int) : List Char → Except Fault Float
  | 'e' :: rest => withExponent significand expo rest
  | 'E' :: rest => withExponent significand expo rest
  | _ => scale significand expo

/-- The fraction of a double, after its point. Digits past sixty-four bits are dropped. -/
def withFraction (significand : Nat) (expo : Int) (cs : List Char) : Except Fault Float :=
  match cs with
  | [] => .error .eofInValue
  | c :: _ =>
    if isDigit c then
      let (s, count, rest) := takeDigits significand 0 cs
      if count = 0 then
        afterDigits significand expo (cs.dropWhile isDigit)
      else afterDigits s (expo - count) (rest.dropWhile isDigit)
    else .error .invalidNumber

/-- A double from its digits before the point and the rest of its text. -/
def readReal (significand : Nat) (expo : Int) : List Char → Except Fault Float
  | '.' :: rest => withFraction significand expo rest
  | rest => afterDigits significand expo rest

/-- A double with its sign. -/
def realNumber (positive : Bool) (x : Except Fault Float) : Except Fault Number :=
  x.map fun f => .real (if positive then f else -f)

/-- A whole number with its sign, as a double if it does not fit. -/
def wholeNumber (positive : Bool) (n : Nat) : Number :=
  if positive then .natural n
  else if n = 0 then .real (-0.0)
  else if n ≤ Nat.pow 2 63 then .negative (-n)
  else .real (-(n.toUInt64.toFloat))

/-- A number from its sign, its digits before the point, and the rest of its text. -/
def finishNumber (positive : Bool) (n : Nat) (rest : List Char) : Except Fault Number :=
  match rest with
  | '.' :: _ => realNumber positive (readReal n 0 rest)
  | 'e' :: _ => realNumber positive (readReal n 0 rest)
  | 'E' :: _ => realNumber positive (readReal n 0 rest)
  | _ => .ok (wholeNumber positive n)

/-- A number from its sign and the text after it. -/
def readNumber (positive : Bool) (cs : List Char) : Except Fault Number :=
  match cs with
  | [] => .error .eofInValue
  | '0' :: rest =>
    match rest with
    | c :: _ => if isDigit c then .error .invalidNumber else finishNumber positive 0 rest
    | [] => finishNumber positive 0 []
  | c :: _ =>
    if isDigit c then
      let (n, _, rest) := takeDigits 0 0 cs
      match rest with
      | d :: _ =>
        if isDigit d then
          realNumber positive
            (readReal n (rest.takeWhile isDigit).length (rest.dropWhile isDigit))
        else finishNumber positive n rest
      | [] => finishNumber positive n []
    else .error .invalidNumber

/-- The token of a number, after its sign. -/
def lexNumber (positive : Bool) (cs : List Char) : Token × List Char :=
  match skipNumber cs with
  | .ok rest => (.number (readNumber positive cs) (.ok ()), rest)
  | .error e => (.number (readNumber positive cs) (.error e), [])

/-! ## Texts -/

/-- Whether a character may stand between tokens. -/
def isSpace (c : Char) : Bool := c = ' ' || c = '\n' || c = '\t' || c = '\r'

/-- The token that starts with a character, and what follows it. -/
def lexOne (c : Char) (rest : List Char) : Token × List Char :=
  let word (w : Word) (expected : List Char) : Token × List Char :=
    let (read, rest) := lexWord w expected rest
    (.word read, rest)
  match c with
  | '[' => (.listStart, rest)
  | ']' => (.listEnd, rest)
  | '\x7b' => (.recordStart, rest)
  | '\x7d' => (.recordEnd, rest)
  | ',' => (.comma, rest)
  | ':' => (.colon, rest)
  | 'n' => word .null ['u', 'l', 'l']
  | 't' => word .yes ['r', 'u', 'e']
  | 'f' => word .no ['a', 'l', 's', 'e']
  | '"' => lexText rest
  | '-' => lexNumber false rest
  | c => if isDigit c then lexNumber true (c :: rest) else (.stray, [])

/-- The tokens of a text; the fuel bounds their number. -/
def lexFrom : Nat → List Char → List Token
  | 0, _ => []
  | fuel + 1, cs =>
    match cs.dropWhile isSpace with
    | [] => []
    | c :: rest =>
      let (token, rest) := lexOne c rest
      token :: lexFrom fuel rest

/-- The tokens of a text. -/
def lex (s : String) : List Token := lexFrom (s.length + 1) s.toList

end RuleScan.Json
