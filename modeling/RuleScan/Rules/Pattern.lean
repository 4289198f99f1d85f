import RuleScan.Config
import RuleScan.Findings.Basic
import RuleScan.Regex.Anchored
import RuleScan.Rules.Syntax
import RuleScan.Text.Bytes

/-!
# Patterns at work

A declared pattern is turned into searches, each for one form of it: plain, wide, keyed, in base64.
`Pattern.hits` lists where it is found in a buffer: every position counts, at most once, also where
hits overlap.
-/

namespace RuleScan.Rules

open RuleScan.Text

/-! ## Searches -/

/-- A stretch of bytes to look for. -/
structure BytesSearch where
  bytes : ByteArray
  /-- Whether every other byte is a zero. -/
  wide : Bool
  ignoreCase : Bool
  /-- The keys that may have changed all bytes. -/
  keys : Option (Nat × Nat)

/-- A regular expression to look for. -/
structure ProgramSearch where
  program : Regex.Program
  wide : Bool
  /-- Whether the longest match at a position counts, and not the shortest. -/
  longest : Bool

/-- One form of a pattern. -/
inductive Search
  | bytes (s : BytesSearch)
  | program (s : ProgramSearch)

/-- A pattern of a rule with its searches. -/
structure Pattern where
  name : String
  /-- Whether its hits are kept from listings. -/
  hidden : Bool
  fullWord : Bool
  searches : List Search

/-- The lower case of an ASCII letter. -/
def lowerByte (b : UInt8) : UInt8 := if 65 ≤ b && b ≤ 90 then b + 32 else b

/-- Whether a byte is an ASCII letter or digit. -/
def isWordPart (b : UInt8) : Bool :=
  (48 ≤ b && b ≤ 57) || (65 ≤ b && b ≤ 90) || (97 ≤ b && b ≤ 122)

/-- Whether a stretch is a word of its own: no letter or digit stands beside it, in wide text none
that is followed by a zero byte. -/
def standsAlone (data : ByteArray) (wide : Bool) (key : UInt8) (start stop : Nat) : Bool :=
  let byte (i : Nat) : UInt8 := byteAt data i ^^^ key
  if wide then
    !(2 ≤ start && byte (start - 1) == 0 && isWordPart (byte (start - 2)))
      && !(stop + 1 < data.size && byte (stop + 1) == 0 && isWordPart (byte stop))
  else
    !(1 ≤ start && isWordPart (byte (start - 1))) && !(stop < data.size && isWordPart (byte stop))

/-- The key that changes the first byte to the one at a position, if it may be used. -/
def BytesSearch.key? (s : BytesSearch) (data : ByteArray) (pos : Nat) : Option UInt8 :=
  match s.keys with
  | none => some 0
  | some (low, high) =>
    let key := byteAt data pos ^^^ byteAt s.bytes 0
    if low ≤ key.toNat && key.toNat ≤ high then some key else none

/-- The hit of a search for bytes at a position. -/
def BytesSearch.hitAt (s : BytesSearch) (data : ByteArray) (fullWord : Bool) (pos : Nat) :
    Option Hit :=
  if pos + s.bytes.size > data.size then none
  else match s.key? data pos with
    | none => none
    | some key =>
      let f (b : UInt8) : UInt8 := if s.ignoreCase then lowerByte b else b ^^^ key
      if hasBytesAt f data s.bytes pos s.bytes.size
          && (!fullWord || standsAlone data s.wide key pos (pos + s.bytes.size)) then
        some ⟨pos, s.bytes.size, s.keys.isSome⟩
      else none

/-- The hit of a search for a regular expression at a position. -/
def ProgramSearch.hitAt (s : ProgramSearch) (data : ByteArray) (fullWord : Bool) (pos : Nat) :
    Option Hit :=
  match s.program.stopFrom data s.longest pos with
  | none => none
  | some stop =>
    if !fullWord || standsAlone data s.wide 0 pos stop then some ⟨pos, stop - pos, false⟩ else none

/-- The hit of a search at a position. -/
def Search.hitAt (s : Search) (data : ByteArray) (fullWord : Bool) (pos : Nat) : Option Hit :=
  match s with
  | bytes s => s.hitAt data fullWord pos
  | program s => s.hitAt data fullWord pos

/-- The hit of a pattern at a position: that of the first search that has one. -/
def Pattern.hitAt (p : Pattern) (data : ByteArray) (pos : Nat) : Option Hit :=
  p.searches.findSome? fun s => s.hitAt data p.fullWord pos

/-- The hits of a pattern from a position on; `count` positions are left. -/
def Pattern.hitsFrom (p : Pattern) (data : ByteArray) : (count pos : Nat) → List Hit → List Hit
  | 0, _, done => done.reverse
  | count + 1, pos, done =>
    match p.hitAt data pos with
    | some h => p.hitsFrom data count (pos + 1) (h :: done)
    | none => p.hitsFrom data count (pos + 1) done

/-- All hits of a pattern, by position. -/
def Pattern.hits (p : Pattern) (data : ByteArray) : List Hit := p.hitsFrom data data.size 0 []

/-! ## Forms of texts -/

/-- The bytes with a zero after each. -/
def widen (bytes : ByteArray) : ByteArray := ⟨(bytes.data.toList.flatMap fun b => [b, 0]).toArray⟩

/-- The usual alphabet of base64. -/
def usualAlphabet : ByteArray :=
  "ABCDEFGHIJKLMNOPQRSTUVWXYZabcdefghijklmnopqrstuvwxyz0123456789+/".toUTF8

/-- The digits of bits in groups of six, the last one filled up with zeros. -/
def sextets : (fuel : Nat) → List UInt8 → List Nat
  | 0, _ => []
  | _, [] => []
  | _, [a] => [a.toNat / 4, a.toNat % 4 * 16]
  | _, [a, b] => [a.toNat / 4, a.toNat % 4 * 16 + b.toNat / 16, b.toNat % 16 * 4]
  | fuel + 1, a :: b :: c :: rest =>
    [a.toNat / 4, a.toNat % 4 * 16 + b.toNat / 16, b.toNat % 16 * 4 + c.toNat / 64, c.toNat % 64]
      ++ sextets fuel rest

/-- The characters in which bytes show in base64 when `before` other bytes precede them: those that
do not depend on what stands around. -/
def base64Form (alphabet bytes : ByteArray) (before : Nat) : ByteArray :=
  let all := List.replicate before 0 ++ bytes.data.toList
  let kept := (sextets (all.length + 1) all).take (8 * all.length / 6)
  ⟨((kept.drop ((8 * before + 5) / 6)).map fun d => byteAt alphabet d).toArray⟩

/-! ## Regular expressions -/

/-- A set of one byte. -/
def oneByte (n : Nat) : Regex.Expr := .byte (.single n n)

/-- The bytes of the UTF-8 form of a code point. -/
def utf8Bytes (n : Nat) : List Nat := (Char.ofNat n).toString.toUTF8.data.toList.map UInt8.toNat

mutual

/-- An expression with a zero byte after each byte. -/
def widenExpr : Regex.Expr → Regex.Expr
  | .byte set => .concat [.byte set, oneByte 0]
  | .scalar set =>
    match set.ranges with
    | [r] => .concat ((utf8Bytes r.low).flatMap fun b => [oneByte b, oneByte 0])
    | _ => .scalar set
  | .rep min max greedy e => .rep min max greedy (widenExpr e)
  | .concat es => .concat (widenAll es)
  | .alternation es => .alternation (widenAll es)
  | .empty => .empty
  | .look l => .look l

/-- Some expressions, each with zero bytes. -/
def widenAll : List Regex.Expr → List Regex.Expr
  | [] => []
  | e :: rest => widenExpr e :: widenAll rest

end

/-- The most bytes of a set that narrows a search. -/
def narrowSize : Nat := 128

/-- The number of members of a set. -/
def setSize (s : RangeSet) : Nat := s.ranges.foldl (fun n r => n + (r.high + 1 - r.low)) 0

mutual

/-- Whether every match has a byte that narrows the search. -/
def narrows : Regex.Expr → Bool
  | .byte set => setSize set ≤ narrowSize
  | .scalar _ => true
  | .rep min _ _ e => 1 ≤ min && narrows e
  | .concat es => narrowsAny es
  | .alternation es => narrowsAll es
  | .empty => false
  | .look _ => false

/-- Whether one of some expressions narrows a search. -/
def narrowsAny : List Regex.Expr → Bool
  | [] => false
  | e :: rest => narrows e || narrowsAny rest

/-- Whether each of some expressions narrows a search. -/
def narrowsAll : List Regex.Expr → Bool
  | [] => true
  | e :: rest => narrows e && narrowsAll rest

end

/-- Whether an expression is just one byte. -/
def isOneByte : Regex.Expr → Bool
  | .byte set => setSize set = 1
  | .scalar set => setSize set = 1 && set.ranges.all (·.high < 128)
  | _ => false

/-- Whether a search for an expression would be slow: it is one byte, or can match without a byte
that narrows the search. -/
def isSlow (e : Regex.Expr) : Bool := isOneByte e || !narrows e

/-- Whether an expression starts with any number of any characters. -/
def startsArbitrarily (e : Regex.Expr) : Bool :=
  let wild : Regex.Expr → Bool
    | .rep _ none _ (.byte set) => setSize set ≥ 255
    | _ => false
  match e with
  | .concat (first :: _) => wild first
  | e => wild e

/-- Whether the longest match of a written expression counts: its repetitions are greedy. Greedy and
other repetitions must not be mixed. -/
def greedinessOf (a : Regex.Ast) : Except Fault Bool :=
  match a.greediness with
  | [] => .ok false
  | g :: rest => if rest.all (· == g) then .ok g else .error .mixedGreediness

/-- The flags of a regular expression between slashes. -/
def RegexText.flags (r : RegexText) (ignoreCase : Bool) : Regex.Flags :=
  { caseInsensitive := r.caseInsensitive || ignoreCase
    dotMatchesNewLine := r.dotMatchesNewLine
    unicode := false }

/-- The dialect of regular expressions between slashes. -/
def dialect (o : CompileOptions) : Regex.Dialect :=
  { emptyMinimum := true, relaxed := o.relaxedRegex }

/-- Reads a regular expression between slashes: what it means, and whether the longest match
counts. -/
def RegexText.read (o : CompileOptions) (ignoreCase : Bool) (r : RegexText) :
    Except Fault (Regex.Expr × Bool) := do
  let ast ← (Regex.Ast.read (dialect o) r.pattern).mapError fun _ => Fault.invalidRegex
  let longest ← greedinessOf ast
  let (e, _) ← (ast.meaning (r.flags ignoreCase)).mapError fun _ => Fault.invalidRegex
  if e.memory > Regex.memoryLimit then throw .invalidRegex
  return (e, longest)

/-! ## Hexadecimal patterns -/

/-- The bytes whose bits under a mask are given, or are not those given. -/
def maskedSet (value mask : Nat) (negated : Bool) : RangeSet :=
  let members := (List.range 256).filter fun n => (n &&& mask == value) != negated
  .ofRanges (members.map fun n => ⟨n, n⟩)

mutual

/-- A part of a hexadecimal pattern as an expression. Jumps take as few bytes as they can. -/
def HexPart.expr : HexPart → Regex.Expr
  | .byte value mask negated => .byte (maskedSet value mask negated)
  | .jump low high => .rep low high false (.byte (.single 0 255))
  | .choice branches => .alternation (branchExprs branches)

/-- Alternatives as expressions. -/
def branchExprs : List (List HexPart) → List Regex.Expr
  | [] => []
  | b :: rest => .concatOf (hexExprs b) :: branchExprs rest

/-- Parts as expressions. -/
def hexExprs : List HexPart → List Regex.Expr
  | [] => []
  | p :: rest => p.expr :: hexExprs rest

end

/-! ## Declarations -/

/-- Whether a modifier of a kind is among some. -/
def hasModifier (ms : List Modifier) (m : Modifier) : Bool := ms.any (·.kind = m.kind)

/-- Modifiers that cannot stand together. -/
def incompatible : List (Modifier × Modifier) :=
  [(.keyed 0 0, .ignoreCase), (.base64 none, .ignoreCase), (.base64Wide none, .ignoreCase),
   (.base64 none, .fullWord), (.base64Wide none, .fullWord), (.base64 none, .keyed 0 0),
   (.base64Wide none, .keyed 0 0)]

/-- Whether modifiers can stand together behind what a pattern looks for. -/
def checkModifiers (source : PatternSource) (ms : List Modifier) : Except Fault Unit :=
  let allowed : Modifier → Bool := fun m => match source, m with
    | .text _, _ => true
    | _, .hidden => true
    | .regex _, .ascii => true
    | .regex _, .wide => true
    | .regex _, .ignoreCase => true
    | .regex _, .fullWord => true
    | _, _ => false
  if ms.all allowed && incompatible.all fun (a, b) => !(hasModifier ms a && hasModifier ms b) then
    .ok ()
  else .error .invalidModifiers

/-- The forms of a text or an expression that modifiers ask for: plain (false) and wide (true). -/
def forms (ms : List Modifier) : List Bool :=
  if hasModifier ms .wide then if hasModifier ms .ascii then [false, true] else [true] else [false]

/-- The keys that modifiers ask for. -/
def keysOf (ms : List Modifier) : Option (Nat × Nat) :=
  ms.findSome? fun
    | .keyed low high => some (low, high)
    | _ => none

/-- The base64 forms of bytes that modifiers ask for. -/
def base64Searches (ms : List Modifier) (bytes : ByteArray) : List Search :=
  let plain (form : ByteArray) : Search := .bytes ⟨form, false, false, none⟩
  let formsOf (alphabet : Option ByteArray) : List ByteArray :=
    ([0, 1, 2].map (base64Form (alphabet.getD usualAlphabet) bytes)).filter (·.size > 0)
  ms.flatMap fun
    | .base64 alphabet => (formsOf alphabet).map plain
    | .base64Wide alphabet => (formsOf alphabet).map fun f => plain (widen f)
    | _ => []

/-- The searches for a text. -/
def textSearches (ms : List Modifier) (s : ByteArray) : List Search :=
  let inBase64 := hasModifier ms (.base64 none) || hasModifier ms (.base64Wide none)
  let ignoreCase := hasModifier ms .ignoreCase
  (forms ms).flatMap fun wide =>
    let bytes := if wide then widen s else s
    if inBase64 then base64Searches ms bytes
    else
      let bytes := if ignoreCase then ⟨bytes.data.map lowerByte⟩ else bytes
      [.bytes ⟨bytes, wide, ignoreCase, keysOf ms⟩]

/-- The searches for an expression. -/
def exprSearches (ms : List Modifier) (longest : Bool) (e : Regex.Expr) : List Search :=
  (forms ms).map fun wide =>
    .program ⟨.ofExpr (if wide then widenExpr e else e), wide, longest⟩

/-- Whether one of some searches for bytes looks for less than two. -/
def hasShort (searches : List Search) : Bool :=
  searches.any fun
    | .bytes s => s.bytes.size < 2
    | .program _ => false

/-- Refuses a slow pattern if that is wanted. -/
def refuseSlow (o : CompileOptions) (slow : Bool) : Except Fault Unit :=
  if slow && o.slowIsError then .error .slowPattern else .ok ()

/-- The searches for what a pattern looks for. -/
def searchesOf (o : CompileOptions) (source : PatternSource) (ms : List Modifier) :
    Except Fault (List Search) := do
  checkModifiers source ms
  match source with
  | .text s =>
    if s.size = 0 then throw .invalidPattern
    let searches := textSearches ms s
    refuseSlow o (hasShort searches)
    return searches
  | .hex parts =>
    let e := Regex.Expr.concatOf (hexExprs parts)
    refuseSlow o (isSlow e)
    return exprSearches ms false e
  | .regex r =>
    let (e, longest) ← r.read o (hasModifier ms .ignoreCase)
    if e.minLength.all (· == 0) then throw .invalidRegex
    if startsArbitrarily e then throw .arbitraryStart
    refuseSlow o (isSlow e)
    return exprSearches ms longest e

/-- The pattern of a declaration. -/
def PatternDecl.compile (o : CompileOptions) (d : PatternDecl) : Except Fault Pattern := do
  return { name := d.name
           hidden := hasModifier d.modifiers .hidden
           fullWord := hasModifier d.modifiers .fullWord
           searches := ← searchesOf o d.source d.modifiers }

end RuleScan.Rules
