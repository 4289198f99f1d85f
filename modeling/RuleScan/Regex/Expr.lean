import RuleScan.Regex.Reader

/-!
# What regular expressions mean

The flags of a written expression are resolved here: what remains are sets of bytes, sets of
characters, assertions, and the ways to put them together. A set of characters matches their UTF-8
forms. The lengths that an expression can match are computed with it.
-/

namespace RuleScan.Regex

open RuleScan.Text RuleScan.Unicode

/-! ## Expressions -/

/-- What must hold between the byte before and the byte after for a word assertion. -/
inductive WordEdge
  | boundary
  | notBoundary
  | start
  | stop
  | startHalf
  | stopHalf
  deriving DecidableEq, Repr

/-- An assertion about a position. -/
inductive Look
  | textStart
  | textEnd
  | lineStart (crlf : Bool)
  | lineEnd (crlf : Bool)
  | word (unicode : Bool) (edge : WordEdge)
  deriving DecidableEq, Repr

/-- A regular expression over bytes. -/
inductive Expr
  | empty
  /-- One byte of a set. -/
  | byte (set : RangeSet)
  /-- The UTF-8 form of one character of a set. -/
  | scalar (set : RangeSet)
  | look (l : Look)
  | rep (min : Nat) (max : Option Nat) (greedy : Bool) (sub : Expr)
  | concat (parts : List Expr)
  | alternation (branches : List Expr)

/-- The bytes that the UTF-8 form of a code point takes. -/
def utf8Length (n : Nat) : Nat :=
  if n < 0x80 then 1 else if n < 0x800 then 2 else if n < 0x10000 then 3 else 4

/-- The sum of two lengths, where none stands for no bound. -/
def addLength (a b : Option Nat) : Option Nat := a.bind fun x => b.map fun y => x + y

mutual

/-- The least number of bytes matched; none if nothing can match. -/
def Expr.minLength : Expr → Option Nat
  | .empty => some 0
  | .byte set => if set.ranges.isEmpty then none else some 1
  | .scalar set => set.ranges.head?.map fun r => utf8Length r.low
  | .look _ => some 0
  | .rep min _ _ e => e.minLength.map (min * ·)
  | .concat es => sumMinLength es
  | .alternation es => leastMinLength es

/-- The least number of bytes matched by all parts together. -/
def Expr.sumMinLength : List Expr → Option Nat
  | [] => some 0
  | e :: rest => addLength e.minLength (sumMinLength rest)

/-- The least number of bytes matched by any branch; none if some branch cannot match. -/
def Expr.leastMinLength : List Expr → Option Nat
  | [] => none
  | [e] => e.minLength
  | e :: rest => e.minLength.bind fun a => (leastMinLength rest).map fun b => min a b

end

mutual

/-- Whether only the empty text can match, if anything can. -/
def Expr.isNull : Expr → Bool
  | .empty => true
  | .byte _ => false
  | .scalar _ => false
  | .look _ => true
  | .rep _ max _ e => e.isNull || max == some 0
  | .concat es => allNull es
  | .alternation es => allNull es

/-- Whether only the empty text can match any of some expressions. -/
def Expr.allNull : List Expr → Bool
  | [] => true
  | e :: rest => e.isNull && allNull rest

end

/-- A repetition. What matches only the empty text is not repeated more than once. -/
def Expr.repOf (min : Nat) (max : Option Nat) (greedy : Bool) (e : Expr) : Expr :=
  let (min, max) := if e.isNull then (Nat.min min 1, some (Nat.min (max.getD 1) 1)) else (min, max)
  if min = 0 && max == some 0 then .empty
  else if min = 1 && max == some 1 then e
  else .rep min max greedy e

/-- Expressions after each other. -/
def Expr.concatOf (es : List Expr) : Expr :=
  match es.filter fun e => !(e matches .empty) with
  | [] => .empty
  | [e] => e
  | es => .concat es

/-! ## Flags -/

/-- The flags in force. -/
structure Flags where
  caseInsensitive : Bool := false
  multiLine : Bool := false
  dotMatchesNewLine : Bool := false
  swapGreed : Bool := false
  unicode : Bool := true
  crlf : Bool := false
  deriving DecidableEq, Repr

/-- The flags after a flag setting. -/
def Flags.apply (f : Flags) (items : List FlagItem) : Flags :=
  { caseInsensitive := (flagState .caseInsensitive items).getD f.caseInsensitive
    multiLine := (flagState .multiLine items).getD f.multiLine
    dotMatchesNewLine := (flagState .dotMatchesNewLine items).getD f.dotMatchesNewLine
    swapGreed := (flagState .swapGreed items).getD f.swapGreed
    unicode := (flagState .unicode items).getD f.unicode
    crlf := (flagState .crlf items).getD f.crlf }

/-! ## Sets -/

/-- The greatest byte. -/
def maxByte : Nat := 255

/-- The letters of a range in the other case, as a range. -/
def otherCase (r : CodeRange) : List CodeRange :=
  let low := max r.low 65
  let high := min r.high 90
  let low' := max r.low 97
  let high' := min r.high 122
  (if low ≤ high then [⟨low + 32, high + 32⟩] else [])
    ++ (if low' ≤ high' then [⟨low' - 32, high' - 32⟩] else [])

/-- A set of bytes with the ASCII letters of both cases. -/
def foldBytes (s : RangeSet) : RangeSet := s.union (.ofRanges (s.ranges.flatMap otherCase))

/-- A set with every character that differs only in case from one of its own. -/
def foldSet (f : Flags) (s : RangeSet) : RangeSet := if f.unicode then foldCase s else foldBytes s

/-- What is outside a set: other characters, or other bytes. -/
def negateSet (f : Flags) (s : RangeSet) : RangeSet :=
  if f.unicode then Unicode.complement s else s.complement maxByte

/-- A set with both cases if case does not matter, or what is outside that. -/
def foldAndNegate (f : Flags) (negated : Bool) (s : RangeSet) : RangeSet :=
  let s := if f.caseInsensitive then foldSet f s else s
  if negated then negateSet f s else s

/-- The classes between `[:` and `:]`. -/
def asciiClass (name : String) : RangeSet :=
  let of (pairs : List (Nat × Nat)) : RangeSet := .ofRanges (pairs.map fun (a, b) => ⟨a, b⟩)
  match name with
  | "alnum" => of [(48, 57), (65, 90), (97, 122)]
  | "alpha" => of [(65, 90), (97, 122)]
  | "ascii" => of [(0, 127)]
  | "blank" => of [(9, 9), (32, 32)]
  | "cntrl" => of [(0, 31), (127, 127)]
  | "digit" => of [(48, 57)]
  | "graph" => of [(33, 126)]
  | "lower" => of [(97, 122)]
  | "print" => of [(32, 126)]
  | "punct" => of [(33, 47), (58, 64), (91, 96), (123, 126)]
  | "space" => of [(9, 13), (32, 32)]
  | "upper" => of [(65, 90)]
  | "word" => of [(48, 57), (65, 90), (95, 95), (97, 122)]
  | _ => of [(48, 57), (65, 70), (97, 102)]

/-- The class of a letter. -/
def letterSet (f : Flags) (l : LetterClass) (negated : Bool) : RangeSet :=
  let s := match f.unicode, l with
    | true, .digit => Unicode.digits
    | true, .space => Unicode.whiteSpace
    | true, .word => Unicode.wordSet
    | false, .digit => asciiClass "digit"
    | false, .space => asciiClass "space"
    | false, .word => asciiClass "word"
  if negated then negateSet f s else s

/-- The set of a property. -/
def propertySet (f : Flags) (q : PropertyQuery) (negated : Bool) : Except Fault RangeSet := do
  if !f.unicode then throw .unicodeNotAllowed
  let found := match q with
    | .named name => byName name
    | .valued name value => byValue name value
  match found with
  | .ok s => return foldAndNegate f negated s
  | .error .propertyNotFound => throw .propertyNotFound
  | .error .valueNotFound => throw .propertyValueNotFound

/-- The code of a literal inside brackets: a character, or a byte. -/
def literalCode (f : Flags) (l : Literal) : Except Fault Nat :=
  let n := l.char.toNat
  if f.unicode || l.isByte || n < 128 then .ok n else .error .unicodeNotAllowed

mutual

/-- The characters or bytes of a set inside brackets. -/
def ClassSet.toRanges (f : Flags) : ClassSet → Except Fault RangeSet
  | .empty => .ok .empty
  | .literal l => do
    let n ← literalCode f l
    .ok (.single n n)
  | .range low high => do .ok (.single (← literalCode f low) (← literalCode f high))
  | .ascii name negated => .ok (foldAndNegate f negated (asciiClass name))
  | .property q negated => propertySet f q negated
  | .letter l negated => .ok (letterSet f l negated)
  | .bracketed negated s => do .ok (foldAndNegate f negated (← s.toRanges f))
  | .union sets => do .ok (.ofRanges (← unionRanges f sets))
  | .binary op l r => do
    let fold (s : RangeSet) : RangeSet := if f.caseInsensitive then foldSet f s else s
    let l := fold (← l.toRanges f)
    let r := fold (← r.toRanges f)
    let top := if f.unicode then maxCode else maxByte
    match op with
    | .intersection => .ok (l.inter r)
    | .difference => .ok (l.diff top r)
    | .symmetricDifference => .ok (l.symmDiff top r)

/-- The ranges of some sets together. -/
def ClassSet.unionRanges (f : Flags) : List ClassSet → Except Fault (List CodeRange)
  | [] => .ok []
  | s :: rest => do
    let own ← s.toRanges f
    .ok (own.ranges ++ (← unionRanges f rest))

end

/-! ## Meaning -/

/-- A set of characters or bytes as an expression. -/
def Expr.ofSet (f : Flags) (s : RangeSet) : Expr := if f.unicode then .scalar s else .byte s

/-- A literal as an expression. -/
def literalExpr (f : Flags) (l : Literal) : Expr :=
  let n := l.char.toNat
  if !f.unicode && l.isByte && n > 127 then .byte (.single n n)
  else if !f.caseInsensitive then .scalar (.single n n)
  else if f.unicode then .scalar (if hasCase n then foldCase (.single n n) else .single n n)
  else if n < 128 then .byte (foldBytes (.single n n))
  else .scalar (.single n n)

/-- Any character or byte, new lines excepted unless the flag includes them. -/
def dotExpr (f : Flags) : Expr :=
  let newLines : RangeSet := if f.crlf then .ofRanges [⟨10, 10⟩, ⟨13, 13⟩] else .single 10 10
  .ofSet f (negateSet f (if f.dotMatchesNewLine then .empty else newLines))

/-- An assertion under the flags. -/
def lookOf (f : Flags) : Assertion → Look
  | .lineStart => if f.multiLine then .lineStart f.crlf else .textStart
  | .lineEnd => if f.multiLine then .lineEnd f.crlf else .textEnd
  | .textStart => .textStart
  | .textEnd => .textEnd
  | .wordBoundary => .word f.unicode .boundary
  | .notWordBoundary => .word f.unicode .notBoundary
  | .wordStart => .word f.unicode .start
  | .wordEnd => .word f.unicode .stop
  | .wordStartHalf => .word f.unicode .startHalf
  | .wordEndHalf => .word f.unicode .stopHalf

mutual

/-- The meaning of an expression under flags, with the flags in force after it. -/
def Ast.meaning (f : Flags) : Ast → Except Fault (Expr × Flags)
  | .empty => .ok (.empty, f)
  | .flags items => .ok (.empty, f.apply items)
  | .literal l => .ok (literalExpr f l, f)
  | .dot => .ok (dotExpr f, f)
  | .assertion a => .ok (.look (lookOf f a), f)
  | .property q negated => do .ok (.scalar (← propertySet f q negated), f)
  | .letter l negated => .ok (.ofSet f (letterSet f l negated), f)
  | .bracketed negated s => do .ok (.ofSet f (foldAndNegate f negated (← s.toRanges f)), f)
  | .repetition min max greedy e => do
    let (sub, f) ← e.meaning f
    .ok (.repOf min max (greedy != f.swapGreed) sub, f)
  | .group items e => do
    let (sub, _) ← e.meaning (f.apply items)
    .ok (sub, f)
  | .alternation es => do
    let (subs, f) ← meanings f es
    .ok (.alternation subs, f)
  | .concat es => do
    let (subs, f) ← meanings f es
    .ok (.concatOf subs, f)

/-- The meanings of some expressions, flags passing from each to the next. -/
def Ast.meanings (f : Flags) : List Ast → Except Fault (List Expr × Flags)
  | [] => .ok ([], f)
  | e :: rest => do
    let (sub, f) ← e.meaning f
    let (subs, f) ← meanings f rest
    .ok (sub :: subs, f)

end

/-- The meaning of a written expression. -/
def Expr.read (d : Dialect) (f : Flags) (pattern : String) : Except Fault Expr := do
  let (e, _) ← (← Ast.read d pattern).meaning f
  return e

end RuleScan.Regex
