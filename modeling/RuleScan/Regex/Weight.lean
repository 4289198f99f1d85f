import RuleScan.Regex.Expr

/-!
# The memory of automata

An expression stands for two automata over single bytes, one of which reads forward and the other
one backward. The memory that the bigger of them takes bounds the expressions that are accepted.
They differ in how they take a character of a set, whose UTF-8 forms are sequences of byte ranges:
reading forward, equal ends of these sequences are shared, and reading backward their beginnings
(`forwardWeight`, `backwardWeight`).
-/

namespace RuleScan.Regex

open RuleScan.Text

/-! ## Characters as bytes -/

/-- The bytes of a sequence, each between two bounds. -/
abbrev ByteRanges := List (Nat × Nat)

/-- The sequences for the numbers between two bounds in digits of six bits: a first byte of some
kind, and `digits` many further ones. -/
def sequencesBetween (kind : Nat) : (digits low high : Nat) → List ByteRanges
  | 0, low, high => [[(kind + low, kind + high)]]
  | digits + 1, low, high =>
    let unit := 64 ^ (digits + 1)
    let behind (first last low high : Nat) : List ByteRanges :=
      (sequencesBetween 0x80 digits low high).map ((kind + first, kind + last) :: ·)
    let first := low / unit
    let last := high / unit
    if first = last then behind first last (low % unit) (high % unit)
    else
      -- what is not there in full at both ends, and what is between
      let cutsFirst := low % unit ≠ 0
      let cutsLast := high % unit ≠ unit - 1
      let inFirst := if cutsFirst then first + 1 else first
      let inLast := if cutsLast then last - 1 else last
      (if cutsFirst then behind first first (low % unit) (unit - 1) else [])
        ++ (if inFirst ≤ inLast then behind inFirst inLast 0 (unit - 1) else [])
        ++ (if cutsLast then behind last last 0 (high % unit) else [])

/-- The code points with UTF-8 forms of one kind: their bounds, what is added to the first digit,
and the number of further ones. -/
def utf8Kinds : List (Nat × Nat × Nat × Nat) :=
  [(0, 0x7F, 0, 0), (0x80, 0x7FF, 0xC0, 1), (0x800, 0xD7FF, 0xE0, 2), (0xE000, 0xFFFF, 0xE0, 2),
    (0x10000, 0x10FFFF, 0xF0, 3)]

/-- The UTF-8 forms of the characters of a set. -/
def utf8Sequences (set : RangeSet) : List ByteRanges :=
  set.ranges.flatMap fun r => utf8Kinds.flatMap fun (low, high, kind, digits) =>
    if max r.low low ≤ min r.high high then
      sequencesBetween kind digits (max r.low low) (min r.high high)
    else []

/-- Sequences in groups of those that start alike. -/
def groupsOf (sequences : List ByteRanges) : List (List ByteRanges) :=
  sequences.splitBy fun a b => a.head? == b.head?

/-- What is left of some sequences after each of their first bytes, and after further ones. -/
def restsOf : (most : Nat) → List ByteRanges → List (List ByteRanges)
  | 0, _ => []
  | most + 1, sequences =>
    sequences :: (groupsOf sequences).flatMap fun group =>
      match group.map List.tail with
      | [] :: _ => []
      | rest => restsOf most rest

/-! ## Weights -/

/-- The bytes of memory that an automaton may take. -/
def memoryLimit : Nat := 10 * Nat.pow 2 20

/-- The memory of a state. -/
def stateWeight : Nat := 32

/-- The memory of a state's way on with some bytes. -/
def rangeWeight : Nat := 8

/-- The memory of a state's way on without bytes. -/
def jumpWeight : Nat := 4

/-- The memory for one byte of a set. -/
def byteWeight (set : RangeSet) : Nat :=
  match set.ranges with
  | [r] => if r.low = r.high then stateWeight else 2 * stateWeight
  | rs => 2 * stateWeight + rangeWeight * rs.length

/-- The memory for a character of a set, reading forward. -/
def forwardWeight (set : RangeSet) : Nat :=
  let rests := (restsOf 4 (utf8Sequences set)).eraseDups
  stateWeight + stateWeight * rests.length + rangeWeight * (rests.flatMap groupsOf).length

/-- The memory for a character of a set, reading backward. -/
def backwardWeight (set : RangeSet) : Nat :=
  let sequences := utf8Sequences set
  2 * stateWeight + jumpWeight * sequences.length
    + stateWeight * ((restsOf 4 sequences).flatMap groupsOf).length

/-- The memory for a character of a set. All characters of one byte take what this byte takes, and a
single character what its bytes take. -/
def scalarWeight (many : RangeSet → Nat) (set : RangeSet) : Nat :=
  match set.ranges with
  | [r] =>
    if r.low = r.high then utf8Length r.low * stateWeight
    else if r.high < 0x80 then byteWeight set else many set
  | rs => if rs.all (·.high < 0x80) then byteWeight set else many set

/-- Whether a repeated expression may match the empty text, as far as is known. -/
def Expr.nullable (e : Expr) : Bool := e.minLength.all (· == 0)

/-- The memory for a number of copies. -/
def copiesWeight (n weight : Nat) : Nat := if n = 0 then stateWeight else n * weight

mutual

/-- The memory for an expression, where a character of a set of many takes what `many` says. -/
def Expr.weight (many : RangeSet → Nat) : Expr → Nat
  | .empty => stateWeight
  | .byte set => byteWeight set
  | .scalar set => scalarWeight many set
  | .look _ => stateWeight
  | .rep min max _ e =>
    let weight := e.weight many
    let choice := stateWeight + 2 * jumpWeight
    match max with
    | none =>
      if 0 < min then min * weight + choice
      else if e.nullable then weight + 2 * choice + stateWeight
      else weight + choice
    | some max =>
      if min = max then copiesWeight min weight
      else if min = 0 && max = 1 then weight + choice + stateWeight
      else copiesWeight min weight + stateWeight + (max - min) * (weight + choice)
  | .concat es => weights many es
  | .alternation es => 2 * stateWeight + jumpWeight * es.length + weights many es

/-- The memory for some expressions. -/
def Expr.weights (many : RangeSet → Nat) : List Expr → Nat
  | [] => 0
  | e :: rest => e.weight many + weights many rest

end

/-- The memory that an expression takes. -/
def Expr.memory (e : Expr) : Nat := max (e.weight forwardWeight) (e.weight backwardWeight)

end RuleScan.Regex
