/-!
# Sets of code points as ranges

A set of natural numbers given by closed ranges in increasing order with gaps between them. The
set operations keep that form. A range list is also read from its text form, as in
`41-5A 61-7A B5`, which is how the tables of character properties are written.
-/

namespace RuleScan.Text

/-- A closed range of code points. -/
structure CodeRange where
  low : Nat
  high : Nat
  deriving DecidableEq, Repr

/-- A set of code points: ranges in increasing order, no two of them touching. -/
structure RangeSet where
  ranges : List CodeRange
  deriving DecidableEq, Repr

namespace RangeSet

/-- The empty set. -/
def empty : RangeSet := ⟨[]⟩

/-- Whether a code point is in the set. -/
def contains (s : RangeSet) (n : Nat) : Bool := s.ranges.any fun r => r.low ≤ n && n ≤ r.high

/-- Inserts a range in order of lower ends. -/
def insertByLow (r : CodeRange) : List CodeRange → List CodeRange
  | [] => [r]
  | s :: rest => if r.low ≤ s.low then r :: s :: rest else s :: insertByLow r rest

/-- Joins overlapping and touching neighbours of a list ordered by lower ends. -/
def joinTouching : List CodeRange → List CodeRange
  | [] => []
  | r :: rest =>
    let rec go (cur : CodeRange) : List CodeRange → List CodeRange
      | [] => [cur]
      | s :: rest =>
        if s.low ≤ cur.high + 1 then go ⟨cur.low, max cur.high s.high⟩ rest
        else cur :: go s rest
    go r rest

/-- The set covered by any list of ranges, each with its lower end first. -/
def ofRanges (rs : List CodeRange) : RangeSet :=
  ⟨joinTouching (rs.mergeSort fun a b => a.low ≤ b.low)⟩

/-- The set of one range. -/
def single (low high : Nat) : RangeSet := ⟨[⟨low, high⟩]⟩

/-- The points in either set. -/
def union (a b : RangeSet) : RangeSet := ofRanges (a.ranges ++ b.ranges)

/-- The points up to `top` outside the ranges, from `start` on. -/
def gaps (top start : Nat) : List CodeRange → List CodeRange
  | [] => if start ≤ top then [⟨start, top⟩] else []
  | r :: rest =>
    if start < r.low then ⟨start, r.low - 1⟩ :: gaps top (r.high + 1) rest
    else gaps top (r.high + 1) rest

/-- The points up to `top` outside the set. -/
def complement (top : Nat) (s : RangeSet) : RangeSet := ⟨gaps top 0 s.ranges⟩

/-- The parts that two ordered range lists share. -/
def overlaps : Nat → List CodeRange → List CodeRange → List CodeRange
  | 0, _, _ => []
  | _, [], _ => []
  | _, _, [] => []
  | fuel + 1, a :: as, b :: bs =>
    let low := max a.low b.low
    let high := min a.high b.high
    let rest := if a.high < b.high then overlaps fuel as (b :: bs) else overlaps fuel (a :: as) bs
    if low ≤ high then ⟨low, high⟩ :: rest else rest

/-- The points in both sets. -/
def inter (a b : RangeSet) : RangeSet :=
  ⟨overlaps (a.ranges.length + b.ranges.length) a.ranges b.ranges⟩

/-- The points of the first set outside the second, for sets of points up to `top`. -/
def diff (top : Nat) (a b : RangeSet) : RangeSet := a.inter (b.complement top)

/-- The points in exactly one of two sets of points up to `top`. -/
def symmDiff (top : Nat) (a b : RangeSet) : RangeSet := (a.diff top b).union (b.diff top a)

/-! ## Text form -/

/-- The value of a hexadecimal digit. -/
def hexValue (c : Char) : Nat :=
  if c.toNat ≤ '9'.toNat then c.toNat - 48
  else if c.toNat ≤ 'F'.toNat then c.toNat - 55
  else c.toNat - 87

/-- Reads ranges: `low` is the lower end once a dash was seen, `cur` the number being read. -/
def readRanges (low : Option Nat) (cur : Option Nat) (done : List CodeRange) :
    List Char → List CodeRange
  | [] => (close low cur done).reverse
  | ' ' :: rest => readRanges none none (close low cur done) rest
  | '\n' :: rest => readRanges none none (close low cur done) rest
  | '-' :: rest => readRanges cur none done rest
  | c :: rest => readRanges low (some (16 * cur.getD 0 + hexValue c)) done rest
where
  /-- Adds the range just read. -/
  close (low cur : Option Nat) (done : List CodeRange) : List CodeRange :=
    match cur with
    | none => done
    | some high => ⟨low.getD high, high⟩ :: done

/-- The set written as hexadecimal ranges in increasing order, as in `41-5A 61-7A B5`; lines may be
broken between ranges. -/
def ofText (s : String) : RangeSet := ⟨readRanges none none [] s.toList⟩

end RangeSet

/-- A range set stored for look-up by bisection. -/
structure RangeTable where
  ranges : Array CodeRange

namespace RangeTable

/-- The table of a set. -/
def ofSet (s : RangeSet) : RangeTable := ⟨s.ranges.toArray⟩

/-- Looks for a range that holds `n` among the indices from `low` up to `high`. -/
def search (t : RangeTable) (n : Nat) : Nat → Nat → Nat → Bool
  | 0, _, _ => false
  | fuel + 1, low, high =>
    if low < high then
      let mid := (low + high) / 2
      match t.ranges[mid]? with
      | none => false
      | some r =>
        if n < r.low then t.search n fuel low mid
        else if r.high < n then t.search n fuel (mid + 1) high
        else true
    else false

/-- Whether a code point is in the table. -/
def contains (t : RangeTable) (n : Nat) : Bool := t.search n (t.ranges.size + 1) 0 t.ranges.size

end RangeTable

end RuleScan.Text
