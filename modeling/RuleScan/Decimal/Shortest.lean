import RuleScan.Decimal.Binary

/-!
# Shortest decimals

The fewest decimal digits that read back as a given double. A double stands for the interval of
reals that round to it, its ends included exactly when its mantissa is even. Of the decimal grids
with one digit, two digits and so on, the first one with a point in that interval is taken, and on
it the point nearest to the value; a `Tie` decides between two points that are equally near.
-/

namespace RuleScan.Decimal

/-- A positive decimal `0.d₁d₂… · 10 ^ point`, where `digits` spells `d₁d₂…` without trailing
zeros. -/
structure Digits where
  digits : List Char
  point : Int
  deriving DecidableEq, Repr

/-- Which of two points that are equally near is taken. -/
inductive Tie
  | up
  /-- The one whose last digit is even. -/
  | even
  deriving DecidableEq, Repr

/-- The reals that round to `mant · 2 ^ expo`, as numerators over the common denominator `den`. -/
structure Interval where
  low : Nat
  value : Nat
  high : Nat
  den : Nat
  closed : Bool

/-- The interval of the double `mant · 2 ^ expo`. Below a power of two the gap is half as wide. -/
def Interval.ofParts (mant : Nat) (expo : Int) : Interval :=
  let narrow := mant = Nat.pow 2 52 ∧ expo ≠ minExpo
  let scale := if 0 ≤ expo then Nat.pow 2 expo.toNat else 1
  { low := (if narrow then 4 * mant - 1 else 4 * mant - 2) * scale
    value := 4 * mant * scale
    high := (4 * mant + 2) * scale
    den := 4 * (if 0 ≤ expo then 1 else Nat.pow 2 (-expo).toNat)
    closed := mant % 2 = 0 }

/-- Whether `n · 10 ^ p` lies in the interval. -/
def Interval.holds (i : Interval) (n : Nat) (p : Int) : Bool :=
  let up := if 0 ≤ p then n * Nat.pow 10 p.toNat * i.den else n * i.den
  let unit := if 0 ≤ p then 1 else Nat.pow 10 (-p).toNat
  if i.closed then i.low * unit ≤ up && up ≤ i.high * unit
  else i.low * unit < up && up < i.high * unit

/-- Whether `n + 1` is taken for a value that is `rest / den` above `n`. -/
def Tie.takesUp (t : Tie) (n rest den : Nat) : Bool :=
  if 2 * rest = den then t = up || n % 2 = 1 else den < 2 * rest

/-- The largest `n` with `n · 10 ^ p` at most the value, and whether `n + 1` is taken before it. -/
def Interval.below (i : Interval) (t : Tie) (p : Int) : Nat × Bool :=
  let num := if 0 ≤ p then i.value else i.value * Nat.pow 10 (-p).toNat
  let den := if 0 ≤ p then i.den * Nat.pow 10 p.toNat else i.den
  (num / den, t.takesUp (num / den) (num % den) den)

/-- The grid point in the interval nearest to the value, if the grid `10 ^ p` has one there. -/
def Interval.pick (i : Interval) (t : Tie) (p : Int) : Option Nat :=
  let (n, takesUp) := i.below t p
  match i.holds n p && n ≠ 0, i.holds (n + 1) p with
  | true, true => some (if takesUp then n + 1 else n)
  | true, false => some n
  | false, true => some (n + 1)
  | false, false => none

/-- The power of ten just above the value: the least `k` with `value < 10 ^ k`, found from an
estimate that is at most a few short. -/
def Interval.magnitude (i : Interval) : Int :=
  let bits : Int := (i.value.log2 : Int) - (i.den.log2 : Int)
  let guess : Int := bits * 30103 / 100000 - 1
  let covers (k : Int) : Bool :=
    if 0 ≤ k then i.value < i.den * Nat.pow 10 k.toNat else i.value * Nat.pow 10 (-k).toNat < i.den
  let rec climb : Nat → Int → Int
    | 0, k => k
    | fuel + 1, k => if covers k then k else climb fuel (k + 1)
  climb 6 guess

/-- The text of a natural number in decimal. -/
def natDigits (n : Nat) : List Char := Nat.toDigits 10 n

/-- Removes the zeros at the end. -/
def dropTrailingZeros (cs : List Char) : List Char := (cs.reverse.dropWhile (· == '0')).reverse

/-- The fewest digits that read back as the positive double `mant · 2 ^ expo`. -/
def shortest (t : Tie) (mant : Nat) (expo : Int) : Digits :=
  let i := Interval.ofParts mant expo
  let k := i.magnitude
  let rec search : Nat → Nat → Nat × Int
    | 0, count => ((i.below t (k - count)).1, k - count)
    | fuel + 1, count =>
      match i.pick t (k - count) with
      | some n => (n, k - count)
      | none => search fuel (count + 1)
  let (n, p) := search 17 1
  let text := natDigits n
  { digits := dropTrailingZeros text, point := p + text.length }

end RuleScan.Decimal
