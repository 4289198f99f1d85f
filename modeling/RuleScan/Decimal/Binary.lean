/-!
# Binary floating point as a fraction

A finite double is a sign and a magnitude `mant · 2 ^ expo`. This module takes a double apart,
and rounds an exact non-negative fraction to the nearest double, a tie going to the even mantissa.
Everything is exact arithmetic on natural numbers; only `Float.toBits` and `Float.ofBits` touch
the machine type.
-/

namespace RuleScan.Decimal

/-- The parts of a double. -/
inductive Parts
  | nan
  | infinite (neg : Bool)
  /-- The value `± mant · 2 ^ expo`. -/
  | finite (neg : Bool) (mant : Nat) (expo : Int)
  deriving DecidableEq, Repr

/-- The exponent of the smallest positive double. -/
def minExpo : Int := -1074

/-- The parts encoded by sixty-four bits. -/
def partsOfBits (bits : UInt64) : Parts :=
  let b : Nat := bits.toNat
  let neg := b / Nat.pow 2 63 % 2 == 1
  let field : Nat := b / Nat.pow 2 52 % Nat.pow 2 11
  let frac : Nat := b % Nat.pow 2 52
  if field = 2047 then
    if frac = 0 then .infinite neg else .nan
  else if field = 0 then .finite neg frac minExpo
  else .finite neg (frac + Nat.pow 2 52) (Int.ofNat field - 1075)

/-- The parts of a double. -/
def partsOf (x : Float) : Parts := partsOfBits x.toBits

/-- The quotient `num / den` rounded to the nearest natural number, a tie to the even one. -/
def roundQuotient (num den : Nat) : Nat :=
  let q := num / den
  let r := num % den
  if 2 * r < den then q
  else if 2 * r > den then q + 1
  else if q % 2 = 0 then q else q + 1

/-- `num / den` scaled by `2 ^ (-e)`, as a fraction. -/
def scaleDown (num den : Nat) (e : Int) : Nat × Nat :=
  if 0 ≤ e then (num, den * Nat.pow 2 e.toNat) else (num * Nat.pow 2 (-e).toNat, den)

/-- The bits of the double nearest to `num / den`, for a positive denominator. Magnitudes past the
largest double become infinite. -/
def nearestBits (num den : Nat) : UInt64 :=
  if num = 0 then 0 else
    -- The exponent that leaves a quotient of fifty-three or fifty-four bits.
    let guess : Int := (num.log2 : Int) - (den.log2 : Int) - 53
    let e₀ := max guess minExpo
    let wide := scaleDown num den e₀
    let e := if wide.1 / wide.2 ≥ Nat.pow 2 53 then e₀ + 1 else e₀
    let s := scaleDown num den e
    let m := roundQuotient s.1 s.2
    let (m, e) := if m = Nat.pow 2 53 then (Nat.pow 2 52, e + 1) else (m, e)
    if m < Nat.pow 2 52 then m.toUInt64
    else if e > 971 then (2047 * Nat.pow 2 52).toUInt64
    else ((e + 1075).toNat * Nat.pow 2 52 + (m - Nat.pow 2 52)).toUInt64

/-- The double nearest to `digits · 10 ^ expo`. Exponents far outside the range of doubles are
decided without computing the power. -/
def nearest (digits : Nat) (expo : Int) : Float :=
  if digits = 0 then 0.0
  else
    let scale : Int := expo + (digits.log2 / 3 : Nat)
    if scale > 400 then Float.ofBits 0x7FF0000000000000
    else if expo + (digits.log2 / 3 : Nat) + 1 < -400 then 0.0
    else if 0 ≤ expo then Float.ofBits (nearestBits (digits * Nat.pow 10 expo.toNat) 1)
    else Float.ofBits (nearestBits digits (Nat.pow 10 (-expo).toNat))

end RuleScan.Decimal
