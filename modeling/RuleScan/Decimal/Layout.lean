import RuleScan.Decimal.Shortest

/-!
# Writing doubles

One function lays out the shortest digits of a double; a `Layout` holds every decision that a
format may take differently. Two formats are used: `plain`, in listings and metadata, and `json`.
-/

namespace RuleScan.Decimal

/-- The decisions of a number format. -/
structure Layout where
  /-- Which of two equally near decimals is written. -/
  tie : Tie
  /-- The least and greatest scientific exponent written without an exponent part. -/
  positional : Option (Int × Int)
  /-- Written after whole numbers. -/
  wholeSuffix : String
  /-- Sign of non-negative exponents. -/
  plusSign : String
  nan : String
  inf : String

/-- Digits only, never an exponent: `1`, `-0`, `0.0000001`. A tie goes up. -/
def Layout.plain : Layout :=
  { tie := .up, positional := none, wholeSuffix := "", plusSign := "", nan := "NaN", inf := "inf" }

/-- The numbers of JSON texts: `1.0`, `0.00001`, `1e-6`, `1e+16`. A tie goes to the even digit. -/
def Layout.json : Layout :=
  { tie := .even, positional := some (-5, 15), wholeSuffix := ".0", plusSign := "+",
    nan := "null", inf := "null" }

/-- The digits written without an exponent. -/
def Layout.spread (l : Layout) (d : Digits) : String :=
  if d.point ≤ 0 then
    "0." ++ String.ofList (List.replicate (-d.point).toNat '0' ++ d.digits)
  else
    let whole := d.point.toNat
    if d.digits.length ≤ whole then
      String.ofList (d.digits ++ List.replicate (whole - d.digits.length) '0') ++ l.wholeSuffix
    else
      String.ofList (d.digits.take whole) ++ "." ++ String.ofList (d.digits.drop whole)

/-- The digits written with an exponent. -/
def Layout.scientific (l : Layout) (d : Digits) : String :=
  let e := d.point - 1
  let mantissa := match d.digits with
    | [] => "0"
    | [c] => c.toString
    | c :: rest => c.toString ++ "." ++ String.ofList rest
  let sign := if e < 0 then "-" else l.plusSign
  mantissa ++ "e" ++ sign ++ String.ofList (natDigits e.natAbs)

/-- The text of the magnitude `mant · 2 ^ expo`. -/
def Layout.magnitude (l : Layout) (mant : Nat) (expo : Int) : String :=
  if mant = 0 then "0" ++ l.wholeSuffix
  else
    let d := shortest l.tie mant expo
    match l.positional with
    | none => l.spread d
    | some (least, greatest) =>
      if least ≤ d.point - 1 && d.point - 1 ≤ greatest then l.spread d else l.scientific d

/-- The text of a double. -/
def Layout.write (l : Layout) (x : Float) : String :=
  match partsOf x with
  | .nan => l.nan
  | .infinite neg => if neg && l.inf ≠ l.nan then "-" ++ l.inf else l.inf
  | .finite neg mant expo => (if neg then "-" else "") ++ l.magnitude mant expo

end RuleScan.Decimal
