import RuleScan.Decimal.Binary

/-!
# Numerals

Numbers as they are typed. A whole number is digits after an optional sign. A real number is one of
the words `inf`, `infinity` and `nan` in any case, or decimal digits with an optional point and an
optional exponent, again after an optional sign; there must be a digit before or after the point.
-/

namespace RuleScan.Text

/-- Whether a character is one of the ten digits. -/
def isDigit (c : Char) : Bool := '0' ≤ c && c ≤ '9'

/-- The number that a list of digits spells. -/
def digitsValue (cs : List Char) : Nat := cs.foldl (fun n c => 10 * n + (c.toNat - 48)) 0

/-- Takes an optional sign off the front: whether it was a minus, and what follows. -/
def splitSign : List Char → Bool × List Char
  | '-' :: rest => (true, rest)
  | '+' :: rest => (false, rest)
  | rest => (false, rest)

/-- A whole number: digits after an optional sign. -/
def integer? (s : String) : Option Int :=
  let (neg, digits) := splitSign s.toList
  if digits.isEmpty || !digits.all isDigit then none
  else if neg then some (-(digitsValue digits : Int))
  else some (digitsValue digits)

/-- Digits before and after a point, and a power of ten. -/
structure Scientific where
  whole : List Char
  fraction : List Char
  expo : Int
  deriving DecidableEq, Repr

/-- The exponent part of a number: nothing, or a letter `e` and a whole number. -/
def exponent? : List Char → Option Int
  | [] => some 0
  | c :: rest =>
    if c = 'e' || c = 'E' then
      let (neg, digits) := splitSign rest
      if digits.isEmpty || !digits.all isDigit then none
      else some (if neg then -(digitsValue digits : Int) else digitsValue digits)
    else none

/-- A decimal number without its sign. -/
def scientific? (cs : List Char) : Option Scientific :=
  let whole := cs.takeWhile isDigit
  let (fraction, rest) := match cs.dropWhile isDigit with
    | '.' :: rest => (rest.takeWhile isDigit, rest.dropWhile isDigit)
    | rest => ([], rest)
  if whole.isEmpty && fraction.isEmpty then none
  else (exponent? rest).map fun expo => { whole, fraction, expo }

/-- The double nearest to a decimal number. -/
def Scientific.value (n : Scientific) : Float :=
  Decimal.nearest (digitsValue (n.whole ++ n.fraction)) (n.expo - n.fraction.length)

/-- The words for numbers that no digits spell. -/
def specialReal? (cs : List Char) : Option Float :=
  match String.ofList (cs.map Char.toLower) with
  | "inf" | "infinity" => some (Float.ofBits 0x7FF0000000000000)
  | "nan" => some (Float.ofBits 0x7FF8000000000000)
  | _ => none

/-- A real number. -/
def real? (s : String) : Option Float :=
  let (neg, rest) := splitSign s.toList
  let magnitude := match specialReal? rest with
    | some x => some x
    | none => (scientific? rest).map Scientific.value
  magnitude.map fun x => if neg then -x else x

end RuleScan.Text
