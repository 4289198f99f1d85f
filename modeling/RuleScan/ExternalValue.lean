import RuleScan.Json.Decoder
import RuleScan.Text.Numeral
import RuleScan.Text.Quoted

/-!
# Values of external variables

The conditions of rules may refer to variables that are defined from outside. A value typed by hand
is taken as a truth value, a whole number, a real number or a text, the first of these that it can
be; in a document its JSON type decides.
-/

namespace RuleScan

/-- The value of an external variable. -/
inductive ExternalValue
  | bool (b : Bool)
  | integer (i : Int64)
  | real (x : Float)
  | text (s : String)

namespace ExternalValue

/-- Whether a whole number has sixty-four bits with a sign. -/
def fits (i : Int) : Bool := -Nat.pow 2 63 ≤ i && i < Nat.pow 2 63

/-- The value that a typed text stands for. -/
def parse (raw : String) : ExternalValue :=
  if raw = "true" then .bool true
  else if raw = "false" then .bool false
  else match (Text.integer? raw).filter fits, Text.real? raw with
    | some i, _ => .integer (Int64.ofInt i)
    | none, some x => .real x
    | none, none => .text raw

/-- The text of a whole number. -/
def integerText (i : Int) : String :=
  (if i < 0 then "-" else "") ++ String.ofList (Decimal.natDigits i.natAbs)

/-- How a value is shown; texts are quoted. -/
def display : ExternalValue → String
  | bool b => if b then "true" else "false"
  | integer i => integerText i.toInt
  | real x => Decimal.Layout.plain.write x
  | text s => Text.quoted s

/-- A value in a document. -/
def toJson : ExternalValue → Json.Value
  | bool b => .bool b
  | integer i =>
    if i.toInt < 0 then .number (.negative i.toInt) else .number (.natural i.toInt.toNat)
  | real x => .number (.real x)
  | text s => .text s

/-- The value that a JSON value stands for: whole numbers past sixty-four bits with a sign become
real ones. -/
def ofJson? : Json.Value → Option ExternalValue
  | .bool b => some (.bool b)
  | .number (.natural n) =>
    some (if n < Nat.pow 2 63 then .integer (Int64.ofInt n) else .real (Decimal.nearest n 0))
  | .number (.negative i) => some (.integer (Int64.ofInt i))
  | .number (.real x) => some (.real x)
  | .text s => some (.text s)
  | _ => none

/-- Reads a value in a document. -/
def decoder : Json.Decoder ExternalValue := fun depth tokens => do
  let (v, rest) ← Json.value depth tokens
  match ofJson? v with
  | some a => .ok (a, rest)
  | none => .error (.noVariant "GlobalValue")

/-- The name of the kind of a value. -/
def kind : ExternalValue → String
  | bool _ => "Bool"
  | integer _ => "Integer"
  | real _ => "Float"
  | text _ => "String"

end ExternalValue

end RuleScan
