import RuleScan.ExternalValue
import RuleScan.Text.Bytes

/-!
# Values and types in conditions

What the parts of a condition stand for. A part may also be undefined, which is no value. Modules
bring records of fields, lists and functions; these have types, but only single values are computed
with.
-/

namespace RuleScan.Rules

/-- A value. -/
inductive Val
  | bool (b : Bool)
  | integer (i : Int64)
  | real (x : Float)
  | text (s : ByteArray)

/-- The type of a part of a condition. -/
inductive Ty
  | bool
  | integer
  | real
  | text
  | regex
  | record (fields : List (String × Ty))
  | list (item : Ty)
  /-- A map from texts. -/
  | dictionary (value : Ty)
  /-- A function, with the types of its arguments and its result in each of its forms. -/
  | function (forms : List (List Ty × Ty))

namespace Ty

/-- Whether two types are the same single type. -/
def same : Ty → Ty → Bool
  | bool, bool => true
  | integer, integer => true
  | real, real => true
  | text, text => true
  | regex, regex => true
  | _, _ => false

/-- Whether the values of a type are numbers. -/
def isNumber : Ty → Bool
  | integer => true
  | real => true
  | _ => false

/-- Whether a value of a type may stand for a truth value. -/
def isTruthy : Ty → Bool
  | bool => true
  | integer => true
  | real => true
  | text => true
  | _ => false

/-- Whether types are the same ones in the same order. -/
def sameAll : List Ty → List Ty → Bool
  | [], [] => true
  | a :: as, b :: bs => same a b && sameAll as bs
  | _, _ => false

end Ty

namespace Val

/-- The truth value that a value stands for. -/
def truth : Val → Bool
  | bool b => b
  | integer i => i != 0
  | real x => x != 0.0
  | text s => s.size != 0

/-- A number as a real one. -/
def toReal? : Val → Option Float
  | integer i => some i.toFloat
  | real x => some x
  | _ => none

/-- The value of an external variable. -/
def ofExternal : ExternalValue → Val
  | .bool b => bool b
  | .integer i => integer i
  | .real x => real x
  | .text s => text s.toUTF8

/-- The type of the value of an external variable. -/
def typeOfExternal : ExternalValue → Ty
  | .bool _ => .bool
  | .integer _ => .integer
  | .real _ => .real
  | .text _ => .text

end Val

/-- Whether the first text comes before the second, byte by byte. -/
def bytesBefore (a b : ByteArray) : (fuel pos : Nat) → Bool
  | 0, _ => false
  | fuel + 1, pos =>
    if pos < a.size && pos < b.size then
      let x := Text.byteAt a pos
      let y := Text.byteAt b pos
      if x < y then true else if y < x then false else bytesBefore a b fuel (pos + 1)
    else pos < b.size

/-- Whether the first text comes before the second. -/
def textBefore (a b : ByteArray) : Bool := bytesBefore a b (a.size + 1) 0

/-- Whether two texts have the same bytes. -/
def sameBytes (a b : ByteArray) : Bool := a.size == b.size && Text.occursAt a b 0

end RuleScan.Rules
