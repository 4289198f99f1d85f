import RuleScan.Decimal.Layout

/-!
# JSON values and their texts

A JSON document as a value, with the fields of a record in the order of the text, and the two ways
to write it: compact, and indented by two spaces with empty lists and records as `[]` and `{}`.
-/

namespace RuleScan.Json

/-- A JSON number as it is read: a natural number of sixty-four bits, a negative integer of
sixty-four bits, or a double for everything else (`-0` included). -/
inductive Number
  | natural (n : Nat)
  | negative (i : Int)
  | real (x : Float)

/-- A JSON value. -/
inductive Value
  | null
  | bool (b : Bool)
  | number (n : Number)
  | text (s : String)
  | list (items : List Value)
  | record (fields : List (String × Value))

namespace Value

/-- A natural number as a value. -/
def ofNat (n : Nat) : Value := .number (.natural n)

/-- A list of values, each built from an element. -/
def ofList (f : α → Value) (xs : List α) : Value := .list (xs.map f)

/-- `null` for an absent value. -/
def ofOption (f : α → Value) : Option α → Value
  | none => .null
  | some a => f a

/-- The value of the first field of that name. -/
def field? (v : Value) (name : String) : Option Value :=
  match v with
  | .record fields => (fields.find? (·.1 == name)).map (·.2)
  | _ => none

end Value

/-! ## Characters inside quotes -/

/-- A hexadecimal digit in lower case. -/
def hexDigit (n : Nat) : Char := if n < 10 then Char.ofNat (48 + n) else Char.ofNat (87 + n)

/-- How a character is written inside quotes: quotes, backslashes and control characters are
escaped, all else stands for itself. -/
def escapeChar (c : Char) : List Char :=
  if c = '"' then ['\\', '"']
  else if c = '\\' then ['\\', '\\']
  else if c = '\n' then ['\\', 'n']
  else if c = '\r' then ['\\', 'r']
  else if c = '\t' then ['\\', 't']
  else if c = '\x08' then ['\\', 'b']
  else if c = '\x0c' then ['\\', 'f']
  else if c.toNat < 32 then
    ['\\', 'u', '0', '0', hexDigit (c.toNat / 16), hexDigit (c.toNat % 16)]
  else [c]

/-- A string between quotes. -/
def quoteChars (s : String) : List Char := '"' :: (s.toList.flatMap escapeChar ++ ['"'])

/-- A string between quotes. -/
def quote (s : String) : String := String.ofList (quoteChars s)

/-- The text of a number. -/
def Number.write : Number → String
  | .natural n => String.ofList (Decimal.natDigits n)
  | .negative i => "-" ++ String.ofList (Decimal.natDigits i.natAbs)
  | .real x => Decimal.Layout.json.write x

/-! ## Printing -/

mutual

/-- The compact text of a value. -/
def Value.compact : Value → String
  | .null => "null"
  | .bool b => if b then "true" else "false"
  | .number n => n.write
  | .text s => quote s
  | .list items => "[" ++ compactItems true items ++ "]"
  | .record fields => "\x7b" ++ compactFields true fields ++ "\x7d"

/-- The items of a list, each but the first after a comma. -/
def compactItems (first : Bool) : List Value → String
  | [] => ""
  | v :: rest => (if first then "" else ",") ++ v.compact ++ compactItems false rest

/-- The fields of a record, each but the first after a comma. -/
def compactFields (first : Bool) : List (String × Value) → String
  | [] => ""
  | (k, v) :: rest =>
    (if first then "" else ",") ++ quote k ++ ":" ++ v.compact ++ compactFields false rest

end

/-- A new line indented to a depth. -/
def newLine (depth : Nat) : String := String.ofList ('\n' :: List.replicate (2 * depth) ' ')

mutual

/-- The indented text of a value that starts at a depth. -/
def Value.prettyAt (depth : Nat) : Value → String
  | .null => "null"
  | .bool b => if b then "true" else "false"
  | .number n => n.write
  | .text s => quote s
  | .list [] => "[]"
  | .list (v :: rest) =>
    "[" ++ newLine (depth + 1) ++ v.prettyAt (depth + 1) ++ prettyItems depth rest
      ++ newLine depth ++ "]"
  | .record [] => "\x7b\x7d"
  | .record ((k, v) :: rest) =>
    "\x7b" ++ newLine (depth + 1) ++ quote k ++ ": " ++ v.prettyAt (depth + 1)
      ++ prettyFields depth rest ++ newLine depth ++ "\x7d"

/-- The items after the first of an indented list. -/
def prettyItems (depth : Nat) : List Value → String
  | [] => ""
  | v :: rest => "," ++ newLine (depth + 1) ++ v.prettyAt (depth + 1) ++ prettyItems depth rest

/-- The fields after the first of an indented record. -/
def prettyFields (depth : Nat) : List (String × Value) → String
  | [] => ""
  | (k, v) :: rest =>
    "," ++ newLine (depth + 1) ++ quote k ++ ": " ++ v.prettyAt (depth + 1)
      ++ prettyFields depth rest

end

/-- The indented text of a value. -/
def Value.pretty (v : Value) : String := v.prettyAt 0

end RuleScan.Json
