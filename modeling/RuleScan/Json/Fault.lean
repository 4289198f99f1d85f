import RuleScan.Json.Value
import RuleScan.Text.Quoted

/-!
# What can be wrong with a JSON text

Faults of the text itself, and faults of its meaning: a value of another kind than the one
expected, a missing or repeated field, a name that is no variant. `Fault.message` has the wording,
which is that of this library: it follows the usual descriptions, but does not tell the line and the
column of the fault.
-/

namespace RuleScan.Json

/-- What was found where a value of another kind was expected. -/
inductive Found
  | null
  | bool (b : Bool)
  | natural (n : Nat)
  | negative (i : Int)
  | real (x : Float)
  | text (s : String)
  | list
  | record

/-- A reason to refuse a JSON text. -/
inductive Fault
  | eofInValue
  | eofInText
  | eofInList
  | eofInRecord
  | expectedValue
  | expectedIdent
  | expectedColon
  | expectedListEnd
  | expectedRecordEnd
  | keyNotText
  | trailingComma
  | trailingCharacters
  | invalidNumber
  | numberOutOfRange
  | invalidEscape
  | controlCharacter
  | loneSurrogate
  | endOfHexEscape
  | tooDeep
  /-- A value of the wrong kind. -/
  | wrongKind (found : Found) (expected : String)
  /-- A value of the right kind outside its range. -/
  | outOfRange (found : Found) (expected : String)
  /-- A list shorter or longer than the expected one. -/
  | wrongLength (length : Nat) (expected : String)
  | missingField (name : String)
  | duplicateField (name : String)
  | unknownVariant (name : String) (known : List String)
  | noVariant (type : String)

/-- A value as it is named in a message. -/
def Found.describe : Found → String
  | .null => "null"
  | .bool b => "boolean `" ++ (if b then "true" else "false") ++ "`"
  | .natural n => "integer `" ++ (Number.natural n).write ++ "`"
  | .negative i => "integer `" ++ (Number.negative i).write ++ "`"
  | .real x => "floating point `" ++ (Number.real x).write ++ "`"
  | .text s => "string " ++ Text.quoted s
  | .list => "sequence"
  | .record => "map"

/-- The known names of a variant: `a`, `a` or `b`, one of `a`, `b`, `c`. -/
def alternatives : List String → String
  | [a] => "`" ++ a ++ "`"
  | [a, b] => "`" ++ a ++ "` or `" ++ b ++ "`"
  | names => "one of " ++ ", ".intercalate (names.map fun n => "`" ++ n ++ "`")

/-- The wording of a fault, without its line and its column. -/
def Fault.message : Fault → String
  | .eofInValue => "EOF while parsing a value"
  | .eofInText => "EOF while parsing a string"
  | .eofInList => "EOF while parsing a list"
  | .eofInRecord => "EOF while parsing an object"
  | .expectedValue => "expected value"
  | .expectedIdent => "expected ident"
  | .expectedColon => "expected `:`"
  | .expectedListEnd => "expected `,` or `]`"
  | .expectedRecordEnd => "expected `,` or `\x7d`"
  | .keyNotText => "key must be a string"
  | .trailingComma => "trailing comma"
  | .trailingCharacters => "trailing characters"
  | .invalidNumber => "invalid number"
  | .numberOutOfRange => "number out of range"
  | .invalidEscape => "invalid escape"
  | .controlCharacter => "control character (\\u0000-\\u001F) found while parsing a string"
  | .loneSurrogate => "lone leading surrogate in hex escape"
  | .endOfHexEscape => "unexpected end of hex escape"
  | .tooDeep => "recursion limit exceeded"
  | .wrongKind found expected => "invalid type: " ++ found.describe ++ ", expected " ++ expected
  | .outOfRange found expected => "invalid value: " ++ found.describe ++ ", expected " ++ expected
  | .wrongLength n expected =>
    "invalid length " ++ (Number.natural n).write ++ ", expected " ++ expected
  | .missingField name => "missing field `" ++ name ++ "`"
  | .duplicateField name => "duplicate field `" ++ name ++ "`"
  | .unknownVariant name known =>
    "unknown variant `" ++ name ++ "`, expected " ++ alternatives known
  | .noVariant type => "data did not match any variant of untagged enum " ++ type

end RuleScan.Json
