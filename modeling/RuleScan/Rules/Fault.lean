/-!
# What can be wrong with rules

Faults of the text of rules and of their meaning. Each has a code; `Fault.message` has the wording.
-/

namespace RuleScan.Rules

/-- A reason to refuse rules, a definition or bytes. -/
inductive Fault
  /-- The text does not follow the grammar. -/
  | malformed
  | wrongType
  | mismatchedTypes
  | wrongArguments
  | wrongVariableCount
  | negativeNumber
  | numberOutOfRange
  | unknownField
  | unknownIdentifier
  | unknownModule
  | invalidRange
  | duplicateRule
  | conflictingRule
  | invalidRegex
  | mixedGreediness
  | emptyPatternSet
  | slowPattern
  | invalidModifiers
  | duplicateModifier
  | duplicateTag
  | unusedPattern
  | duplicatePattern
  | invalidPattern
  | unknownPattern
  | invalidAlphabet
  | invalidInteger
  | invalidReal
  | invalidEscape
  | invalidRegexModifier
  | unexpectedEscape
  | notText
  | includeUnreadable
  | includeNotFound
  | includeLoop
  | arbitraryStart
  /-- An external variable that is defined already. -/
  | variableExists (name : String)
  /-- A name that no external variable can have. -/
  | invalidName (name : String)
  /-- Bytes that hold no rules. -/
  | foreignBytes
  /-- Bytes that are announced as rules but cannot be read. -/
  | damagedBytes
  deriving DecidableEq, Repr

/-- The code of a fault, if it has one, and its title. -/
def Fault.title : Fault → Option String × String
  | malformed => (some "E001", "syntax error")
  | wrongType => (some "E002", "wrong type")
  | mismatchedTypes => (some "E003", "mismatching types")
  | wrongArguments => (some "E004", "wrong arguments")
  | wrongVariableCount => (some "E005", "assignment mismatch")
  | negativeNumber => (some "E006", "unexpected negative number")
  | numberOutOfRange => (some "E007", "number out of range")
  | unknownField => (some "E008", "unknown field or method")
  | unknownIdentifier => (some "E009", "unknown identifier")
  | unknownModule => (some "E010", "unknown module")
  | invalidRange => (some "E011", "invalid range")
  | duplicateRule => (some "E012", "duplicate rule")
  | conflictingRule => (some "E013", "rule conflicts with an existing identifier")
  | invalidRegex => (some "E014", "invalid regular expression")
  | mixedGreediness => (some "E015", "mixed greediness in regular expression")
  | emptyPatternSet => (some "E017", "empty pattern set")
  | slowPattern => (some "E018", "slow pattern")
  | invalidModifiers => (some "E019", "invalid modifier combination")
  | duplicateModifier => (some "E020", "duplicate pattern modifier")
  | duplicateTag => (some "E021", "duplicate tag")
  | unusedPattern => (some "E022", "unused pattern")
  | duplicatePattern => (some "E023", "duplicate pattern")
  | invalidPattern => (some "E024", "invalid pattern")
  | unknownPattern => (some "E025", "unknown pattern")
  | invalidAlphabet => (some "E026", "invalid base64 alphabet")
  | invalidInteger => (some "E027", "invalid integer")
  | invalidReal => (some "E028", "invalid float")
  | invalidEscape => (some "E029", "invalid escape sequence")
  | invalidRegexModifier => (some "E030", "invalid regular expression modifier")
  | unexpectedEscape => (some "E031", "unexpected escape sequence")
  | notText => (some "E032", "invalid UTF-8")
  | includeUnreadable => (some "E042", "error including file")
  | includeNotFound => (some "E043", "include file not found")
  | includeLoop => (some "E044", "include file includes itself")
  | arbitraryStart => (some "E045", "arbitrary regular expression prefix")
  | variableExists name => (none, "variable `" ++ name ++ "` already exists")
  | invalidName name => (none, "invalid identifier `" ++ name ++ "`")
  | foreignBytes => (none, "not a YARA-X compiled rules file")
  | damagedBytes => (none, "invalid encoding of compiled rules")

/-- The wording of a fault. -/
def Fault.message (f : Fault) : String :=
  match f.title with
  | (some code, title) => "error[" ++ code ++ "]: " ++ title
  | (none, title) => title

end RuleScan.Rules
