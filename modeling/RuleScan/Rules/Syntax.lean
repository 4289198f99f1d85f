import RuleScan.Rules.Fault

/-!
# Rules as they are written

The syntax trees of rule sources: conditions, patterns, metadata and declarations. A condition
speaks of the patterns of its own rule by their names; inside a loop over patterns the current one
goes without a name.
-/

namespace RuleScan.Rules

/-- A regular expression between slashes, with its letters. -/
structure RegexText where
  pattern : String
  caseInsensitive : Bool
  dotMatchesNewLine : Bool
  deriving DecidableEq, Repr

/-! ## Conditions -/

/-- A comparison of two values. -/
inductive Comparison
  | eq
  | ne
  | lt
  | le
  | gt
  | ge
  deriving DecidableEq, Repr

/-- An operation on two numbers. -/
inductive Arithmetic
  | add
  | sub
  | mul
  | div
  | mod
  | bitAnd
  | bitOr
  | bitXor
  | shiftLeft
  | shiftRight
  deriving DecidableEq, Repr

/-- A test of two texts. -/
inductive TextTest
  | contains
  | startsWith
  | endsWith
  | equals
  deriving DecidableEq, Repr

/-- A pattern of the rule by name, or the current one of a loop. -/
abbrev PatternRef := Option String

/-- A choice of patterns by name; a name that ends in a star stands for all that start so. -/
structure PatternGlob where
  name : String
  starred : Bool
  deriving DecidableEq, Repr

/-- Patterns to choose from: all of the rule, or those chosen by name. -/
inductive PatternSet
  | them
  | chosen (globs : List PatternGlob)
  deriving DecidableEq, Repr

mutual

/-- A condition or a value in one. -/
inductive Expr
  | bool (b : Bool)
  | integer (i : Int64)
  | real (x : Float)
  | text (s : ByteArray)
  | regex (r : RegexText)
  | filesize
  | name (n : String)
  | field (e : Expr) (n : String)
  | item (e index : Expr)
  | call (f : Expr) (args : List Expr)
  | neg (e : Expr)
  | complement (e : Expr)
  | not (e : Expr)
  | defined (e : Expr)
  | and (left right : Expr)
  | or (left right : Expr)
  | arithmetic (op : Arithmetic) (left right : Expr)
  | compare (op : Comparison) (left right : Expr)
  | textTest (op : TextTest) (ignoreCase : Bool) (left right : Expr)
  | matches (left right : Expr)
  /-- Whether a pattern is found at a place. -/
  | found (p : PatternRef) (place : Place)
  /-- How often a pattern is found at a place. -/
  | count (p : PatternRef) (place : Place)
  /-- The offset of a hit, the first one having number one. -/
  | offset (p : PatternRef) (index : Expr)
  /-- The length of a hit. -/
  | length (p : PatternRef) (index : Expr)
  | ofPatterns (q : Quantifier) (set : PatternSet) (place : Place)
  | ofConditions (q : Quantifier) (conditions : List Expr)
  | forPatterns (q : Quantifier) (set : PatternSet) (body : Expr)
  | forEach (q : Quantifier) (vars : List String) (domain : Iterable) (body : Expr)
  /-- Names for values in a condition. -/
  | letIn (vars : List String) (values : List Expr) (body : Expr)

/-- Where a pattern is looked for. -/
inductive Place
  | anywhere
  | at (offset : Expr)
  | within (low high : Expr)

/-- How many of some things must hold. -/
inductive Quantifier
  | all
  | any
  | none
  | count (e : Expr)
  | percent (e : Expr)

/-- What a loop runs over. -/
inductive Iterable
  | range (low high : Expr)
  | items (es : List Expr)
  | members (e : Expr)

end

/-! ## Patterns -/

/-- A part of a pattern written in hexadecimal. -/
inductive HexPart
  /-- One byte whose bits under a mask are given, or are not those given. -/
  | byte (value mask : Nat) (negated : Bool)
  /-- Any bytes, so many. -/
  | jump (low : Nat) (high : Option Nat)
  | choice (branches : List (List HexPart))

/-- What a pattern looks for. -/
inductive PatternSource
  | text (s : ByteArray)
  | hex (parts : List HexPart)
  | regex (r : RegexText)

/-- What a modifier asks for. -/
inductive Modifier
  | ascii
  | wide
  | ignoreCase
  | fullWord
  | hidden
  /-- The text is also found when all its bytes are changed by one key of a range. -/
  | keyed (low high : Nat)
  /-- The text is found in base64, with an alphabet of its own or the usual one. -/
  | base64 (alphabet : Option ByteArray)
  /-- The same with a zero byte after each character. -/
  | base64Wide (alphabet : Option ByteArray)

/-- A modifier without what it is given. -/
def Modifier.kind : Modifier → Nat
  | ascii => 0
  | wide => 1
  | ignoreCase => 2
  | fullWord => 3
  | hidden => 4
  | keyed _ _ => 5
  | base64 _ => 6
  | base64Wide _ => 7

/-- A pattern of a rule. The name of an anonymous one is a lone dollar sign. -/
structure PatternDecl where
  name : String
  source : PatternSource
  modifiers : List Modifier

/-! ## Declarations -/

/-- The value of a metadata entry. -/
inductive MetaValue
  | bool (b : Bool)
  | integer (i : Int64)
  | real (x : Float)
  | text (s : ByteArray)

/-- A rule. -/
structure RuleDecl where
  name : String
  isGlobal : Bool
  isPrivate : Bool
  tags : List String
  metadata : List (String × MetaValue)
  patterns : List PatternDecl
  condition : Expr

/-- A part of a source. -/
inductive Item
  | module (name : String)
  | file (path : String)
  | rule (r : RuleDecl)

/-- A source that was read: its parts, and the faults of the parts that could not be read. -/
structure Source where
  items : List Item
  faults : List Fault

end RuleScan.Rules
