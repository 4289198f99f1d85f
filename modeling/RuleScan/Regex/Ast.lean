/-!
# Regular expressions as they are written

The syntax tree of a regular expression. What a literal, a class or an assertion means depends on
flags that are set inside the expression, so the tree keeps them in place.
-/

namespace RuleScan.Regex

/-- A flag letter. -/
inductive Flag
  | caseInsensitive
  | multiLine
  | dotMatchesNewLine
  | swapGreed
  | unicode
  | crlf
  | ignoreWhitespace
  deriving DecidableEq, Repr

/-- A part of a flag setting: a flag, or the dash after which flags are switched off. -/
inductive FlagItem
  | negation
  | flag (f : Flag)
  deriving DecidableEq, Repr

/-- An assertion that takes no bytes. -/
inductive Assertion
  | lineStart
  | lineEnd
  | textStart
  | textEnd
  | wordBoundary
  | notWordBoundary
  | wordStart
  | wordEnd
  | wordStartHalf
  | wordEndHalf
  deriving DecidableEq, Repr

/-- A class with a letter of its own. -/
inductive LetterClass
  | digit
  | space
  | word
  deriving DecidableEq, Repr

/-- A character property as it is asked for. -/
inductive PropertyQuery
  | named (name : String)
  | valued (name value : String)
  deriving DecidableEq, Repr

/-- An operation on sets inside brackets. -/
inductive SetOp
  | intersection
  | difference
  | symmetricDifference
  deriving DecidableEq, Repr

/-- A literal character; `isByte` marks one written with two hexadecimal digits, which may stand for
a byte. -/
structure Literal where
  char : Char
  isByte : Bool
  deriving DecidableEq, Repr

/-- A set of characters inside brackets. -/
inductive ClassSet
  | empty
  | literal (l : Literal)
  | range (low high : Literal)
  /-- A class such as `[:alpha:]`. -/
  | ascii (name : String) (negated : Bool)
  | property (q : PropertyQuery) (negated : Bool)
  | letter (l : LetterClass) (negated : Bool)
  | bracketed (negated : Bool) (set : ClassSet)
  | union (sets : List ClassSet)
  | binary (op : SetOp) (left right : ClassSet)

/-- A regular expression. -/
inductive Ast
  | empty
  | flags (items : List FlagItem)
  | literal (l : Literal)
  | dot
  | assertion (a : Assertion)
  | property (q : PropertyQuery) (negated : Bool)
  | letter (l : LetterClass) (negated : Bool)
  | bracketed (negated : Bool) (set : ClassSet)
  | repetition (min : Nat) (max : Option Nat) (greedy : Bool) (sub : Ast)
  | group (flags : List FlagItem) (sub : Ast)
  | alternation (branches : List Ast)
  | concat (parts : List Ast)

/-- The union of some sets. -/
def ClassSet.ofList : List ClassSet → ClassSet
  | [] => .empty
  | [s] => s
  | sets => .union sets

/-- Some expressions after each other. -/
def Ast.concatOf : List Ast → Ast
  | [] => .empty
  | [e] => e
  | parts => .concat parts

/-- One of some expressions. -/
def Ast.alternationOf : List Ast → Ast
  | [e] => e
  | branches => .alternation branches

/-- How a flag is set by some items: on, off, or not at all. -/
def flagState (f : Flag) (items : List FlagItem) : Option Bool :=
  let rec go (negated : Bool) : List FlagItem → Option Bool
    | [] => none
    | .negation :: rest => go true rest
    | .flag g :: rest => if g = f then some (!negated) else go negated rest
  go false items

/-! ## Nesting -/

mutual

/-- How deep a set is nested. -/
def ClassSet.depth : ClassSet → Nat
  | .bracketed _ s => s.depth + 1
  | .union sets => depths sets + 1
  | .binary _ l r => max l.depth r.depth + 1
  | _ => 0

/-- The greatest depth among some sets. -/
def ClassSet.depths : List ClassSet → Nat
  | [] => 0
  | s :: rest => max s.depth (depths rest)

end

mutual

/-- How deep an expression is nested. -/
def Ast.depth : Ast → Nat
  | .bracketed _ s => s.depth + 1
  | .repetition _ _ _ e => e.depth + 1
  | .group _ e => e.depth + 1
  | .alternation es => depths es + 1
  | .concat es => depths es + 1
  | _ => 0

/-- The greatest depth among some expressions. -/
def Ast.depths : List Ast → Nat
  | [] => 0
  | e :: rest => max e.depth (depths rest)

end

/-! ## Greediness -/

mutual

/-- Whether each repetition in an expression is greedy. -/
def Ast.greediness : Ast → List Bool
  | .repetition _ _ greedy e => greedy :: e.greediness
  | .group _ e => e.greediness
  | .alternation es => greedinessOfAll es
  | .concat es => greedinessOfAll es
  | _ => []

/-- Whether each repetition in some expressions is greedy. -/
def Ast.greedinessOfAll : List Ast → List Bool
  | [] => []
  | e :: rest => e.greediness ++ greedinessOfAll rest

end

end RuleScan.Regex
