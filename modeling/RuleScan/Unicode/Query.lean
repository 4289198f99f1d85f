import RuleScan.Unicode.Age
import RuleScan.Unicode.CaseFold
import RuleScan.Unicode.Category
import RuleScan.Unicode.Property
import RuleScan.Unicode.Script
import RuleScan.Unicode.ScriptExtension

/-!
# Character properties by name

A property is asked for by one name (a binary property, a general category or a script) or by a
name and a value. Names are compared in lower case, without blanks, dashes and underscores, and a
leading `is` is ignored. The module also names the classes that the rest of the library uses:
letters, digits, white space and word characters, and the orbits of simple case folding.
-/

namespace RuleScan.Unicode

open RuleScan.Text

/-- The greatest code point. -/
def maxCode : Nat := 0x10FFFF

/-- The scalar values: all code points but the surrogates. -/
def scalars : RangeSet := ⟨[⟨0, 0xD7FF⟩, ⟨0xE000, maxCode⟩]⟩

/-- The scalar values outside a set. -/
def complement (s : RangeSet) : RangeSet := (s.complement maxCode).inter scalars

/-- The set stored under a name in a table. -/
def lookUp (table : List (List String × String)) (name : String) : Option RangeSet :=
  (table.find? (·.1.contains name)).map fun entry => RangeSet.ofText entry.2

/-- The union of the sets stored under some names. -/
def lookUpAll (table : List (List String × String)) (names : List String) : RangeSet :=
  RangeSet.ofRanges (names.flatMap fun n => (lookUp table n).elim [] (·.ranges))

/-! ## Names -/

/-- A name in lower case, without separators and without a leading `is`. The name `isc` keeps it. -/
def normalizeName (s : String) : String :=
  let kept := s.toList.filterMap fun c =>
    if c = ' ' || c = '_' || c = '-' || c.toNat ≥ 128 then none else some c.toLower
  let startsWithIs := match s.toList with
    | a :: b :: _ => a.toLower = 'i' && b.toLower = 's'
    | _ => false
  match startsWithIs, kept with
  | true, 'i' :: 's' :: 'c' :: [] => "isc"
  | true, 'i' :: 's' :: rest => String.ofList rest
  | _, _ => String.ofList kept

/-- Categories that unite others, with the categories they unite. -/
def categoryGroups : List (List String × List String) :=
  [(["c", "other"], ["cc", "cf", "co", "cn"]),
   (["l", "letter"], ["lu", "ll", "lt", "lm", "lo"]),
   (["lc", "casedletter"], ["lu", "ll", "lt"]),
   (["m", "mark", "combiningmark"], ["mn", "mc", "me"]),
   (["n", "number"], ["nd", "nl", "no"]),
   (["p", "punctuation", "punct"], ["pc", "pd", "ps", "pe", "pi", "pf", "po"]),
   (["s", "symbol"], ["sm", "sc", "sk", "so"]),
   (["z", "separator"], ["zs", "zl", "zp"]),
   (["assigned"], ["cc", "cf", "co", "lu", "ll", "lt", "lm", "lo", "mn", "mc", "me", "nd", "nl",
     "no", "pc", "pd", "ps", "pe", "pi", "pf", "po", "sm", "sc", "sk", "so", "zs", "zl", "zp"])]

/-- The general category of a normalized name. -/
def category? (name : String) : Option RangeSet :=
  if name = "any" then some scalars
  else if name = "ascii" then some (.single 0 0x7F)
  else match categoryGroups.find? (·.1.contains name) with
    | some group => some (lookUpAll categories group.2)
    | none => lookUp categories name

/-- The characters whose extended scripts include the one of a normalized name. -/
def scriptExtended? (name : String) : Option RangeSet :=
  (lookUp scripts name).map fun own =>
    let added := (lookUp scriptsExtended name).getD .empty
    let removed := (lookUp scriptsReduced name).getD .empty
    (own.diff maxCode removed).union added

/-- The characters assigned up to a version. -/
def age? (name : String) : Option RangeSet :=
  let rec upTo (acc : List CodeRange) : List (List String × String) → Option RangeSet
    | [] => none
    | (names, ranges) :: rest =>
      let acc := (RangeSet.ofText ranges).ranges ++ acc
      if names.contains name then some (RangeSet.ofRanges acc) else upTo acc rest
  upTo [] ages

/-- Normalized names of properties whose values are not sets of characters known here. -/
def unsupportedProperties : List String :=
  ["bc", "bidiclass", "blk", "block", "ccc", "canonicalcombiningclass", "dt", "decompositiontype",
   "ea", "eastasianwidth", "gcb", "graphemeclusterbreak", "hst", "hangulsyllabletype", "insc",
   "indicsyllabiccategory", "inpc", "indicpositionalcategory", "jg", "joininggroup", "jt",
   "joiningtype", "lb", "linebreak", "na", "name", "nt", "numerictype", "nv", "numericvalue", "sb",
   "sentencebreak", "wb", "wordbreak", "vo", "verticalorientation", "cf", "casefolding", "lc",
   "lowercasemapping", "scf", "simplecasefolding", "sfc", "slc", "suc", "stc", "tc",
   "titlecasemapping", "uc", "uppercasemapping", "bmg", "bidimirroringglyph", "isc", "isocomment"]

/-- Why a property is not available. -/
inductive QueryError
  | propertyNotFound
  | valueNotFound
  deriving DecidableEq, Repr

/-- The set that one name stands for. -/
def byName (raw : String) : Except QueryError RangeSet :=
  let name := normalizeName raw
  -- Three names are also properties of another type; as a single name they are categories.
  let binary := if name = "cf" || name = "sc" || name = "lc" then none else lookUp properties name
  match binary, category? name, lookUp scripts name with
  | some s, _, _ => .ok s
  | none, some s, _ => .ok s
  | none, none, some s => .ok s
  | none, none, none => .error .propertyNotFound

/-- The set of the characters whose property has a value. -/
def byValue (rawName rawValue : String) : Except QueryError RangeSet :=
  let name := normalizeName rawName
  let value := normalizeName rawValue
  let known (s : Option RangeSet) : Except QueryError RangeSet :=
    match s with
    | some s => .ok s
    | none => .error .valueNotFound
  if name = "gc" || name = "generalcategory" then known (category? value)
  else if name = "sc" || name = "script" then known (lookUp scripts value)
  else if name = "scx" || name = "scriptextensions" then known (scriptExtended? value)
  else if name = "age" then known (age? value)
  else if unsupportedProperties.contains name || (lookUp properties name).isSome then
    .error .valueNotFound
  else .error .propertyNotFound

/-! ## Classes in use -/

/-- A named binary property. -/
def property (name : String) : RangeSet := (lookUp properties name).getD .empty

/-- Letters and other alphabetic characters. -/
def alphabetic : RangeTable := .ofSet (property "alphabetic")

/-- Digits, letter numbers and other numbers. -/
def numeric : RangeTable := .ofSet (lookUpAll categories ["nd", "nl", "no"])

/-- Decimal digits. -/
def digits : RangeSet := lookUpAll categories ["nd"]

/-- White space. -/
def whiteSpace : RangeSet := property "whitespace"

/-- Characters of words: alphabetic ones, marks, decimal digits, connectors and joiners. -/
def wordSet : RangeSet :=
  (property "alphabetic").union <|
    (lookUpAll categories ["mn", "mc", "me", "nd", "pc"]).union (property "joincontrol")

/-- Characters of words, for look-up. -/
def word : RangeTable := .ofSet wordSet

/-- Whether a character is a letter. -/
def isAlphabetic (c : Char) : Bool := alphabetic.contains c.toNat

/-- Whether a character is a letter or a number. -/
def isAlphanumeric (c : Char) : Bool := alphabetic.contains c.toNat || numeric.contains c.toNat

/-- Whether a character separates words. -/
def isBlank (c : Char) : Bool := whiteSpace.contains c.toNat

/-! ## Case folding -/

/-- The code points of an orbit, from their hexadecimal digits between plus signs. -/
def readOrbit (text : String) : List Nat :=
  (text.splitOn "+").map fun hex => hex.foldl (fun n c => 16 * n + RangeSet.hexValue c) 0

/-- The orbits of simple case folding as lists of code points. -/
def orbits : List (List Nat) :=
  (((foldOrbits.splitOn "\n").flatMap (·.splitOn " ")).filter (· ≠ "")).map readOrbit

/-- A set with every character that differs only in case from one of its own. -/
def foldCase (s : RangeSet) : RangeSet :=
  let table := RangeTable.ofSet s
  let more := orbits.filter fun orbit => orbit.any fun n => table.contains n
  s.union (.ofRanges (more.flatMap fun orbit => orbit.map fun n => ⟨n, n⟩))

/-- Whether a character has others that differ only in case. -/
def hasCase (n : Nat) : Bool := orbits.any fun orbit => orbit.contains n

end RuleScan.Unicode
