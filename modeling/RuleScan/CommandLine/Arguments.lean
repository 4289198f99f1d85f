import RuleScan.Text.Numeral

/-!
# Arguments of the command line

What the words after the program's name ask for. A word that starts with a dash names an option, in
full after two dashes, or several by single letters after one; other words are values of the option
before them. `Arguments.read` goes through the words once and carries the option that still takes
values.
-/

namespace RuleScan.CommandLine

/-- What a run is asked to do. -/
structure Arguments where
  /-- Files and directories with rules. -/
  rules : List String := []
  space : Option String := none
  spacePerFile : Bool := false
  /-- Definitions of external variables, as typed. -/
  definitions : List String := []
  ignored : List String := []
  content : Option String := none
  comments : Option String := none
  metadata : Option String := none
  plugins : Option String := none
  delayMillis : Option UInt64 := none
  config : Option String := none
  saveCache : Option String := none
  loadCache : Option String := none
  pretty : Bool := false
  verbose : Bool := false
  deriving DecidableEq, Repr

/-- Why words are no arguments of a run. -/
inductive Stop
  /-- They are not understood. -/
  | misunderstood
  | versionAsked
  | helpAsked
  deriving DecidableEq, Repr

/-- How many values an option takes. -/
inductive Arity
  | none
  | one
  /-- One or more. -/
  | many
  deriving DecidableEq, Repr

/-- An option. -/
structure OptionSpec where
  long : String
  short : Option Char
  arity : Arity
  /-- Takes the values into the arguments, unless they are refused. -/
  take : List String → Arguments → Except Stop Arguments

/-! ## The options -/

/-- A natural number of sixty-four bits, with an optional plus. -/
def word? (s : String) : Option UInt64 :=
  let digits := match s.toList with
    | '+' :: rest => rest
    | cs => cs
  let n := Text.digitsValue digits
  if digits.isEmpty || !digits.all Text.isDigit || n ≥ Nat.pow 2 64 then none else some n.toUInt64

/-- Takes one value into a place that must still be empty. -/
def once (read : String → Option α) (get : Arguments → Option α)
    (set : Arguments → α → Arguments) : List String → Arguments → Except Stop Arguments
  | [value], a =>
    match get a, read value with
    | none, some v => .ok (set a v)
    | _, _ => .error .misunderstood
  | _, _ => .error .misunderstood

/-- Sets a flag, which must not be set. -/
def flag (get : Arguments → Bool) (set : Arguments → Arguments) :
    List String → Arguments → Except Stop Arguments := fun _ a =>
  if get a then .error .misunderstood else .ok (set a)

/-- A path, which must not be empty. -/
def path? (s : String) : Option String := if s = "" then none else some s

/-- Takes values at the end of a list. -/
def more (read : String → Option String) (get : Arguments → List String)
    (set : Arguments → List String → Arguments) : List String → Arguments → Except Stop Arguments :=
  fun values a =>
    match values.mapM read with
    | some vs => .ok (set a (get a ++ vs))
    | none => .error .misunderstood

/-- An option with one path. -/
def pathOption (long : String) (short : Option Char) (get : Arguments → Option String)
    (set : Arguments → String → Arguments) : OptionSpec :=
  ⟨long, short, .one, once path? get set⟩

/-- All options. -/
def options : List OptionSpec :=
  [⟨"rules", some 'r', .many, more path? (·.rules) fun a v => { a with rules := v }⟩,
   ⟨"namespace", some 'n', .one, once some (·.space) fun a v => { a with space := some v }⟩,
   ⟨"path-as-namespace", none, .none,
     flag (·.spacePerFile) fun a => { a with spacePerFile := true }⟩,
   ⟨"define", some 'd', .one, more some (·.definitions) fun a v => { a with definitions := v }⟩,
   ⟨"ignore-module", none, .one, more some (·.ignored) fun a v => { a with ignored := v }⟩,
   pathOption "content" none (·.content) fun a v => { a with content := some v },
   pathOption "comments" none (·.comments) fun a v => { a with comments := some v },
   pathOption "meta" none (·.metadata) fun a v => { a with metadata := some v },
   pathOption "plugins" none (·.plugins) fun a v => { a with plugins := some v },
   ⟨"delay-ms", none, .one,
     once word? (·.delayMillis) fun a v => { a with delayMillis := some v }⟩,
   pathOption "config" (some 'c') (·.config) fun a v => { a with config := some v },
   pathOption "save-cache" none (·.saveCache) fun a v => { a with saveCache := some v },
   pathOption "load-cache" none (·.loadCache) fun a v => { a with loadCache := some v },
   ⟨"pretty", none, .none, flag (·.pretty) fun a => { a with pretty := true }⟩,
   ⟨"verbose", some 'v', .none, flag (·.verbose) fun a => { a with verbose := true }⟩,
   ⟨"help", some 'h', .none, fun _ _ => .error .helpAsked⟩,
   ⟨"version", some 'V', .none, fun _ _ => .error .versionAsked⟩]

/-! ## Reading -/

/-- An option that takes values, with those it has so far, last first. -/
structure Pending where
  option : OptionSpec
  values : List String

/-- Ends an option that takes values. -/
def settle (p : Option Pending) (a : Arguments) : Except Stop Arguments :=
  match p with
  | none => .ok a
  | some ⟨_, []⟩ => .error .misunderstood
  | some ⟨o, values⟩ => o.take values.reverse a

/-- The arguments read so far, and the option that waits for values. -/
abbrev Reading := Option Pending × Arguments

/-- Reads an option by its full name, which may have a value after an equals sign. -/
def readLong (word : List Char) (a : Arguments) : Except Stop Reading := do
  let name := String.ofList (word.takeWhile (· != '='))
  let attached := match word.dropWhile (· != '=') with
    | [] => none
    | _ :: value => some (String.ofList value)
  match options.find? (·.long == name) with
  | none => .error .misunderstood
  | some o =>
    match o.arity, attached with
    | .none, none => return (none, ← o.take [] a)
    | .none, some _ => .error .misunderstood
    | _, some value => return (none, ← o.take [value] a)
    | _, none => return (some ⟨o, []⟩, a)

/-- Reads options by their letters; what follows the letter of one that takes a value is that
value. -/
def readShort : List Char → Arguments → Except Stop Reading
  | [], a => .ok (none, a)
  | c :: rest, a =>
    match options.find? (·.short == some c) with
    | none => .error .misunderstood
    | some o =>
      match o.arity, rest with
      | .none, rest => do readShort rest (← o.take [] a)
      | _, [] => .ok (some ⟨o, []⟩, a)
      | _, '=' :: value => do return (none, ← o.take [String.ofList value] a)
      | _, value => do return (none, ← o.take [String.ofList value] a)

/-- Reads a value of the option that waits for one. -/
def readValue (value : String) : Option Pending → Arguments → Except Stop Reading
  | none, _ => .error .misunderstood
  | some ⟨o, values⟩, a =>
    match o.arity with
    | .many => .ok (some ⟨o, value :: values⟩, a)
    | _ => do return (none, ← o.take [value] a)

/-- Reads the words from the left. Nothing may follow a word of two dashes. -/
def readWords : Option Pending → Arguments → List String → Except Stop Arguments
  | p, a, [] => settle p a
  | p, a, word :: rest => do
    match word.toList with
    | ['-', '-'] =>
      let a ← settle p a
      if rest.isEmpty then return a else throw .misunderstood
    | '-' :: '-' :: long =>
      let (p, a) ← readLong long (← settle p a)
      readWords p a rest
    | '-' :: c :: letters =>
      let (p, a) ← readShort (c :: letters) (← settle p a)
      readWords p a rest
    | _ =>
      let (p, a) ← readValue word p a
      readWords p a rest

/-- The arguments that some words stand for. -/
def Arguments.read (words : List String) : Except Stop Arguments := readWords none {} words

end RuleScan.CommandLine
