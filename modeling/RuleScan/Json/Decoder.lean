import RuleScan.Json.Token

/-!
# Reading values out of tokens

A decoder takes a value off the front of a token list. It knows how many lists and records may still
be opened (`depth`), since values that are stored whole may nest only so far. Skipped values have no
such bound. `decodeText` reads one value and refuses anything after it.
-/

namespace RuleScan.Json

/-- Takes a value off the front of the tokens, or says what is wrong. -/
abbrev Decoder (α : Type) := (depth : Nat) → List Token → Except Fault (α × List Token)

/-- How many levels of lists and records may be open at once, plus one. -/
def maxDepth : Nat := 128

/-- The fault of a token that is no value of the expected kind. -/
def unexpected (expected : String) : List Token → Fault
  | [] => .eofInValue
  | .word (.error e) :: _ => e
  | .word (.ok .null) :: _ => .wrongKind .null expected
  | .word (.ok .yes) :: _ => .wrongKind (.bool true) expected
  | .word (.ok .no) :: _ => .wrongKind (.bool false) expected
  | .number (.error e) _ :: _ => e
  | .number (.ok (.natural n)) _ :: _ => .wrongKind (.natural n) expected
  | .number (.ok (.negative i)) _ :: _ => .wrongKind (.negative i) expected
  | .number (.ok (.real x)) _ :: _ => .wrongKind (.real x) expected
  | .text (.error e) _ :: _ => e
  | .text (.ok s) _ :: _ => .wrongKind (.text s) expected
  | .listStart :: _ => .wrongKind .list expected
  | .recordStart :: _ => .wrongKind .record expected
  | _ => .expectedValue

/-! ## Single values -/

/-- A string; `expected` names it in messages. -/
def textAs (expected : String) : Decoder String
  | _, .text (.ok s) _ :: rest => .ok (s, rest)
  | _, tokens => .error (unexpected expected tokens)

/-- A string. -/
def text : Decoder String := textAs "a string"

/-- A truth value. -/
def bool : Decoder Bool
  | _, .word (.ok .yes) :: rest => .ok (true, rest)
  | _, .word (.ok .no) :: rest => .ok (false, rest)
  | _, tokens => .error (unexpected "a boolean" tokens)

/-- A natural number below `2 ^ bits`. -/
def natural (bits : Nat) (expected : String) : Decoder Nat
  | _, .number (.ok (.natural n)) _ :: rest =>
    if n < Nat.pow 2 bits then .ok (n, rest) else .error (.outOfRange (.natural n) expected)
  | _, .number (.ok (.negative i)) _ :: _ => .error (.outOfRange (.negative i) expected)
  | _, tokens => .error (unexpected expected tokens)

/-- Nothing, written `null`. -/
def unit : Decoder Unit
  | _, .word (.ok .null) :: rest => .ok ((), rest)
  | _, tokens => .error (unexpected "unit" tokens)

/-- A value, or `null` for none. -/
def optional (item : Decoder α) : Decoder (Option α)
  | _, .word (.ok .null) :: rest => .ok (none, rest)
  | _, .word (.error e) :: rest => .error (unexpected "" (.word (.error e) :: rest))
  | depth, tokens => (item depth tokens).map fun (a, rest) => (some a, rest)

/-! ## Lists -/

/-- Before an item of a list: whether there is one, and the tokens from its start. The first item
needs no comma. -/
def nextItem (first : Bool) : List Token → Except Fault (Bool × List Token)
  | [] => .error .eofInList
  | .listEnd :: rest => .ok (false, .listEnd :: rest)
  | tokens =>
    if first then .ok (true, tokens)
    else match tokens with
      | .comma :: .listEnd :: _ => .error .trailingComma
      | .comma :: [] => .error .eofInValue
      | .comma :: rest => .ok (true, rest)
      | _ => .error .expectedListEnd

/-- The end of a list whose reader wants no more items. -/
def endList : List Token → Except Fault (List Token)
  | [] => .error .eofInList
  | .listEnd :: rest => .ok rest
  | .comma :: .listEnd :: _ => .error .trailingComma
  | _ => .error .trailingCharacters

/-- The items of a list after its opening bracket; the fuel bounds their number. -/
def items (item : Decoder α) (depth : Nat) :
    (fuel : Nat) → (first : Bool) → List α → List Token → Except Fault (List α × List Token)
  | 0, _, _, _ => .error .eofInList
  | fuel + 1, first, done, tokens => do
    match ← nextItem first tokens with
    | (false, tokens) => .ok (done.reverse, ← endList tokens)
    | (true, tokens) =>
      let (a, tokens) ← item depth tokens
      items item depth fuel false (a :: done) tokens

/-- One level deeper, or the fault of too many levels. -/
def deeper (depth : Nat) : Except Fault Nat :=
  if depth ≤ 1 then .error .tooDeep else .ok (depth - 1)

/-- A list of values. -/
def list (item : Decoder α) : Decoder (List α)
  | depth, .listStart :: rest => do
    let depth ← deeper depth
    items item depth (rest.length + 1) true [] rest
  | _, tokens => .error (unexpected "a sequence" tokens)

/-! ## Records -/

/-- Before a field of a record: its name if there is one, and what follows the name. -/
def nextKey (first : Bool) : List Token → Except Fault (Option String × List Token)
  | [] => .error .eofInRecord
  | .recordEnd :: rest => .ok (none, .recordEnd :: rest)
  | tokens =>
    if first then
      match tokens with
      | .text read _ :: rest => read.map fun s => (some s, rest)
      | _ => .error .keyNotText
    else match tokens with
      | .comma :: .text read _ :: rest => read.map fun s => (some s, rest)
      | .comma :: .recordEnd :: _ => .error .trailingComma
      | .comma :: [] => .error .eofInValue
      | .comma :: _ => .error .keyNotText
      | _ => .error .expectedRecordEnd

/-- The colon after the name of a field. -/
def colon : List Token → Except Fault (List Token)
  | .colon :: rest => .ok rest
  | [] => .error .eofInRecord
  | _ => .error .expectedColon

/-- The closing brace of a record whose reader wants no more fields. -/
def endRecord : List Token → Except Fault (List Token)
  | [] => .error .eofInRecord
  | .recordEnd :: rest => .ok rest
  | .comma :: _ => .error .trailingComma
  | _ => .error .trailingCharacters

/-- The fields of a record after its opening brace, folded into a state: `field` is given the name
and takes the colon and the value. The fuel bounds their number. -/
def fields (field : String → σ → List Token → Except Fault (σ × List Token)) :
    (fuel : Nat) → (first : Bool) → σ → List Token → Except Fault (σ × List Token)
  | 0, _, _, _ => .error .eofInRecord
  | fuel + 1, first, state, tokens => do
    match ← nextKey first tokens with
    | (none, tokens) => .ok (state, ← endRecord tokens)
    | (some name, tokens) =>
      let (state, tokens) ← field name state tokens
      fields field fuel false state tokens

/-- A record with any names, each with a value of one kind, in the order of the text. -/
def map (item : Decoder α) : Decoder (List (String × α))
  | depth, .recordStart :: rest => do
    let depth ← deeper depth
    let step (name : String) (done : List (String × α)) (tokens : List Token) :
        Except Fault (List (String × α) × List Token) := do
      let (a, tokens) ← item depth (← colon tokens)
      .ok ((name, a) :: done, tokens)
    let (done, rest) ← fields step (rest.length + 1) true [] rest
    .ok (done.reverse, rest)
  | _, tokens => .error (unexpected "a map" tokens)

/-! ## Skipping -/

/-- What a skipped text needs next. -/
inductive Expect
  /-- A value. -/
  | value
  /-- The first item or field of what was just opened, or its end. -/
  | opened
  /-- A comma or an end. -/
  | closed
  /-- The name of a field, after a comma. -/
  | key
  /-- The colon after a name. -/
  | colon

/-- What was opened and not yet closed. -/
inductive Frame
  | list
  | record

/-- The fault of a text that ends inside something open. -/
def Frame.eof : Frame → Fault
  | .list => .eofInList
  | .record => .eofInRecord

/-- A token at the start of a skipped value: what is open and expected after it. -/
def skipValueToken (open_ : List Frame) : Token → Except Fault (List Frame × Expect)
  | .word (.ok _) => .ok (open_, .closed)
  | .word (.error e) => .error e
  | .number _ skip => skip.map fun _ => (open_, .closed)
  | .text _ skip => skip.map fun _ => (open_, .closed)
  | .listStart => .ok (.list :: open_, .opened)
  | .recordStart => .ok (.record :: open_, .opened)
  | _ => .error .expectedValue

/-- A token at the start of a skipped field. -/
def skipKeyToken (open_ : List Frame) : Token → Except Fault (List Frame × Expect)
  | .text _ skip => skip.map fun _ => (open_, .colon)
  | _ => .error .keyNotText

/-- One token of a skipped text: what is open and expected after it. -/
def skipStep : List Frame → Expect → Token → Except Fault (List Frame × Expect)
  | open_, .value, token => skipValueToken open_ token
  | .list :: open_, .opened, .listEnd => .ok (open_, .closed)
  | .record :: open_, .opened, .recordEnd => .ok (open_, .closed)
  | .list :: open_, .opened, token => skipValueToken (.list :: open_) token
  | .record :: open_, .opened, token => skipKeyToken (.record :: open_) token
  | .list :: open_, .closed, .listEnd => .ok (open_, .closed)
  | .record :: open_, .closed, .recordEnd => .ok (open_, .closed)
  | .list :: open_, .closed, .comma => .ok (.list :: open_, .value)
  | .record :: open_, .closed, .comma => .ok (.record :: open_, .key)
  | .list :: _, .closed, _ => .error .expectedListEnd
  | .record :: _, .closed, _ => .error .expectedRecordEnd
  | open_, .key, token => skipKeyToken open_ token
  | open_, .colon, .colon => .ok (open_, .value)
  | _, .colon, _ => .error .expectedColon
  | [], _, _ => .error .expectedValue

/-- The fault of a text that ends while something is expected. -/
def skipEof : List Frame → Expect → Fault
  | _, .value => .eofInValue
  | frame :: _, _ => frame.eof
  | [], _ => .eofInValue

/-- Skips tokens until nothing is open. -/
def skipFrom : List Frame → Expect → List Token → Except Fault (List Token)
  | open_, expect, [] => .error (skipEof open_ expect)
  | open_, expect, token :: rest =>
    match skipStep open_ expect token with
    | .error e => .error e
    | .ok ([], .closed) => .ok rest
    | .ok (open_, expect) => skipFrom open_ expect rest

/-- Skips one value. -/
def skip (tokens : List Token) : Except Fault (List Token) := skipFrom [] .value tokens

/-! ## Values of any kind -/

/-- A value kept whole. -/
def value : Decoder Value
  | _, .word (.ok .null) :: rest => .ok (.null, rest)
  | _, .word (.ok .yes) :: rest => .ok (.bool true, rest)
  | _, .word (.ok .no) :: rest => .ok (.bool false, rest)
  | _, .number (.ok n) _ :: rest => .ok (.number n, rest)
  | _, .text (.ok s) _ :: rest => .ok (.text s, rest)
  | 0, .listStart :: _ => .error .tooDeep
  | 0, .recordStart :: _ => .error .tooDeep
  | depth + 1, .listStart :: rest => do
    if depth = 0 then .error .tooDeep
    let (vs, rest) ← items (fun _ => value depth) depth (rest.length + 1) true [] rest
    .ok (.list vs, rest)
  | depth + 1, .recordStart :: rest => do
    if depth = 0 then .error .tooDeep
    let step (name : String) (done : List (String × Value)) (tokens : List Token) :
        Except Fault (List (String × Value) × List Token) := do
      let (v, tokens) ← value depth (← colon tokens)
      .ok ((name, v) :: done, tokens)
    let (done, rest) ← fields step (rest.length + 1) true [] rest
    .ok (.record done.reverse, rest)
  | _, tokens => .error (unexpected "" tokens)

/-- What a value is called in messages. -/
def Value.found : Value → Found
  | .null => .null
  | .bool b => .bool b
  | .number (.natural n) => .natural n
  | .number (.negative i) => .negative i
  | .number (.real x) => .real x
  | .text s => .text s
  | .list _ => .list
  | .record _ => .record

/-- The natural number below `2 ^ bits` that a value holds. -/
def Value.natural (bits : Nat) (expected : String) (v : Value) : Except Fault Nat :=
  match v with
  | .number (.natural n) =>
    if n < Nat.pow 2 bits then .ok n else .error (.outOfRange (.natural n) expected)
  | .number (.negative i) => .error (.outOfRange (.negative i) expected)
  | v => .error (.wrongKind v.found expected)

/-! ## Variants -/

/-- What a name stands for. -/
def pick (known : List (String × α)) (name : String) : Except Fault α :=
  match known.find? (·.1 == name) with
  | some entry => .ok entry.2
  | none => .error (.unknownVariant name (known.map (·.1)))

/-- One of some names. -/
def named (known : List (String × α)) : Decoder α := fun depth tokens => do
  let (name, rest) ← textAs "variant identifier" depth tokens
  .ok (← pick known name, rest)

/-- One of some names, as the name itself or as a record from the name to `null`. -/
def variant (known : List (String × α)) : Decoder α := fun depth tokens =>
  match tokens with
  | [] => .error .eofInValue
  | .text read _ :: rest => do .ok (← pick known (← read), rest)
  | .recordStart :: rest => do
    let _ ← deeper depth
    let (a, rest) ← named known depth rest
    let rest ← colon rest
    let ((), rest) ← unit depth rest
    match rest with
    | .recordEnd :: rest => .ok (a, rest)
    | [] => .error .eofInRecord
    | _ => .error .expectedValue
  | _ => .error .expectedValue

/-! ## Whole texts -/

/-- Reads a text that holds one value and nothing else. -/
def decodeText (d : Decoder α) (s : String) : Except Fault α := do
  match ← d maxDepth (lex s) with
  | (a, []) => .ok a
  | (_, _ :: _) => .error .trailingCharacters

end RuleScan.Json
