import RuleScan.Json.Decoder

/-!
# Records with known fields

A schema says which fields a record has. The record may be written with names, in any order, each at
most once, unknown names being skipped; or as a list of its fields in the order of the schema. A
field that is not required may be left out, in a list only together with all that follow it.
-/

namespace RuleScan.Json

/-- A field of a record whose fields read so far are collected in `σ`. -/
structure FieldSchema (σ : Type) where
  /-- The name in messages; the field may be written with any of `names`. -/
  name : String
  names : List String := [name]
  required : Bool
  isSet : σ → Bool
  read : σ → Decoder σ

/-- A record with known fields. -/
structure Schema (σ α : Type) where
  /-- What is expected where the record should be, as in `struct Point`. -/
  expected : String
  /-- What is expected of a list of the fields, as in `struct Point with 2 elements`. -/
  expectedList : String
  fields : List (FieldSchema σ)
  start : σ
  /-- The record, when every required field is set. -/
  build : σ → Option α

/-- A field that holds an optional part of the state. -/
def FieldSchema.of (name : String) (required : Bool) (get : σ → Option α) (set : σ → α → σ)
    (item : Decoder α) : FieldSchema σ :=
  { name, required
    isSet := fun s => (get s).isSome
    read := fun s depth tokens => (item depth tokens).map fun (a, rest) => (set s a, rest) }

namespace Schema

variable {σ α : Type}

/-- Reads the value of a field by name: repeated fields are refused before their value is looked at,
unknown ones are skipped. -/
def readField (schema : Schema σ α) (depth : Nat) (name : String) (s : σ) (tokens : List Token) :
    Except Fault (σ × List Token) :=
  match schema.fields.find? (·.names.contains name) with
  | none => do .ok (s, ← skip (← colon tokens))
  | some field =>
    if field.isSet s then .error (.duplicateField field.name)
    else do field.read s depth (← colon tokens)

/-- The record built from named fields, or the first required field that is missing. -/
def finish (schema : Schema σ α) (s : σ) : Except Fault α :=
  match schema.fields.find? fun field => field.required && !field.isSet s with
  | some field => .error (.missingField field.name)
  | none => match schema.build s with
    | some a => .ok a
    | none => .error .expectedValue

/-- Reads fields by position: `index` counts those read. A list that ends early lacks the first
required field that it does not reach. -/
def readItems (schema : Schema σ α) (depth : Nat) :
    List (FieldSchema σ) → (index : Nat) → σ → List Token → Except Fault (σ × List Token)
  | [], _, s, tokens => .ok (s, tokens)
  | field :: rest, index, s, tokens => do
    match ← nextItem (index == 0) tokens with
    | (false, tokens) =>
      match (field :: rest).findIdx? (·.required) with
      | some i => .error (.wrongLength (index + i) schema.expectedList)
      | none => .ok (s, tokens)
    | (true, tokens) =>
      let (s, tokens) ← field.read s depth tokens
      schema.readItems depth rest (index + 1) s tokens

/-- The decoder of the record. -/
def decoder (schema : Schema σ α) : Decoder α
  | depth, .recordStart :: rest => do
    let depth ← deeper depth
    let (s, rest) ← Json.fields (schema.readField depth) (rest.length + 1) true schema.start rest
    .ok (← schema.finish s, rest)
  | depth, .listStart :: rest => do
    let depth ← deeper depth
    let (s, rest) ← schema.readItems depth schema.fields 0 schema.start rest
    let a ← schema.finish s
    .ok (a, ← endList rest)
  | _, tokens => .error (unexpected schema.expected tokens)

end Schema

end RuleScan.Json
