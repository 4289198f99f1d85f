import RuleScan.Json.Schema

/-!
# Channels and their weights

A scan looks at up to three buffers of one sample: its content, its comments and its metadata. Each
is a channel with a weight of its own, and they are always handled in the order of
`Channel.ordered`.
-/

namespace RuleScan

/-- The buffer that a finding came from. -/
inductive Channel
  | content
  | comment
  | metadata
  deriving DecidableEq, Repr

namespace Channel

/-- All channels in the order in which they are scanned. -/
def ordered : List Channel := [.content, .comment, .metadata]

/-- The name of a channel in listings and documents. -/
def name : Channel → String
  | .content => "CONTENT"
  | .comment => "COMMENT"
  | .metadata => "META"

/-- A channel in a document. -/
def toJson (c : Channel) : Json.Value := .text c.name

/-- Reads a channel by its name. -/
def decoder : Json.Decoder Channel := Json.variant (ordered.map fun c => (c.name, c))

end Channel

/-- A natural number of thirty-two bits. -/
def word32 : Json.Decoder UInt32 := fun depth tokens =>
  (Json.natural 32 "u32" depth tokens).map fun (n, rest) => (n.toUInt32, rest)

/-- A natural number of sixty-four bits. -/
def word64 : Json.Decoder UInt64 := fun depth tokens =>
  (Json.natural 64 "u64" depth tokens).map fun (n, rest) => (n.toUInt64, rest)

/-- How much a finding on each channel counts. -/
structure Weights where
  content : UInt32 := 50
  comment : UInt32 := 80
  metadata : UInt32 := 70
  deriving DecidableEq, Repr

namespace Weights

/-- The weight of a channel. -/
def of (w : Weights) : Channel → UInt32
  | .content => w.content
  | .comment => w.comment
  | .metadata => w.metadata

/-- The weights in a document. -/
def toJson (w : Weights) : Json.Value :=
  .record [("content", .ofNat w.content.toNat), ("comment", .ofNat w.comment.toNat),
    ("meta", .ofNat w.metadata.toNat)]

/-- The fields of a document of weights, as far as they were given. -/
structure Given where
  content : Option UInt32 := none
  comment : Option UInt32 := none
  metadata : Option UInt32 := none

/-- Weights in a document; a weight that is not given has its default. -/
def schema : Json.Schema Given Weights where
  expected := "struct ChannelWeights"
  expectedList := "struct ChannelWeights with 3 elements"
  fields :=
    [.of "content" false (·.content) (fun s a => { s with content := some a }) word32,
     .of "comment" false (·.comment) (fun s a => { s with comment := some a }) word32,
     .of "meta" false (·.metadata) (fun s a => { s with metadata := some a }) word32]
  start := {}
  build := fun s => some
    { content := s.content.getD ({} : Weights).content
      comment := s.comment.getD ({} : Weights).comment
      metadata := s.metadata.getD ({} : Weights).metadata }

end Weights

end RuleScan
