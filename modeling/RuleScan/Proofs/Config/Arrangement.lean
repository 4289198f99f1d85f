import RuleScan.Proofs.Config.Pace

/-!
# Configurations in any layout

A document of a configuration means what it says whatever its layout. Of the fields of the
configuration, of its weights and of its compile options any may be left out (`Config.Kept`), those
that stay may stand in any order, and among them may be fields with other names
(`Config.Tells`, `Schema.Arranges`); what is read is the configuration with defaults for the fields
that were left out (`Config.only`). A field that is there twice is refused, wherever it is
(`Config.Repeats`). Main statement: `any_layout_means_the_same`.
-/

namespace RuleScan

open Json

/-! ## Weights -/

namespace Weights

/-- The weights of which some are kept; the others have their defaults. -/
def only (w : Weights) (kept : String → Bool) : Weights where
  content := if kept "content" then w.content else ({} : Weights).content
  comment := if kept "comment" then w.comment else ({} : Weights).comment
  metadata := if kept "meta" then w.metadata else ({} : Weights).metadata

/-- The weights that are given once some names were seen. -/
def given (w : Weights) (seen : String → Bool) : Given where
  content := if seen "content" then some w.content else none
  comment := if seen "comment" then some w.comment else none
  metadata := if seen "meta" then some w.metadata else none

theorem finish_given (w : Weights) (kept : String → Bool) :
    schema.finish (w.given kept) = .ok (w.only kept) := by
  rw [given, only]
  cases kept "content" <;> cases kept "comment" <;> cases kept "meta" <;> rfl

theorem schema_local : schema.LocalFields := by
  intro field hfield s
  simp only [schema, List.mem_cons, List.not_mem_nil, or_false] at hfield
  rcases hfield with rfl | rfl | rfl
  · exact FieldSchema.local_of local_word32 _ _ _ _ s
  · exact FieldSchema.local_of local_word32 _ _ _ _ s
  · exact FieldSchema.local_of local_word32 _ _ _ _ s

theorem schema_reaches (w : Weights) {depth : Nat} (h : 0 < depth) :
    schema.Reaches depth w.toJson.Tells w.given where
  start := rfl
  congr seen seen' hseen := by
    have hcontent := hseen "content" (by decide)
    have hcomment := hseen "comment" (by decide)
    have hmetadata := hseen "meta" (by decide)
    rw [given, given, hcontent, hcomment, hmetadata]
  read field hfield name hname seen t ht hseen := by
    obtain ⟨v, hv, rfl⟩ := ht
    simp only [schema, List.mem_cons, List.not_mem_nil, or_false] at hfield
    rcases hfield with rfl | rfl | rfl
    · obtain rfl := List.mem_singleton.1 hname
      obtain rfl := Option.some.inj hv
      exact FieldSchema.reads_of (by simp [given, hseen]) (reads_word32 w.content depth h)
        (by simp [given, Schema.note])
    · obtain rfl := List.mem_singleton.1 hname
      obtain rfl := Option.some.inj hv
      exact FieldSchema.reads_of (by simp [given, hseen]) (reads_word32 w.comment depth h)
        (by simp [given, Schema.note])
    · obtain rfl := List.mem_singleton.1 hname
      obtain rfl := Option.some.inj hv
      exact FieldSchema.reads_of (by simp [given, hseen]) (reads_word32 w.metadata depth h)
        (by simp [given, Schema.note])

theorem schema_settles : schema.Settles := by
  intro depth field hfield s t s' hread
  simp only [schema, List.mem_cons, List.not_mem_nil, or_false] at hfield
  rcases hfield with rfl | rfl | rfl <;>
    (obtain ⟨b, rfl⟩ := FieldSchema.set_of hread
     simp +contextual [schema, FieldSchema.of])

/-- **A record of weights** is read in any order. -/
theorem onTree_arranged (w : Weights) {kept : String → Bool} {ms : List (String × Tree)}
    (hms : schema.Arranges w.toJson.Tells kept ms) {depth : Nat} (h : 1 < depth) :
    onTree schema.decoder depth (.ofMembers ms) = .ok (w.only kept) := by
  obtain ⟨inner, hinner, hpos⟩ := deeper_of_lt h
  rw [Schema.onTree_arranged schema_local hinner (w.schema_reaches hpos) hms, w.finish_given]

theorem arranges_toJson (w : Weights) : ∃ ms, w.toJson.tree = .ofMembers ms ∧
    schema.Arranges w.toJson.Tells (fun _ => true) ms := by
  refine ⟨_, Value.tree_record _, ?_, fun m hm _ => ?_⟩
  · change ∀ name ∈ schema.names, ["content", "comment", "meta"].count name = 1
    decide
  · simp only [fieldMembers, List.map_cons, List.map_nil, List.mem_cons, List.not_mem_nil,
      or_false] at hm
    rcases hm with rfl | rfl | rfl <;> exact ⟨_, rfl, rfl⟩

end Weights

/-! ## Compile options -/

namespace CompileOptions

/-- The options of which some are kept; the others have their defaults. -/
def only (o : CompileOptions) (kept : String → Bool) : CompileOptions where
  relaxedRegex := if kept "relaxed_re_syntax" then o.relaxedRegex
    else ({} : CompileOptions).relaxedRegex
  slowIsError := if kept "error_on_slow_pattern" then o.slowIsError
    else ({} : CompileOptions).slowIsError

/-- The options that are given once some names were seen. -/
def given (o : CompileOptions) (seen : String → Bool) : Given where
  relaxedRegex := if seen "relaxed_re_syntax" then some o.relaxedRegex else none
  slowIsError := if seen "error_on_slow_pattern" then some o.slowIsError else none

theorem finish_given (o : CompileOptions) (kept : String → Bool) :
    schema.finish (o.given kept) = .ok (o.only kept) := by
  rw [given, only]
  cases kept "relaxed_re_syntax" <;> cases kept "error_on_slow_pattern" <;> rfl

theorem schema_local : schema.LocalFields := by
  intro field hfield s
  simp only [schema, List.mem_cons, List.not_mem_nil, or_false] at hfield
  rcases hfield with rfl | rfl
  · exact FieldSchema.local_of local_bool _ _ _ _ s
  · exact FieldSchema.local_of local_bool _ _ _ _ s

theorem schema_reaches (o : CompileOptions) {depth : Nat} (h : 0 < depth) :
    schema.Reaches depth o.toJson.Tells o.given where
  start := rfl
  congr seen seen' hseen := by
    have hrelaxed := hseen "relaxed_re_syntax" (by decide)
    have hslow := hseen "error_on_slow_pattern" (by decide)
    rw [given, given, hrelaxed, hslow]
  read field hfield name hname seen t ht hseen := by
    obtain ⟨v, hv, rfl⟩ := ht
    simp only [schema, List.mem_cons, List.not_mem_nil, or_false] at hfield
    rcases hfield with rfl | rfl
    · obtain rfl := List.mem_singleton.1 hname
      obtain rfl := Option.some.inj hv
      exact FieldSchema.reads_of (by simp [given, hseen]) (reads_bool o.relaxedRegex depth h)
        (by simp [given, Schema.note])
    · obtain rfl := List.mem_singleton.1 hname
      obtain rfl := Option.some.inj hv
      exact FieldSchema.reads_of (by simp [given, hseen]) (reads_bool o.slowIsError depth h)
        (by simp [given, Schema.note])

theorem schema_settles : schema.Settles := by
  intro depth field hfield s t s' hread
  simp only [schema, List.mem_cons, List.not_mem_nil, or_false] at hfield
  rcases hfield with rfl | rfl <;>
    (obtain ⟨b, rfl⟩ := FieldSchema.set_of hread
     simp +contextual [schema, FieldSchema.of])

/-- **A record of compile options** is read in any order. -/
theorem onTree_arranged (o : CompileOptions) {kept : String → Bool} {ms : List (String × Tree)}
    (hms : schema.Arranges o.toJson.Tells kept ms) {depth : Nat} (h : 1 < depth) :
    onTree schema.decoder depth (.ofMembers ms) = .ok (o.only kept) := by
  obtain ⟨inner, hinner, hpos⟩ := deeper_of_lt h
  rw [Schema.onTree_arranged schema_local hinner (o.schema_reaches hpos) hms, o.finish_given]

theorem arranges_toJson (o : CompileOptions) : ∃ ms, o.toJson.tree = .ofMembers ms ∧
    schema.Arranges o.toJson.Tells (fun _ => true) ms := by
  refine ⟨_, Value.tree_record _, ?_, fun m hm _ => ?_⟩
  · change ∀ name ∈ schema.names,
      ["relaxed_re_syntax", "error_on_slow_pattern"].count name = 1
    decide
  · simp only [fieldMembers, List.map_cons, List.map_nil, List.mem_cons, List.not_mem_nil,
      or_false] at hm
    rcases hm with rfl | rfl <;> exact ⟨_, rfl, rfl⟩

end CompileOptions

/-! ## Configurations -/

namespace Config

/-- Which fields of a configuration are kept, and which of its weights and compile options. -/
structure Kept where
  top : String → Bool
  weights : String → Bool
  compiler : String → Bool

/-- The configuration of which some fields are kept; the others have their defaults. -/
def only (c : Config) (kept : Kept) : Config :=
  let default : Config := {}
  { weights := if kept.top "weights" then c.weights.only kept.weights else default.weights
    compile := if kept.top "compiler" then c.compile.only kept.compiler else default.compile
    pace := if kept.top "pacing" then c.pace else default.pace
    onPluginFailure := if kept.top "plugin_failure" then c.onPluginFailure
      else default.onPluginFailure
    timeoutMillis := if kept.top "scan_timeout_ms" then c.timeoutMillis else default.timeoutMillis
    cacheDir := if kept.top "cache_dir" then c.cacheDir else default.cacheDir }

/-- What the fields of a document of a configuration tell. The objects among them have their own
members in any order, and of weights and compile options only those that are kept. -/
structure Tells (c : Config) (kept : Kept) (name : String) (t : Tree) : Prop where
  weights : name = "weights" → ∃ ms,
    Weights.schema.Arranges c.weights.toJson.Tells kept.weights ms ∧ t = .ofMembers ms
  compiler : name = "compiler" → ∃ ms,
    CompileOptions.schema.Arranges c.compile.toJson.Tells kept.compiler ms ∧ t = .ofMembers ms
  pacing : name = "pacing" → ∃ fields ms,
    c.pace.toJson = .record fields ∧ ms.Perm (fieldMembers fields) ∧ t = .ofMembers ms
  others : name ∉ ["weights", "compiler", "pacing"] → c.toJson.Tells name t

section Telling

variable {c : Config} {kept : Kept}

theorem tells_weights {ms : List (String × Tree)}
    (hms : Weights.schema.Arranges c.weights.toJson.Tells kept.weights ms) :
    c.Tells kept "weights" (.ofMembers ms) := ⟨fun _ => ⟨ms, hms, rfl⟩, by simp, by simp, by simp⟩

theorem tells_compiler {ms : List (String × Tree)}
    (hms : CompileOptions.schema.Arranges c.compile.toJson.Tells kept.compiler ms) :
    c.Tells kept "compiler" (.ofMembers ms) := ⟨by simp, fun _ => ⟨ms, hms, rfl⟩, by simp, by simp⟩

theorem tells_pacing {fields : List (String × Value)} {ms : List (String × Tree)}
    (hfields : c.pace.toJson = .record fields) (hms : ms.Perm (fieldMembers fields)) :
    c.Tells kept "pacing" (.ofMembers ms) :=
  ⟨by simp, by simp, fun _ => ⟨fields, ms, hfields, hms, rfl⟩, by simp⟩

theorem tells_other {name : String} {t : Tree} (hname : name ∉ ["weights", "compiler", "pacing"])
    (ht : c.toJson.Tells name t) : c.Tells kept name t := by
  simp only [List.mem_cons, List.not_mem_nil, or_false, not_or] at hname
  exact ⟨fun h => absurd h hname.1, fun h => absurd h hname.2.1, fun h => absurd h hname.2.2,
    fun _ => ht⟩

end Telling

/-- The settings that are given once some names were seen. -/
def given (c : Config) (kept : Kept) (seen : String → Bool) : Given where
  weights := if seen "weights" then some (c.weights.only kept.weights) else none
  compile := if seen "compiler" then some (c.compile.only kept.compiler) else none
  pace := if seen "pacing" then some c.pace else none
  onPluginFailure := if seen "plugin_failure" then some c.onPluginFailure else none
  timeoutMillis := if seen "scan_timeout_ms" then some c.timeoutMillis else none
  cacheDir := if seen "cache_dir" then some c.cacheDir else none

theorem finish_given (c : Config) (kept : Kept) :
    schema.finish (c.given kept kept.top) = .ok (c.only kept) := by
  have hget {α : Type} (b : Bool) (a d : α) :
      (if b then some a else none).getD d = if b then a else d := by cases b <;> rfl
  have hfinish (s : Given) : schema.finish s =
      .ok { weights := s.weights.getD {}, compile := s.compile.getD {},
            pace := s.pace.getD .unthrottled, onPluginFailure := s.onPluginFailure.getD .skip,
            timeoutMillis := s.timeoutMillis.getD none,
            cacheDir := s.cacheDir.getD ".cache/rsyara" } := rfl
  rw [hfinish, given, only]
  simp only [hget]

theorem schema_local : schema.LocalFields := by
  intro field hfield s
  simp only [schema, List.mem_cons, List.not_mem_nil, or_false] at hfield
  rcases hfield with rfl | rfl | rfl | rfl | rfl | rfl
  · exact FieldSchema.local_of (Schema.local_decoder Weights.schema_local) _ _ _ _ s
  · exact FieldSchema.local_of (Schema.local_decoder CompileOptions.schema_local) _ _ _ _ s
  · exact FieldSchema.local_of Pace.local_decoder _ _ _ _ s
  · exact FieldSchema.local_of (local_variant _) _ _ _ _ s
  · exact FieldSchema.local_of (local_optional local_word64) _ _ _ _ s
  · exact FieldSchema.local_of (local_textAs _) _ _ _ _ s

theorem reads_failurePolicy (p : FailurePolicy) : Reads FailurePolicy.decoder 0 p.toJson p := by
  intro depth _
  cases p <;> rfl

theorem reads_timeout (timeout : Option UInt64) : Reads (optional word64) 0
    (.ofOption (fun (ms : UInt64) => .ofNat ms.toNat) timeout) timeout := by
  intro depth h
  cases timeout with
  | none => rfl
  | some ms =>
    have hread := reads_word64 ms depth h
    rw [onTree] at hread ⊢
    change ((word64 depth (Value.ofNat ms.toNat).tree.tokens).map _).map _ = _
    rcases hword : word64 depth (Value.ofNat ms.toNat).tree.tokens with e | ⟨a, rest⟩
    · rw [hword] at hread
      cases hread
    · rw [hword] at hread
      obtain rfl := Except.ok.inj hread
      rfl

theorem schema_reaches (c : Config) (kept : Kept) {depth : Nat} (h : 1 < depth) :
    schema.Reaches depth (c.Tells kept) (c.given kept) where
  start := rfl
  congr seen seen' hseen := by
    have hweights := hseen "weights" (by decide)
    have hcompiler := hseen "compiler" (by decide)
    have hpacing := hseen "pacing" (by decide)
    have hfailure := hseen "plugin_failure" (by decide)
    have htimeout := hseen "scan_timeout_ms" (by decide)
    have hdir := hseen "cache_dir" (by decide)
    rw [given, given, hweights, hcompiler, hpacing, hfailure, htimeout, hdir]
  read field hfield name hname seen t ht hseen := by
    have hpos : 0 < depth := by omega
    simp only [schema, List.mem_cons, List.not_mem_nil, or_false] at hfield
    rcases hfield with rfl | rfl | rfl | rfl | rfl | rfl
    · obtain rfl := List.mem_singleton.1 hname
      obtain ⟨ms, hms, rfl⟩ := ht.weights rfl
      exact FieldSchema.reads_of (by simp [given, hseen]) (c.weights.onTree_arranged hms h)
        (by simp [given, Schema.note])
    · obtain rfl := List.mem_singleton.1 hname
      obtain ⟨ms, hms, rfl⟩ := ht.compiler rfl
      exact FieldSchema.reads_of (by simp [given, hseen]) (c.compile.onTree_arranged hms h)
        (by simp [given, Schema.note])
    · obtain rfl := List.mem_singleton.1 hname
      obtain ⟨fields, ms, hfields, hms, rfl⟩ := ht.pacing rfl
      exact FieldSchema.reads_of (by simp [given, hseen]) (Pace.onTree_arranged hfields hms h)
        (by simp [given, Schema.note])
    · obtain rfl := List.mem_singleton.1 hname
      obtain ⟨v, hv, rfl⟩ := ht.others (by decide)
      obtain rfl := Option.some.inj hv
      exact FieldSchema.reads_of (by simp [given, hseen])
        (reads_failurePolicy c.onPluginFailure depth hpos) (by simp [given, Schema.note])
    · obtain rfl := List.mem_singleton.1 hname
      obtain ⟨v, hv, rfl⟩ := ht.others (by decide)
      obtain rfl := Option.some.inj hv
      exact FieldSchema.reads_of (by simp [given, hseen]) (reads_timeout c.timeoutMillis depth hpos)
        (by simp [given, Schema.note])
    · obtain rfl := List.mem_singleton.1 hname
      obtain ⟨v, hv, rfl⟩ := ht.others (by decide)
      obtain rfl := Option.some.inj hv
      exact FieldSchema.reads_of (by simp [given, hseen])
        (reads_textAs "path string" c.cacheDir depth hpos) (by simp [given, Schema.note])

theorem schema_settles : schema.Settles := by
  intro depth field hfield s t s' hread
  simp only [schema, List.mem_cons, List.not_mem_nil, or_false] at hfield
  rcases hfield with rfl | rfl | rfl | rfl | rfl | rfl <;>
    (obtain ⟨b, rfl⟩ := FieldSchema.set_of hread
     simp +contextual [schema, FieldSchema.of])

/-- **A record of a configuration** is read in any order. -/
theorem onTree_arranged (c : Config) {kept : Kept} {ms : List (String × Tree)}
    (hms : schema.Arranges (c.Tells kept) kept.top ms) {depth : Nat} (h : 2 < depth) :
    onTree schema.decoder depth (.ofMembers ms) = .ok (c.only kept) := by
  obtain ⟨inner, hinner, hlevels⟩ := deeper_of_lt h
  rw [Schema.onTree_arranged schema_local hinner (c.schema_reaches kept hlevels) hms,
    c.finish_given]

/-! ## Repeated fields -/

/-- Members of a document of a configuration with a known field twice, among themselves or in one of
the objects. The delay of a pace is known if the pace is of the kind that has one. -/
inductive Repeats (ms : List (String × Tree)) : Prop
  | top {name : String} (hname : name ∈ schema.names)
    (hdup : List.Duplicate name (ms.map (·.1))) : Repeats ms
  | weights {inner : List (String × Tree)} (hms : ("weights", .ofMembers inner) ∈ ms)
    {name : String} (hname : name ∈ Weights.schema.names)
    (hdup : List.Duplicate name (inner.map (·.1))) : Repeats ms
  | compiler {inner : List (String × Tree)} (hms : ("compiler", .ofMembers inner) ∈ ms)
    {name : String} (hname : name ∈ CompileOptions.schema.names)
    (hdup : List.Duplicate name (inner.map (·.1))) : Repeats ms
  | kind {inner : List (String × Tree)} (hms : ("pacing", .ofMembers inner) ∈ ms)
    (hdup : List.Duplicate "kind" (inner.map (·.1))) : Repeats ms
  | delay {inner : List (String × Tree)} (hms : ("pacing", .ofMembers inner) ∈ ms)
    (hkind : ("kind", .text (.ok "fixed_delay")) ∈ inner)
    (hdup : List.Duplicate "delay_ms" (inner.map (·.1))) : Repeats ms

/-- **A field that is there twice** is refused. -/
theorem onTree_repeats {ms : List (String × Tree)} (h : Repeats ms) (depth : Nat) :
    ∃ e, onTree schema.decoder depth (.ofMembers ms) = .error e := by
  cases h with
  | top hname hdup => exact Schema.onTree_duplicate schema_local schema_settles hname hdup
  | weights hms hname hdup =>
    exact Schema.onTree_refused schema_local rfl (fun s depth => FieldSchema.refuses_of
      (Schema.onTree_duplicate Weights.schema_local Weights.schema_settles hname hdup)) hms
  | compiler hms hname hdup =>
    exact Schema.onTree_refused schema_local rfl (fun s depth => FieldSchema.refuses_of
      (Schema.onTree_duplicate CompileOptions.schema_local CompileOptions.schema_settles hname
        hdup)) hms
  | kind hms hdup =>
    exact Schema.onTree_refused schema_local rfl (fun s depth => FieldSchema.refuses_of
      (Pace.onTree_duplicate_kind hdup depth)) hms
  | delay hms hkind hdup =>
    exact Schema.onTree_refused schema_local rfl (fun s depth => FieldSchema.refuses_of
      (Pace.onTree_duplicate_delay hkind hdup depth)) hms

/-! ## The whole document -/

/-- Everything is kept. -/
def Kept.all : Kept := ⟨fun _ => true, fun _ => true, fun _ => true⟩

theorem arranges_toJson (c : Config) : ∃ ms, c.toJson.tree = .ofMembers ms ∧
    schema.Arranges (c.Tells .all) Kept.all.top ms := by
  obtain ⟨weights, hweightsTree, hweights⟩ := c.weights.arranges_toJson
  obtain ⟨options, hoptionsTree, hoptions⟩ := c.compile.arranges_toJson
  obtain ⟨fields, hfields⟩ : ∃ fields, c.pace.toJson = .record fields := by
    cases c.pace <;> exact ⟨_, rfl⟩
  refine ⟨_, Value.tree_record _, ⟨?_, fun m hm _ => ?_⟩⟩
  · change ∀ name ∈ schema.names, ["weights", "compiler", "pacing", "plugin_failure",
      "scan_timeout_ms", "cache_dir"].count name = 1
    decide
  · simp only [fieldMembers, List.map_cons, List.map_nil, List.mem_cons, List.not_mem_nil,
      or_false] at hm
    rcases hm with rfl | rfl | rfl | rfl | rfl | rfl
    · rw [hweightsTree]
      exact tells_weights hweights
    · rw [hoptionsTree]
      exact tells_compiler hoptions
    · rw [hfields, Value.tree_record]
      exact tells_pacing hfields (.refl _)
    · exact tells_other (by simp) ⟨_, rfl, rfl⟩
    · exact tells_other (by simp) ⟨_, rfl, rfl⟩
    · exact tells_other (by simp) ⟨_, rfl, rfl⟩

theorem whole_toJson (c : Config) : c.toJson.IsWhole := by
  have hword32 (n : UInt32) : n.toNat < 2 ^ 64 := Nat.lt_trans n.toNat_lt (by decide)
  have hpace : c.pace.toJson.IsWhole := by
    cases c.pace with
    | unthrottled => exact ⟨trivial, trivial⟩
    | fixedDelay ms => exact ⟨trivial, ms.toNat_lt, trivial⟩
  have htimeout :
      (Value.ofOption (fun (ms : UInt64) => .ofNat ms.toNat) c.timeoutMillis).IsWhole := by
    cases c.timeoutMillis with
    | none => trivial
    | some ms => exact ms.toNat_lt
  exact ⟨⟨hword32 _, hword32 _, hword32 _, trivial⟩, ⟨trivial, trivial, trivial⟩, hpace, trivial,
    htimeout, trivial, trivial⟩

end Config

/-- **A document means what it tells, whatever its layout.** Any text of a document of a
configuration of which some fields are kept, here and in the weights and the compile options, in any
order and among fields with other names, is decoded as the configuration with defaults for the
fields that are not kept. A text with a known field twice is refused, whatever its values. And the
printed document is read back. -/
theorem any_layout_means_the_same :
    (∀ (c : Config) (kept : Config.Kept) (w : Written) (ms : List (String × Tree)),
      w.tree = .ofMembers ms → Config.schema.Arranges (c.Tells kept) kept.top ms →
        decodeText Config.schema.decoder w.asText = .ok (c.only kept)) ∧
    (∀ (w : Written) (ms : List (String × Tree)), w.tree = .ofMembers ms → Config.Repeats ms →
      ∃ e, decodeText Config.schema.decoder w.asText = .error e) ∧
    ∀ c : Config, decodeText Config.schema.decoder c.toJson.compact = .ok c := by
  have hdecode (w : Written) : decodeText Config.schema.decoder w.asText =
      onTree Config.schema.decoder maxDepth w.tree :=
    w.decodeText_asText (Schema.local_decoder Config.schema_local)
  refine ⟨fun c kept w ms hw hms => ?_, fun w ms hw hms => ?_, fun c => ?_⟩
  · rw [hdecode, hw, c.onTree_arranged hms (by decide)]
  · rw [hdecode, hw]
    exact Config.onTree_repeats hms maxDepth
  · obtain ⟨ms, htree, hms⟩ := c.arranges_toJson
    rw [decodeText_of_lex (Schema.local_decoder Config.schema_local) (lex_compact c.whole_toJson),
      htree, c.onTree_arranged hms (by decide)]
    rfl

/-- Settings of which only three are not the defaults. -/
def slowSettings : Config where
  weights := { metadata := 7 }
  compile := { relaxedRegex := false }
  pace := .fixedDelay 5

/-- A document of some of these settings, out of order and among fields with other names. -/
def shuffledDocument : Value :=
  .record [("theme", .list [.null, .record [("weights", .bool true)]]),
    ("pacing", .record [("delay_ms", .ofNat 5), ("kind", .text "fixed_delay")]),
    ("weights", .record [("meta", .ofNat 7), ("total", .text "7")])]

/-- A document with two delays. -/
def twiceDelayed : Value :=
  .record [("pacing", .record [("delay_ms", .ofNat 5), ("kind", .text "fixed_delay"),
    ("delay_ms", .null)])]

theorem shuffledDocument_means_the_same :
    decodeText Config.schema.decoder shuffledDocument.compact =
        .ok { weights := { metadata := 7 }, pace := .fixedDelay 5 } ∧
      ∃ e, decodeText Config.schema.decoder twiceDelayed.compact = .error e := by
  obtain ⟨harranged, hrepeats, -⟩ := any_layout_means_the_same
  constructor
  · have hwhole : shuffledDocument.IsWhole :=
      ⟨⟨trivial, ⟨trivial, trivial⟩, trivial⟩, ⟨whole_ofNat (by decide), trivial, trivial⟩,
        ⟨whole_ofNat (by decide), trivial, trivial⟩, trivial⟩
    obtain ⟨w, hchars, htree⟩ := shuffledDocument.exists_written hwhole
    have hweights : Weights.schema.Arranges slowSettings.weights.toJson.Tells (· == "meta")
        (fieldMembers [("meta", .ofNat 7), ("total", .text "7")]) := by
      refine ⟨by decide, fun m hm hname => ?_⟩
      simp only [fieldMembers, List.map_cons, List.map_nil, List.mem_cons, List.not_mem_nil,
        or_false] at hm
      rcases hm with rfl | rfl
      · exact ⟨_, rfl, rfl⟩
      · exact absurd hname (by decide)
    have hpacing : (fieldMembers [("delay_ms", .ofNat 5), ("kind", .text "fixed_delay")]).Perm
        (fieldMembers [("kind", .text "fixed_delay"), ("delay_ms", .ofNat 5)]) := .swap _ _ _
    have hdecoded := harranged slowSettings
      ⟨fun name => name == "pacing" || name == "weights", (· == "meta"), fun _ => false⟩ w _
      (htree.trans (Value.tree_record _)) ⟨by decide, fun m hm hname => ?_⟩
    · rw [Written.asText, hchars, String.ofList_toList] at hdecoded
      exact hdecoded
    · simp only [fieldMembers, List.map_cons, List.map_nil, List.mem_cons, List.not_mem_nil,
        or_false] at hm
      rcases hm with rfl | rfl | rfl
      · exact absurd hname (by decide)
      · exact (Value.tree_record _).symm ▸ Config.tells_pacing rfl hpacing
      · exact (Value.tree_record _).symm ▸ Config.tells_weights hweights
  · have hwhole : twiceDelayed.IsWhole :=
      ⟨⟨whole_ofNat (by decide), trivial, trivial, trivial⟩, trivial⟩
    obtain ⟨w, hchars, htree⟩ := twiceDelayed.exists_written hwhole
    have hrefused := hrepeats w _ (htree.trans (Value.tree_record _)) (.delay
      (List.mem_singleton.2 (congrArg (Prod.mk "pacing") (Value.tree_record _).symm))
      (.tail _ (.head _)) (by decide))
    rwa [Written.asText, hchars, String.ofList_toList] at hrefused

end RuleScan
