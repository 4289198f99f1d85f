import Mathlib.Data.List.Chain
import Mathlib.Data.List.Forall2
import RuleScan.Plugin.Patterns
import RuleScan.Proofs.Regex.Matches

/-!
# What plugins made of patterns answer

The answer of such a plugin is told by its definition alone: which of the patterns have matches in
the buffer, and where these are (`answer`). A definition is accepted when it has a name and patterns
that can be read (`ofDefinition_isOk`), and `scan_eq` says when its rule is answered. All that is
asked of a searcher is that it gives matches in the buffer, one after the other
(`Searcher.Successive`); that of this library does (`searcher_successive`). The main result
`described` has all this with the order of the hits, which do not overlap and lie in the buffer.
-/

namespace RuleScan

open Regex (Span)

variable {M : Type} (S : Searcher M)

/-! ## Successive matches -/

/-- A match that another one may come after: it is not overlapped, and passed by if it is empty. -/
structure Regex.Span.LeadsTo (a b : Span) : Prop where
  stop_le : a.stop ≤ b.start
  lt_of_empty : a.stop = a.start → a.stop < b.start

/-- A searcher gives matches that lie in the buffer, each of them behind the one before. -/
structure Searcher.Successive : Prop where
  within : ∀ program data, ∀ m ∈ S.matchesIn program data, m.Within 0 data.size
  leadsTo : ∀ program data, (S.matchesIn program data).IsChain Span.LeadsTo

instance : Trans Span.Before Span.Before Span.Before where
  trans hab hbc := ⟨hab.1.trans hbc.1, hab.2.trans hbc.1.le⟩

variable {S}

/-- What comes somewhere behind a match starts later, and so does all that follows. -/
theorem Searcher.Successive.pairwise (h : S.Successive) (program : M) (data : ByteArray) :
    (S.matchesIn program data).Pairwise Span.Before := by
  have hchain := h.leadsTo program data
  refine List.isChain_iff_pairwise.1 (hchain.imp_of_mem_imp fun a b ha _ hab => ?_)
  have horder := (h.within program data a ha).start_le
  rcases Nat.eq_or_lt_of_le horder with hempty | hlt
  · have hlater := hab.lt_of_empty hempty.symm
    exact ⟨hempty.trans_lt hlater, hlater.le⟩
  · exact ⟨hlt.trans_le hab.stop_le, hab.stop_le⟩

/-- **Programs for regular expressions find one match after the other.** -/
theorem searcher_successive : searcher.Successive where
  within program data _ hm := Regex.within_of_mem_matches program data hm
  leadsTo program data := by
    have hpairwise := Regex.matches_pairwise program data
    refine hpairwise.isChain.imp fun a b hab => ⟨hab.2, fun hempty => ?_⟩
    rw [hempty]
    exact hab.1

namespace PatternPlugin

/-! ## Definitions that are accepted -/

theorem readPatterns_cons (pattern : String) (rest : List String) :
    readPatterns S (pattern :: rest) = (S.read pattern).bind fun program =>
      (readPatterns S rest).map (program :: ·) := by
  rw [readPatterns]
  rcases S.read pattern with e | program
  · rfl
  · rcases readPatterns S rest with e | programs <;> rfl

theorem readPatterns_isOk (patterns : List String) :
    (readPatterns S patterns).isOk ↔ ∀ pattern ∈ patterns, (S.read pattern).isOk := by
  induction patterns with
  | nil => simp [readPatterns, Except.isOk, Except.toBool]
  | cons pattern rest ih =>
    rw [readPatterns_cons, List.forall_mem_cons, ← ih]
    rcases S.read pattern with e | program
    · simp [Except.bind, Except.isOk, Except.toBool]
    · rcases readPatterns S rest with e | programs <;>
        simp [Except.bind, Except.map, Except.isOk, Except.toBool]

theorem readPatterns_programs {patterns : List String} {programs : List M}
    (h : readPatterns S patterns = .ok programs) :
    List.Forall₂ (fun pattern program => S.read pattern = .ok program) patterns programs := by
  induction patterns generalizing programs with
  | nil =>
    cases h
    exact .nil
  | cons pattern rest ih =>
    rw [readPatterns_cons] at h
    rcases hp : S.read pattern with e | program
    · rw [hp] at h
      cases h
    · rcases hrest : readPatterns S rest with e | others
      · rw [hp, hrest] at h
        cases h
      · rw [hp, hrest] at h
        cases h
        exact .cons hp (ih hrest)

/-- **A definition is accepted** when it has a name and patterns, all of which can be read. -/
theorem ofDefinition_isOk (d : Definition) :
    (ofDefinition S d).isOk ↔ d.identifier ≠ "" ∧ d.patterns ≠ [] ∧
      ∀ pattern ∈ d.patterns, (S.read pattern).isOk := by
  rw [← readPatterns_isOk, ofDefinition]
  split_ifs with hname hpatterns
  · simp [hname, Except.isOk, Except.toBool]
  · simp [List.isEmpty_iff.1 hpatterns, Except.isOk, Except.toBool]
  · have hne : d.patterns ≠ [] := fun h => hpatterns (List.isEmpty_iff.2 h)
    rcases readPatterns S d.patterns with e | programs <;>
      simp [hname, hne, Except.isOk, Except.toBool]

/-- The plugin of a definition keeps it, with a program for each pattern. -/
theorem of_ofDefinition {d : Definition} {plugin : PatternPlugin M}
    (h : ofDefinition S d = .ok plugin) :
    plugin.definition = d ∧ readPatterns S d.patterns = .ok plugin.programs := by
  unfold ofDefinition at h
  split_ifs at h
  split at h
  · next programs hprograms =>
    cases h
    exact ⟨rfl, hprograms⟩
  · cases h

/-! ## Answers -/

section

variable (S)

/-- All matches of a pattern in a buffer. A text that is no pattern has none. -/
def matchesOf (data : ByteArray) (pattern : String) : List Span :=
  match S.read pattern with
  | .ok program => S.matchesIn program data
  | .error _ => []

/-- The patterns that are found in a buffer, each with its number. -/
def found (d : Definition) (data : ByteArray) : List (String × Nat) :=
  d.patterns.zipIdx.filter fun (pattern, _) => !(matchesOf S data pattern).isEmpty

/-- A match as a hit. -/
def hitOf (m : Span) : Hit := { offset := m.start, length := m.stop - m.start }

/-- A pattern of some number with its first matches. -/
def hitsOf (data : ByteArray) (numbered : String × Nat) : PatternHits where
  identifier := "$" ++ decimal numbered.2
  hits := ((matchesOf S data numbered.1).take maxHits).map hitOf

/-- The rule of a definition with the hits of all patterns that are found. -/
def answer (d : Definition) (data : ByteArray) : RuleMatch :=
  d.rule ((found S d data).map (hitsOf S data))

/-- Whether a definition holds of a buffer: one of its patterns is found, or all of them. -/
def Holds (d : Definition) (data : ByteArray) : Prop :=
  if d.matchAll then ∀ pattern ∈ d.patterns, matchesOf S data pattern ≠ []
  else ∃ pattern ∈ d.patterns, matchesOf S data pattern ≠ []

end

theorem hits_eq {data : ByteArray} {pattern : String} {program : M}
    (h : S.read pattern = .ok program) :
    hits S program data = ((matchesOf S data pattern).take maxHits).map hitOf := by
  rw [hits, matchesOf, h]
  rfl

theorem patternHits_eq (data : ByteArray) {patterns : List String} {programs : List M}
    (h : List.Forall₂ (fun pattern program => S.read pattern = .ok program) patterns programs)
    (index : Nat) :
    patternHits S data index programs = (patterns.zipIdx index).map (hitsOf S data) := by
  induction h generalizing index with
  | nil => rfl
  | cons hp _ ih => rw [patternHits, hits_eq hp, ih, List.zipIdx_cons, List.map_cons]; rfl

theorem hitsOf_isEmpty (data : ByteArray) (numbered : String × Nat) :
    (hitsOf S data numbered).hits.isEmpty = (matchesOf S data numbered.1).isEmpty := by
  rw [hitsOf, List.isEmpty_map]
  cases matchesOf S data numbered.1 <;> rfl

/-- Something is true of all numbered patterns when it is true of all patterns. -/
theorem forall_numbered {patterns : List String} {q : String → Prop} :
    (∀ numbered ∈ patterns.zipIdx, q numbered.1) ↔ ∀ pattern ∈ patterns, q pattern := by
  have hmap := List.forall_mem_map (f := Prod.fst) (l := patterns.zipIdx) (P := q)
  rw [List.zipIdx_map_fst] at hmap
  exact hmap.symm

theorem found_eq_nil (d : Definition) (data : ByteArray) :
    found S d data = [] ↔ ∀ pattern ∈ d.patterns, matchesOf S data pattern = [] := by
  rw [found, List.filter_eq_nil_iff, ← forall_numbered]
  simp

theorem length_found_lt (d : Definition) (data : ByteArray) :
    (found S d data).length < d.patterns.zipIdx.length ↔
      ¬ ∀ pattern ∈ d.patterns, matchesOf S data pattern ≠ [] := by
  rw [found, List.length_filter_lt_length_iff_exists, ← forall_numbered]
  simp

theorem scan_of_programs {d : Definition} {programs : List M}
    (h : readPatterns S d.patterns = .ok programs) (data : ByteArray) :
    scan S ⟨d, programs⟩ data =
      if found S d data = [] then .nothing
      else if d.matchAll ∧ (found S d data).length < d.patterns.zipIdx.length then .nothing
      else .found (answer S d data) := by
  have hall := patternHits_eq data (readPatterns_programs h) 0
  have hfound : (d.patterns.zipIdx.map (hitsOf S data)).filter (fun hit => !hit.hits.isEmpty) =
      (found S d data).map (hitsOf S data) := by
    rw [List.filter_map, found]
    simp only [Function.comp_def, hitsOf_isEmpty]
  simp only [scan, hall, hfound, List.isEmpty_map, List.isEmpty_iff, List.length_map,
    Bool.and_eq_true, decide_eq_true_eq, answer]

/-- **What a plugin answers** is told by its definition. -/
theorem scan_eq {d : Definition} {plugin : PatternPlugin M} (h : ofDefinition S d = .ok plugin)
    (data : ByteArray) :
    (Holds S d data → plugin.scan S data = .found (answer S d data)) ∧
      (¬ Holds S d data → plugin.scan S data = .nothing) := by
  have haccepted := (ofDefinition_isOk d).1 (by rw [h]; rfl)
  obtain ⟨hd, hprograms⟩ := of_ofDefinition h
  obtain ⟨definition, programs⟩ := plugin
  obtain rfl : definition = d := hd
  obtain ⟨first, hfirst⟩ := List.exists_mem_of_ne_nil _ haccepted.2.1
  have hnil := found_eq_nil (S := S) definition data
  have hless := length_found_lt (S := S) definition data
  rw [scan_of_programs hprograms, Holds]
  cases definition.matchAll with
  | false =>
    simp only [Bool.false_eq_true, if_false, false_and]
    constructor
    · rintro ⟨pattern, hmem, hne⟩
      exact if_neg fun hnone => hne (hnil.1 hnone pattern hmem)
    · intro hnone
      refine if_pos (hnil.2 fun pattern hmem => ?_)
      by_contra hne
      exact hnone ⟨pattern, hmem, hne⟩
  | true =>
    simp only [if_true, true_and]
    constructor
    · intro hall
      rw [if_neg fun hnone => hall first hfirst (hnil.1 hnone first hfirst),
        if_neg fun hlt => hless.1 hlt hall]
    · intro hsome
      rw [if_pos (hless.2 hsome), ite_self]

/-! ## Where the hits are -/

/-- A hit lies in a buffer, byte for byte as it was looked for. -/
structure Fits (data : ByteArray) (hit : Hit) : Prop where
  le_size : hit.offset + hit.length ≤ data.size
  plain : hit.decoded = false

/-- Two hits, the second of which starts later, and not inside the first. -/
def Before (a b : Hit) : Prop := a.offset < b.offset ∧ a.offset + a.length ≤ b.offset

theorem within_of_mem_matchesOf (hS : S.Successive) {data : ByteArray} {pattern : String} {m : Span}
    (h : m ∈ matchesOf S data pattern) : m.Within 0 data.size := by
  unfold matchesOf at h
  split at h
  · exact hS.within _ data m h
  · cases h

theorem matchesOf_pairwise (hS : S.Successive) (data : ByteArray) (pattern : String) :
    (matchesOf S data pattern).Pairwise Span.Before := by
  unfold matchesOf
  split
  · exact hS.pairwise _ data
  · exact .nil

theorem fits_of_mem_hitsOf (hS : S.Successive) {data : ByteArray} {numbered : String × Nat}
    {hit : Hit} (h : hit ∈ (hitsOf S data numbered).hits) : Fits data hit := by
  obtain ⟨m, hm, rfl⟩ := List.mem_map.1 h
  have hwithin := within_of_mem_matchesOf hS (List.mem_of_mem_take hm)
  refine ⟨?_, rfl⟩
  rw [hitOf, Nat.add_sub_cancel' hwithin.start_le]
  exact hwithin.le_last

theorem hitsOf_pairwise (hS : S.Successive) (data : ByteArray) (numbered : String × Nat) :
    (hitsOf S data numbered).hits.Pairwise Before := by
  have hmatches := (matchesOf_pairwise hS data numbered.1).sublist (List.take_sublist maxHits _)
  refine List.pairwise_map.2 (hmatches.imp_of_mem fun {a b} ha _ hab => ⟨hab.1, ?_⟩)
  have hwithin := within_of_mem_matchesOf hS (List.mem_of_mem_take ha)
  rw [hitOf, hitOf, Nat.add_sub_cancel' hwithin.start_le]
  exact hab.2

/-! ## All together -/

theorem holds_any_iff {d : Definition} {data : ByteArray} (h : d.matchAll = false) :
    Holds S d data ↔ found S d data ≠ [] := by
  rw [Holds, if_neg (by simp [h]), Ne, found_eq_nil]
  push Not
  exact Iff.rfl

theorem holds_all_iff {d : Definition} {data : ByteArray} (h : d.matchAll = true) :
    Holds S d data ↔ found S d data = d.patterns.zipIdx := by
  rw [Holds, if_pos h, found, List.filter_eq_self, ← forall_numbered]
  simp

theorem found_iff_holds {d : Definition} {plugin : PatternPlugin M}
    (h : ofDefinition S d = .ok plugin) (data : ByteArray) :
    (∃ rule, plugin.scan S data = .found rule) ↔ Holds S d data := by
  obtain ⟨hfound, hnothing⟩ := scan_eq h data
  constructor
  · rintro ⟨rule, hrule⟩
    by_contra hnot
    rw [hnothing hnot] at hrule
    cases hrule
  · exact fun hd => ⟨_, hfound hd⟩

/-- Whether one pattern is enough or all are needed makes no difference to the programs. -/
theorem ofDefinition_any {d : Definition} {plugin : PatternPlugin M}
    (h : ofDefinition S d = .ok plugin) :
    ofDefinition S { d with matchAll := false } =
      .ok ⟨{ d with matchAll := false }, plugin.programs⟩ := by
  have haccepted := (ofDefinition_isOk d).1 (by rw [h]; rfl)
  have hprograms := (of_ofDefinition h).2
  rw [ofDefinition, if_neg haccepted.1, if_neg (by simpa using haccepted.2.1), hprograms]

/-- What a definition that is needed in full finds, it also finds where one pattern is enough. -/
theorem holds_any_of_holds {d : Definition} {data : ByteArray} (hne : d.patterns ≠ [])
    (h : Holds S d data) : Holds S { d with matchAll := false } data := by
  cases hall : d.matchAll with
  | false =>
    rw [Holds, if_neg (by simp [hall])] at h
    exact h
  | true =>
    rw [Holds, if_pos hall] at h
    obtain ⟨first, hfirst⟩ := List.exists_mem_of_ne_nil _ hne
    exact ⟨first, hfirst, h first hfirst⟩

variable (S) in
/-- What a plugin with a definition does with a buffer. -/
structure Follows (d : Definition) (data : ByteArray) (plugin : PatternPlugin M) : Prop where
  /-- If one pattern is enough, the rule is answered when there is one with a match. -/
  any_iff : d.matchAll = false →
    ((∃ rule, plugin.scan S data = .found rule) ↔ found S d data ≠ [])
  /-- If all patterns are needed, the rule is answered when each of them has a match. -/
  all_iff : d.matchAll = true →
    ((∃ rule, plugin.scan S data = .found rule) ↔ found S d data = d.patterns.zipIdx)
  /-- In either case it is the rule that is answered where one pattern is enough. -/
  as_any : ∃ any, ofDefinition S { d with matchAll := false } = .ok any ∧
    ∀ rule, plugin.scan S data = .found rule → any.scan S data = .found rule
  found_or_nothing : (∃ rule, plugin.scan S data = .found rule) ∨ plugin.scan S data = .nothing
  rule_eq : ∀ rule, plugin.scan S data = .found rule →
    rule = { identifier := d.identifier, space := d.space, metadata := d.metadata
             patterns := (found S d data).map (hitsOf S data) }
  ordered : ∀ rule, plugin.scan S data = .found rule → ∀ p ∈ rule.patterns,
    (∀ hit ∈ p.hits, Fits data hit) ∧ p.hits.Pairwise Before

/-- **A plugin made of patterns does what its definition says**: which definitions are accepted, and
what is answered about a buffer, if the matches of patterns come one after the other. -/
theorem described (hS : S.Successive) (d : Definition) (data : ByteArray) :
    ((ofDefinition S d).isOk ↔ d.identifier ≠ "" ∧ d.patterns ≠ [] ∧
      ∀ pattern ∈ d.patterns, (S.read pattern).isOk) ∧
    ∀ plugin, ofDefinition S d = .ok plugin → Follows S d data plugin := by
  refine ⟨ofDefinition_isOk d, fun plugin hplugin => ?_⟩
  have hholds := found_iff_holds hplugin data
  have haccepted := (ofDefinition_isOk d).1 (by rw [hplugin]; rfl)
  have hrule {rule : RuleMatch} (h : plugin.scan S data = .found rule) :
      rule = answer S d data := by
    have hanswer := (scan_eq hplugin data).1 (hholds.1 ⟨rule, h⟩)
    exact Verdict.found.inj (h.symm.trans hanswer)
  refine ⟨fun h => hholds.trans (holds_any_iff h), fun h => hholds.trans (holds_all_iff h),
    ⟨_, ofDefinition_any hplugin, fun rule h => ?_⟩, ?_, fun rule h => hrule h,
    fun rule h p hp => ?_⟩
  · have hany := holds_any_of_holds haccepted.2.1 (hholds.1 ⟨rule, h⟩)
    rw [hrule h]
    exact (scan_eq (ofDefinition_any hplugin) data).1 hany
  · by_cases h : Holds S d data
    · exact .inl (hholds.2 h)
    · exact .inr ((scan_eq hplugin data).2 h)
  · rw [hrule h] at hp
    obtain ⟨numbered, -, rfl⟩ := List.mem_map.1 hp
    exact ⟨fun hit => fits_of_mem_hitsOf hS, hitsOf_pairwise hS data numbered⟩

/-- A definition with two patterns, one of which is enough. -/
def twoCalls : Definition where
  identifier := "eval_call"
  space := "js"
  metadata := [⟨"category", "script"⟩]
  patterns := ["eval\\(", "atob\\("]

/-- The second of two patterns is found, under its number in the definition. -/
theorem twoCalls_described :
    searcher.Successive ∧ ∃ plugin, ofDefinition searcher twoCalls = .ok plugin ∧
      Follows searcher twoCalls "x = atob(y)".toUTF8 plugin ∧
      plugin.scan searcher "x = atob(y)".toUTF8 = .found
        { identifier := "eval_call", space := "js", metadata := [⟨"category", "script"⟩]
          patterns := [⟨"$1", [⟨4, 5, false⟩]⟩] } := by
  have hscan : (ofDefinition searcher twoCalls).toOption.map
      (·.scan searcher "x = atob(y)".toUTF8) = some (.found
      { identifier := "eval_call", space := "js", metadata := [⟨"category", "script"⟩]
        patterns := [⟨"$1", [⟨4, 5, false⟩]⟩] }) := by
    decide +kernel
  rcases hplugin : ofDefinition searcher twoCalls with e | plugin
  · rw [hplugin] at hscan
    cases hscan
  · rw [hplugin] at hscan
    have hfollows := (described searcher_successive twoCalls "x = atob(y)".toUTF8).2 plugin hplugin
    exact ⟨searcher_successive, plugin, rfl, hfollows, Option.some.inj hscan⟩

end PatternPlugin

end RuleScan
