import Mathlib.Data.List.Basic
import RuleScan.Proofs.Scan.Reference
import RuleScan.Rules.Engine
import RuleScan.Scripted

/-!
# Entries without findings

An entry of a scan that holds neither a rule nor a module output tells nothing. The plugins never
give one, since rules that nobody found are no findings. The rules are taken at their word: where an
engine answers findings that are empty, these become an entry. The main result is
`emptyEntries_eq`: the empty entries are exactly those. An engine that never answers empty findings
(`Engine.Sparing`) leaves no empty entry (`results_of_sparing`), and the engine of a toolchain is
one (`toolchain_sparing`).
-/

namespace RuleScan

variable {κ β π : Type}

/-- Whether an entry holds neither a rule nor a module output. -/
def WeightedFindings.isEmpty (w : WeightedFindings) : Bool := w.findings.isEmpty

theorem Plugin.findings?_not_isEmpty {plugins : List Plugin} {data : ByteArray} {found : Findings}
    (h : Plugin.findings? plugins data = some found) : found.isEmpty = false := by
  unfold Plugin.findings? at h
  split at h
  · cases h
  · next hrules =>
    cases h
    cases hr : plugins.filterMap (·.rule? data) with
    | nil => exact absurd hr hrules
    | cons r rest => rfl

namespace Visit

/-- The empty findings that the rules answered, if they did, as an entry. -/
def emptyAnswer? (w : Weights) (v : Visit Channel) : Option WeightedFindings :=
  (v.found?.filter (·.isEmpty)).map fun found => ⟨v.mark, w.of v.mark, found⟩

/-- Of the entries of a visit only that of the rules can be empty. -/
theorem entries_filter_isEmpty (w : Weights) (plugins : List Plugin) (v : Visit Channel) :
    (v.entries w plugins).filter (·.isEmpty) = (v.emptyAnswer? w).toList := by
  have hplugins : ((Plugin.findings? plugins v.data).toList.filter (·.isEmpty)) = [] := by
    cases hp : Plugin.findings? plugins v.data with
    | none => rfl
    | some found => simp [Plugin.findings?_not_isEmpty hp]
  have hentry (fs : List Findings) :
      (fs.map fun found => (⟨v.mark, w.of v.mark, found⟩ : WeightedFindings)).filter (·.isEmpty) =
        (fs.filter (·.isEmpty)).map fun found => ⟨v.mark, w.of v.mark, found⟩ :=
    List.filter_map
  rw [entries, hentry, List.filter_append, hplugins, List.append_nil, emptyAnswer?]
  cases v.found? with
  | none => rfl
  | some found => cases h : found.isEmpty <;> simp [h, Option.filter]

end Visit

/-- The empty entries of an answer are those that the rules gave to the visits. -/
theorem answer_emptyEntries (policy : FailurePolicy) (w : Weights) (plugins : List Plugin)
    (vs : List (Visit Channel)) :
    (answer policy w plugins vs).map (fun o => o.results.filter (·.isEmpty)) =
      (answer policy w plugins vs).map fun _ => vs.filterMap (·.emptyAnswer? w) := by
  unfold answer
  cases vs.findSome? (·.halt? policy plugins) with
  | some h => rw [Halt.map_reply, Halt.map_reply]
  | none =>
    have hvisits : (vs.flatMap (·.entries w plugins)).filter (·.isEmpty) =
        vs.filterMap (·.emptyAnswer? w) := by
      rw [List.filter_flatMap, List.filterMap_eq_flatMap_toList]
      simp only [Visit.entries_filter_isEmpty]
    exact congrArg Reply.ok hvisits

namespace Scanner

variable (E : Engine κ β) (P : Strategy π)

/-- **The empty entries of a scan are exactly the empty answers of the rules**: for every engine and
strategy, every sample and every scanner, whenever a scan answers, what is empty in its results is
what the rules answered empty, channel by channel; the plugins add nothing to it. -/
theorem emptyEntries_eq (sample : Sample) (s : Scanner κ β π) :
    let empty := (visits E s.session.phase sample.present).filterMap (·.emptyAnswer? s.weights)
    (scanDetailed E P sample s).reply.map (fun o => o.results.filter (·.isEmpty)) =
        (scanDetailed E P sample s).reply.map (fun _ => empty) ∧
      (scan E P sample s).reply.map (fun results => results.filter (·.isEmpty)) =
        (scan E P sample s).reply.map fun _ => empty := by
  obtain ⟨p, hscan⟩ := scanDetailed_does E P sample s
  have hanswer := answer_emptyEntries s.onPluginFailure s.weights s.registry.plugins
    (visits E s.session.phase sample.present)
  refine ⟨?_, ?_⟩
  · rw [hscan.reply_eq]
    exact hanswer
  · rw [scan_reply, Reply.map_map, Reply.map_map]
    exact hanswer

end Scanner

/-! ## Engines that never answer empty findings -/

/-- An engine whose scans find something or nothing, but never findings without anything in them. -/
def Engine.Sparing (E : Engine κ β) : Prop :=
  ∀ data b found, (E.scan data b).reply = .ok (some found) → found.isEmpty = false

variable {E : Engine κ β}

theorem Visit.emptyAnswer?_eq_none {v : Visit Channel} (w : Weights)
    (h : ∀ found, v.rules = .ok (some found) → found.isEmpty = false) :
    v.emptyAnswer? w = none := by
  obtain ⟨c, data, rules⟩ := v
  rcases rules with (_ | found) | e | words
  · rfl
  · simp [emptyAnswer?, found?, h found rfl]
  · rfl
  · rfl

theorem Phase.visit_emptyAnswer? (hE : E.Sparing) (w : Weights) (c : Channel) (data : ByteArray)
    (phase : Phase κ β) : (phase.visit E c data).emptyAnswer? w = none := by
  refine Visit.emptyAnswer?_eq_none w fun found h => ?_
  cases phase with
  | built b => exact hE data b found h
  | ingesting compiler => cases h
  | buildFailed => cases h
  | closed => cases h

theorem visits_emptyAnswer? (hE : E.Sparing) (w : Weights) (phase : Phase κ β)
    (buffers : List (Channel × ByteArray)) :
    (visits E phase buffers).filterMap (·.emptyAnswer? w) = [] := by
  induction buffers generalizing phase with
  | nil => rfl
  | cons b rest ih =>
    obtain ⟨c, data⟩ := b
    rw [visits, List.filterMap_cons, Phase.visit_emptyAnswer? hE]
    exact ih _

/-- **Over such an engine no entry is empty.** -/
theorem Scanner.results_of_sparing (hE : E.Sparing) (P : Strategy π) (sample : Sample)
    (s : Scanner κ β π) {o : Outcome} (ho : (scanDetailed E P sample s).reply = .ok o)
    {r : WeightedFindings} (hr : r ∈ o.results) : r.isEmpty = false := by
  obtain ⟨p, hscan⟩ := scanDetailed_does E P sample s
  have hanswer := answer_emptyEntries s.onPluginFailure s.weights s.registry.plugins
    (visits E s.session.phase sample.present)
  rw [← hscan.reply_eq, ho, visits_emptyAnswer? hE] at hanswer
  have hnone : o.results.filter (·.isEmpty) = [] := Reply.ok.inj hanswer
  rw [List.filter_eq_nil_iff] at hnone
  exact Bool.eq_false_iff.2 (hnone r hr)

/-- The engine of a toolchain leaves empty findings out. -/
theorem Rules.toolchain_sparing {C R : Type} (T : Rules.Toolchain C R) (fs : Files) :
    (T.engine fs).Sparing := by
  intro data b found h
  have hscan : ((Action.ofExcept ((T.scan b.timeout data b.rules).mapError .scan)).bind
      (fun found => .pure found.nonEmpty?) b).reply = .ok (some found) := h
  cases hr : T.scan b.timeout data b.rules with
  | error words =>
    rw [hr] at hscan
    cases hscan
  | ok all =>
    rw [hr] at hscan
    have hall : all.nonEmpty? = some found := Reply.ok.inj hscan
    unfold Findings.nonEmpty? at hall
    split at hall
    · cases hall
    · next hempty =>
      cases hall
      exact Bool.eq_false_iff.2 hempty

/-! ## An engine that does -/

/-- A scanner whose rules answer empty findings about every buffer. -/
def Scanner.answeringEmpty : Scanner Scripted.Compiler Scripted.Backend Pacer where
  session := .ofBackend { hits := [(.empty, {})] }
  pacing := .unthrottled 0

/-- Its scans have an entry in which there is nothing. -/
theorem Scanner.empty_answer_is_kept :
    (scanDetailed Scripted.engine Pacer.strategy { content := some .empty } answeringEmpty).reply =
      .ok { results := [⟨.content, 50, {}⟩] } := by
  rfl

end RuleScan
