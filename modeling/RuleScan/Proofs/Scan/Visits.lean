import RuleScan.Proofs.Action
import RuleScan.Proofs.Scan.Plugins
import RuleScan.Scanner

/-!
# Visits

A scan visits buffers one after the other. What the rules answer about a buffer depends on the phase
of the session alone, and on the buffers before it through the state of the backend only; so the
visits can be told in advance (`visits`), as if the scan never stopped. What ends a scan is told
from a single visit (`Visit.halt?`), and the visits that a scan really makes are those up to the
first that ends it (`processed`).

Each action of a scanner on one buffer is described by its visit: `scanRules_does` for the rules,
`askPlugins_does` for the plugins and `scanChannel_does` for both. `withBatch_does` puts the calls
of a batch around those of the work inside it.
-/

namespace RuleScan

variable {κ β π γ : Type} (E : Engine κ β)

/-! ## The rules -/

/-- What the rules answer about a buffer in some phase, and the phase that they leave. Nothing is
found while rules are collected; without rules it is a misuse to ask. -/
def Phase.consult (data : ByteArray) : Phase κ β → Reply (Option Findings) × Phase κ β
  | .ingesting c => (.ok none, .ingesting c)
  | .built b => ((E.scan data b).reply, .built (E.scan data b).state)
  | .buildFailed => (.error (.misuse .buildFailed), .buildFailed)
  | .closed => (.error (.misuse .closed), .closed)

@[simp] theorem Phase.consult_status (data : ByteArray) (phase : Phase κ β) :
    (phase.consult E data).2.status = phase.status := by
  cases phase <;> rfl

/-- A buffer with what the rules answered about it, and a mark such as its channel. -/
structure Visit (γ : Type) where
  mark : γ
  data : ByteArray
  rules : Reply (Option Findings)

/-- The visit to a buffer in some phase. -/
def Phase.visit (mark : γ) (data : ByteArray) (phase : Phase κ β) : Visit γ :=
  ⟨mark, data, (phase.consult E data).1⟩

/-- The visits to some buffers, the first of them in some phase. -/
def visits : Phase κ β → List (γ × ByteArray) → List (Visit γ)
  | _, [] => []
  | phase, (mark, data) :: rest =>
    phase.visit E mark data :: visits (phase.consult E data).2 rest

/-! ## A single visit -/

namespace Visit

/-- Why a scan with plugins stops at a visit, if it does: the rules gave no answer, or a plugin
failed and this is not passed over. Of several failing plugins the first one is named. -/
def halt? (policy : FailurePolicy) (plugins : List Plugin) (v : Visit γ) : Option Halt :=
  match v.rules, policy with
  | .error e, _ => some (.failure e)
  | .crash words, _ => some (.crash words)
  | .ok _, .skip => none
  | .ok _, .abort =>
    (plugins.findSome? (·.failure? v.data)).map fun f => .failure (.plugin f.plugin f.words)

/-- What the rules found. -/
def found? (v : Visit γ) : Option Findings :=
  match v.rules with
  | .ok found => found
  | _ => none

/-- What the rules and then the plugins found, with the channel and its weight. -/
def entries (w : Weights) (plugins : List Plugin) (v : Visit Channel) : List WeightedFindings :=
  (v.found?.toList ++ (Plugin.findings? plugins v.data).toList).map fun found =>
    ⟨v.mark, w.of v.mark, found⟩

/-- The plugins that failed, with the channel. -/
def failures (plugins : List Plugin) (v : Visit Channel) : List PluginFailure :=
  (plugins.filterMap (·.failure? v.data)).map fun f => { f with channel := some v.mark }

/-- The reply of a scan to one visit. -/
def reply (policy : FailurePolicy) (w : Weights) (plugins : List Plugin) (v : Visit Channel) :
    Reply Outcome :=
  match v.halt? policy plugins with
  | some h => h.reply
  | none => .ok ⟨v.entries w plugins, v.failures plugins⟩

/-- The calls of a visit inside a batch: a step, the rules if they are built, and all plugins unless
the rules gave no answer. -/
def calls (token : Nat) (status : Status) (names : List String) (v : Visit γ) : List Call :=
  .step token :: (if status = .built then [.scan v.data] else [])
    ++ (if v.rules.isOk then names.map .plugin else [])

theorem halt?_of_halt (policy : FailurePolicy) (plugins : List Plugin) (mark : γ)
    (data : ByteArray) (h : Halt) :
    halt? policy plugins ⟨mark, data, h.reply⟩ = some h := by
  cases h <;> rfl

theorem reply_of_halt (policy : FailurePolicy) (w : Weights) (plugins : List Plugin) (c : Channel)
    (data : ByteArray) (h : Halt) : reply policy w plugins ⟨c, data, h.reply⟩ = h.reply := by
  rw [reply, halt?_of_halt]

theorem calls_of_halt (token : Nat) (status : Status) (names : List String) (mark : γ)
    (data : ByteArray) (h : Halt) :
    calls token status names ⟨mark, data, h.reply⟩ =
      .step token :: (if status = .built then [.scan data] else []) := by
  cases h <;> exact List.append_nil _

end Visit

/-- The visits up to the first one that ends the scan, which is the last. -/
def processed (halts : Visit γ → Bool) (vs : List (Visit γ)) : List (Visit γ) :=
  vs.take (vs.findIdx halts + 1)

theorem processed_cons_of_halts {halts : Visit γ → Bool} {v : Visit γ} (h : halts v = true)
    (rest : List (Visit γ)) : processed halts (v :: rest) = [v] := by
  simp [processed, List.findIdx_cons, h]

theorem processed_cons_of_not {halts : Visit γ → Bool} {v : Visit γ} (h : halts v = false)
    (rest : List (Visit γ)) : processed halts (v :: rest) = v :: processed halts rest := by
  simp [processed, List.findIdx_cons, h]

/-! ## What a scanner does on one buffer -/

namespace Scanner

variable (P : Strategy π)

/-- The scanner with another phase of its session and another state of its strategy. Nothing else
changes in a scan. -/
def inPhase (s : Scanner κ β π) (phase : Phase κ β) (p : π) : Scanner κ β π :=
  { s with session := { s.session with phase }, pacing := p }

/-- The scanner after a visit inside a batch. -/
def advance (token : Nat) (s : Scanner κ β π) (data : ByteArray) : Scanner κ β π :=
  s.inPhase (s.session.phase.consult E data).2 (P.step token s.pacing).1

theorem pause_does (token : Nat) (s : Scanner κ β π) :
    (pause P token).Does s (.ok ()) (s.inPhase s.session.phase (P.step token s.pacing).1)
      [.step token] :=
  ⟨rfl, rfl, congrArg _ (P.step_silent token s.pacing)⟩

theorem scanRules_does (data : ByteArray) (s : Scanner κ β π) :
    (scanRules E data).Does s (s.session.phase.consult E data).1
      (s.inPhase (s.session.phase.consult E data).2 s.pacing)
      (if s.session.status = .built then [.scan data] else []) := by
  refine Action.Does.zoom (fun (s : Scanner κ β π) session => { s with session }) ?_
  obtain ⟨⟨phase, space, sources⟩, registry, pacing, weights, policy⟩ := s
  cases phase with
  | ingesting c => exact ⟨rfl, rfl, rfl⟩
  | built b => exact ⟨rfl, rfl, congrArg _ (E.scan_silent data b)⟩
  | buildFailed => exact ⟨rfl, rfl, rfl⟩
  | closed => exact ⟨rfl, rfl, rfl⟩

theorem scanPlugins_does (data : ByteArray) (s : Scanner κ β π) :
    (scanPlugins data).Does s
      (.ok ⟨s.registry.plugins.filterMap (·.rule? data),
        s.registry.plugins.filterMap (·.failure? data)⟩)
      s (s.registry.names.map .plugin) :=
  (Registry.scanAll_does data s.registry).zoom
    fun (s : Scanner κ β π) registry => { s with registry }

/-- Failures of plugins end a scan, with the first of them, or are kept. -/
theorem settleFailures_does (c : Channel) (fs : List PluginFailure) (s : Scanner κ β π) :
    (settleFailures c fs).Does s
      (match s.onPluginFailure, fs.head? with
        | .abort, some f => .error (.plugin f.plugin f.words)
        | _, _ => .ok (fs.map fun f => { f with channel := some c }))
      s [] := by
  obtain ⟨session, registry, pacing, weights, policy⟩ := s
  rcases fs with _ | ⟨f, rest⟩
  · cases policy <;> exact ⟨rfl, rfl, rfl⟩
  · cases policy with
    | skip => exact ⟨rfl, rfl, calls_map_eq_nil (fun _ => rfl) (f :: rest)⟩
    | abort => exact ⟨rfl, rfl, rfl⟩

theorem weigh_eq_entries (w : Weights) (c : Channel) (data : ByteArray) (found : Option Findings)
    (plugins : List Plugin) :
    weigh w c [found, Plugin.findings? plugins data] =
      Visit.entries w plugins ⟨c, data, .ok found⟩ := by
  unfold weigh Visit.entries Visit.found?
  cases found <;> cases Plugin.findings? plugins data <;> rfl

/-- Settling the failures of some plugins on a buffer, as the visit tells it. -/
theorem settleFailures_of_ok (c : Channel) (data : ByteArray) (found : Option Findings)
    (plugins : List Plugin) (s : Scanner κ β π) :
    (settleFailures c (plugins.filterMap (·.failure? data))).Does s
      (match (⟨c, data, .ok found⟩ : Visit Channel).halt? s.onPluginFailure plugins with
        | some h => h.reply
        | none => .ok (Visit.failures plugins ⟨c, data, .ok found⟩))
      s [] := by
  have h := settleFailures_does c (plugins.filterMap (·.failure? data)) s
  rw [List.head?_filterMap] at h
  unfold Visit.halt?
  cases hp : s.onPluginFailure with
  | skip =>
    rw [hp] at h
    exact h
  | abort =>
    rw [hp] at h
    dsimp only
    cases hf : plugins.findSome? (·.failure? data) with
    | none =>
      rw [hf] at h
      exact h
    | some f =>
      rw [hf] at h
      exact h

/-- Puts together what was found on a channel, after all plugins were asked. -/
def settle (token : Nat) (c : Channel) (data : ByteArray) (rules : Option Findings)
    (plugins : PluginScan) : Action (Scanner κ β π) Outcome := do
  let failures ← settleFailures c plugins.failures
  let weights := (← .get).weights
  .emit (channelLog token c data rules plugins.findings)
  return { results := weigh weights c [rules, plugins.findings], failures }

theorem askPlugins_eq (token : Nat) (c : Channel) (data : ByteArray) (rules : Option Findings) :
    (askPlugins token c data rules : Action (Scanner κ β π) Outcome) =
      (scanPlugins data).bind (settle token c data rules) := rfl

/-- What some plugins answered is put together to the reply of the visit. -/
theorem settle_does (token : Nat) (c : Channel) (data : ByteArray) (found : Option Findings)
    (plugins : List Plugin) (s : Scanner κ β π) :
    (settle token c data found
        ⟨plugins.filterMap (·.rule? data), plugins.filterMap (·.failure? data)⟩).Does s
      (Visit.reply s.onPluginFailure s.weights plugins ⟨c, data, .ok found⟩) s [] := by
  have hset := settleFailures_of_ok c data found plugins s
  rw [Visit.reply, ← weigh_eq_entries,
    ← PluginScan.findings_eq plugins data (plugins.filterMap (·.failure? data))]
  simp only [settle, Action.bind_eq]
  cases hv : (⟨c, data, .ok found⟩ : Visit Channel).halt? s.onPluginFailure plugins with
  | some h =>
    rw [hv] at hset
    exact hset.bind_halt
  | none =>
    rw [hv] at hset
    exact hset.bind ⟨rfl, rfl, rfl⟩

theorem askPlugins_does (token : Nat) (c : Channel) (data : ByteArray) (found : Option Findings)
    (s : Scanner κ β π) :
    (askPlugins token c data found).Does s
      (Visit.reply s.onPluginFailure s.weights s.registry.plugins ⟨c, data, .ok found⟩)
      s (s.registry.names.map .plugin) := by
  rw [askPlugins_eq, ← List.append_nil (s.registry.names.map _)]
  exact (scanPlugins_does data s).bind (settle_does token c data found s.registry.plugins s)

/-- **One channel**, as its visit tells it. -/
theorem scanChannel_does (token : Nat) (c : Channel) (data : ByteArray) (s : Scanner κ β π) :
    (scanChannel E P token c data).Does s
      ((s.session.phase.visit E c data).reply s.onPluginFailure s.weights s.registry.plugins)
      (advance E P token s data)
      ((s.session.phase.visit E c data).calls token s.session.status s.registry.names) := by
  have hpause := pause_does P token s
  have hrules := scanRules_does E data (s.inPhase s.session.phase (P.step token s.pacing).1)
  simp only [scanChannel, Action.bind_eq, Phase.visit]
  rcases Reply.ok_or_halt (s.session.phase.consult E data).1 with ⟨found, hf⟩ | ⟨h, hf⟩
  · rw [inPhase, hf] at hrules
    rw [hf]
    exact hpause.bind
      (hrules.bind (askPlugins_does token c data found (advance E P token s data)))
  · rw [inPhase, hf] at hrules
    rw [hf, Visit.reply_of_halt, Visit.calls_of_halt]
    exact hpause.bind hrules.bind_halt

/-! ## Batches -/

theorem beginBatch_does (p : π) :
    P.beginBatch.Does p (.ok (P.begin p).1) (P.begin p).2.1 [.begin] := by
  refine ⟨rfl, rfl, ?_⟩
  simp only [Strategy.beginBatch, Strategy.batchLog, List.cons_append, calls_call, calls_append,
    P.begin_silent, calls_log, calls_nil, List.append_nil]

theorem finishBatch_does (token : Nat) (p : π) :
    (P.finishBatch token).Does p (.ok ()) (P.finish token p).1 [.finish token] := by
  refine ⟨rfl, rfl, ?_⟩
  simp only [Strategy.finishBatch, Strategy.batchLog, List.cons_append, calls_call, calls_append,
    P.finish_silent, calls_log, calls_nil, List.append_nil]

/-- **A batch** begins before the work inside it and is finished after it, however that ends. -/
theorem withBatch_does {α : Type} {body : Nat → Action (Scanner κ β π) α} {s : Scanner κ β π}
    {r : Reply α} {phase : Phase κ β} {cs : List Call}
    (hbody : ∃ p, (body (P.begin s.pacing).1).Does
      (s.inPhase s.session.phase (P.begin s.pacing).2.1) r (s.inPhase phase p) cs) :
    ∃ p, (withBatch P body).Does s r (s.inPhase phase p)
      (.begin :: cs ++ [.finish (P.begin s.pacing).1]) := by
  obtain ⟨p, hbody⟩ := hbody
  have hbegin := (beginBatch_does P s.pacing).zoom (g := Scanner.pacing)
    fun (s : Scanner κ β π) pacing => { s with pacing }
  have hfinish := (finishBatch_does P (P.begin s.pacing).1 p).zoom (g := Scanner.pacing)
    (s := s.inPhase phase p) fun (s : Scanner κ β π) pacing => { s with pacing }
  have hrest := hbody.always hfinish
  refine ⟨(P.finish (P.begin s.pacing).1 p).1, ?_⟩
  simp only [withBatch, Strategy.withBatch, Action.bind_eq]
  exact hbegin.bind hrest

end Scanner

end RuleScan
