import RuleScan.Proofs.Scan.Visits

/-!
# What a scan answers

A scan of a sample visits its buffers in the order of the channels until a visit ends it. Its answer
can be told from the visits without the scan (`answer`): it is that of the first visit that ends the
scan, and otherwise all that the rules and the plugins found, channel by channel, the rules before
the plugins. The main result is `scanDetailed_eq_answer`, over all engines, strategies, samples and
scanners; it rests on `scanChannels_does`, which goes through the buffers by induction.
-/

namespace RuleScan

variable {κ β π : Type} (E : Engine κ β) (P : Strategy π)

/-! ## The reference -/

/-- The buffers that are there: content, comments, metadata. -/
def Sample.present (sample : Sample) : List (Channel × ByteArray) :=
  sample.content.toList.map (Channel.content, ·) ++ sample.comment.toList.map (Channel.comment, ·)
    ++ sample.metadata.toList.map (Channel.metadata, ·)

theorem Sample.buffers_eq (sample : Sample) : sample.buffers = sample.present := by
  obtain ⟨content, comment, metadata⟩ := sample
  cases content <;> cases comment <;> cases metadata <;> rfl

/-- What a scan answers to its visits: what the first visit says that ends it, or else all findings
and all failures of plugins. -/
def answer (policy : FailurePolicy) (w : Weights) (plugins : List Plugin)
    (vs : List (Visit Channel)) : Reply Outcome :=
  match vs.findSome? (·.halt? policy plugins) with
  | some h => h.reply
  | none =>
    .ok
      { results := vs.flatMap (·.entries w plugins), failures := vs.flatMap (·.failures plugins) }

/-- The phase that visits leave. -/
def phaseAfter (phase : Phase κ β) (vs : List (Visit γ)) : Phase κ β :=
  vs.foldl (fun phase v => (phase.consult E v.data).2) phase

theorem answer_cons_of_halt {policy : FailurePolicy} {w : Weights} {plugins : List Plugin}
    {v : Visit Channel} {h : Halt} (hv : v.halt? policy plugins = some h)
    (rest : List (Visit Channel)) : answer policy w plugins (v :: rest) = h.reply := by
  rw [answer, List.findSome?_cons, hv]

theorem answer_cons_of_none {policy : FailurePolicy} {w : Weights} {plugins : List Plugin}
    {v : Visit Channel} (hv : v.halt? policy plugins = none) (rest : List (Visit Channel)) :
    answer policy w plugins (v :: rest) =
      (answer policy w plugins rest).map
        (Outcome.append ⟨v.entries w plugins, v.failures plugins⟩) := by
  rw [answer, List.findSome?_cons, hv, answer]
  cases rest.findSome? (·.halt? policy plugins) with
  | none => rfl
  | some h => exact (Halt.map_reply h _).symm

namespace Scanner

/-! ## The channels of a sample -/

/-- Whether a visit ends a scan with plugins. -/
def ends (s : Scanner κ β π) (v : Visit Channel) : Bool :=
  (v.halt? s.onPluginFailure s.registry.plugins).isSome

/-- **Some channels**, as their visits tell it. -/
theorem scanChannels_does (token : Nat) (buffers : List (Channel × ByteArray))
    (s : Scanner κ β π) :
    let vs := visits E s.session.phase buffers
    ∃ p, (scanChannels E P token buffers).Does s
      (answer s.onPluginFailure s.weights s.registry.plugins vs)
      (s.inPhase (phaseAfter E s.session.phase (processed s.ends vs)) p)
      ((processed s.ends vs).flatMap (·.calls token s.session.status s.registry.names)) := by
  induction buffers generalizing s with
  | nil => exact ⟨s.pacing, .pure _ s⟩
  | cons b rest ih =>
    obtain ⟨c, data⟩ := b
    have hfirst := scanChannel_does E P token c data s
    simp only [scanChannels, visits, Action.bind_eq, Action.pure_eq]
    cases hv : (s.session.phase.visit E c data).halt? s.onPluginFailure s.registry.plugins with
    | some h =>
      rw [Visit.reply, hv] at hfirst
      rw [answer_cons_of_halt hv, processed_cons_of_halts (by rw [ends, hv]; rfl),
        List.flatMap_singleton]
      exact ⟨_, hfirst.bind_halt⟩
    | none =>
      have hstatus : (advance E P token s data).session.status = s.session.status :=
        Phase.consult_status E data s.session.phase
      obtain ⟨p, hrest⟩ := ih (advance E P token s data)
      rw [hstatus] at hrest
      rw [Visit.reply, hv] at hfirst
      rw [answer_cons_of_none hv, processed_cons_of_not (by rw [ends, hv]; rfl),
        List.flatMap_cons]
      exact ⟨p, hfirst.bind (hrest.map _)⟩

/-! ## A sample -/

/-- A scan of a sample: its answer, the phase that it leaves and its calls. -/
theorem scanDetailed_does (sample : Sample) (s : Scanner κ β π) :
    let vs := visits E s.session.phase sample.present
    ∃ p, (scanDetailed E P sample).Does s
      (answer s.onPluginFailure s.weights s.registry.plugins vs)
      (s.inPhase (phaseAfter E s.session.phase (processed s.ends vs)) p)
      (.begin :: (processed s.ends vs).flatMap
          (·.calls (P.begin s.pacing).1 s.session.status s.registry.names)
        ++ [.finish (P.begin s.pacing).1]) := by
  intro vs
  have hchannels := scanChannels_does E P (P.begin s.pacing).1 sample.buffers
    (s.inPhase s.session.phase (P.begin s.pacing).2.1)
  rw [Sample.buffers_eq] at hchannels
  simp only [scanDetailed, Sample.buffers_eq]
  exact withBatch_does P hchannels

/-- **A scan computes its reference**: for every engine, every phase of the session, all plugins,
weights and policies and every sample, its answer is the one told from the visits to the buffers
that are there, and the session is left in the phase that the processed visits lead to. -/
theorem scanDetailed_eq_answer (sample : Sample) (s : Scanner κ β π) :
    let vs := visits E s.session.phase sample.present
    (scanDetailed E P sample s).reply =
        answer s.onPluginFailure s.weights s.registry.plugins vs ∧
      (scanDetailed E P sample s).state.session =
        { s.session with phase := phaseAfter E s.session.phase (processed s.ends vs) } := by
  intro vs
  obtain ⟨p, hscan⟩ := scanDetailed_does E P sample s
  exact ⟨hscan.reply_eq, congrArg Scanner.session hscan.state_eq⟩

/-- A scan without the failures of plugins. -/
theorem scan_reply (sample : Sample) (s : Scanner κ β π) :
    (scan E P sample s).reply =
      (answer s.onPluginFailure s.weights s.registry.plugins
        (visits E s.session.phase sample.present)).map Outcome.results := by
  obtain ⟨p, hscan⟩ := scanDetailed_does E P sample s
  simp only [scan, Action.bind_eq, Action.pure_eq]
  exact (hscan.map Outcome.results).reply_eq

end Scanner

end RuleScan
