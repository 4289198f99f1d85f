import RuleScan.Proofs.Scan.Bracket

/-!
# Buffers and samples

Some buffers are scanned in a batch with the rules alone; a sample is scanned channel by channel,
with the rules and the plugins. Without plugins the two do the same but for log lines
(`Action.Mirrors`), and the answer to a sample is that to its buffers, with the channels put to it
(`tagged`). This holds of one channel (`scanChannel_mirrors`), hence of all of them, by induction
(`scanChannels_mirrors`), and of the batch around them (`withBatch_mirrors`).

The main result is `batch_agrees`. It also says what a batch answers: what the rules do if they are
asked about one buffer after the other (`rulesEach`), up to the first one about which they give no
answer.
-/

namespace RuleScan

variable {κ β π σ α γ : Type}

/-! ## Buffers in a batch -/

/-- The buffer that a call scans, if it does. -/
def Call.scanned? : Call → Option ByteArray
  | scan data => some data
  | _ => none

/-- The buffers that are scanned in a trace. -/
def scanned (trace : List Event) : List ByteArray := (calls trace).filterMap Call.scanned?

theorem Visit.calls_scanned (token : Nat) (status : Status) (v : Visit γ) :
    (v.calls token status []).filterMap Call.scanned? =
      if status = .built then [v.data] else [] := by
  rw [Visit.calls_without_plugins]
  split <;> rfl

theorem visits_data (E : Engine κ β) (phase : Phase κ β) (buffers : List (γ × ByteArray)) :
    (visits E phase buffers).map Visit.data = buffers.map Prod.snd := by
  induction buffers generalizing phase with
  | nil => rfl
  | cons b rest ih => exact congrArg (b.2 :: ·) (ih _)

namespace Scanner

variable (E : Engine κ β) (P : Strategy π)

/-- What the rules answer about some buffers, if they are asked about one after the other, whatever
they answer. -/
def rulesEach : Scanner κ β π → List ByteArray → List (Reply (Option Findings))
  | _, [] => []
  | s, data :: rest => (scanRules E data s).reply :: rulesEach (scanRules E data s).state rest

theorem rulesEach_length (s : Scanner κ β π) (buffers : List ByteArray) :
    (rulesEach E s buffers).length = buffers.length := by
  induction buffers generalizing s with
  | nil => rfl
  | cons data rest ih => exact congrArg (· + 1) (ih _)

theorem rulesEach_eq (s : Scanner κ β π) (buffers : List ByteArray) :
    rulesEach E s buffers =
      (visits E s.session.phase (buffers.map fun data => ((), data))).map Visit.rules := by
  induction buffers generalizing s with
  | nil => rfl
  | cons data rest ih =>
    have hrules := scanRules_does E data s
    rw [rulesEach, ih, hrules.reply_eq, hrules.state_eq]
    rfl

/-- A scan of some buffers scans them up to the first one about which the rules give no answer. -/
theorem scanBatch_scanned (buffers : List ByteArray) (s : Scanner κ β π) :
    scanned (scanBatch E P buffers s).trace =
      if s.session.status = .built
      then buffers.take ((rulesEach E s buffers).findIdx (! ·.isOk) + 1) else [] := by
  obtain ⟨p, hscan⟩ := scanBatch_does E P buffers s
  have hdata := visits_data E s.session.phase (buffers.map fun data => ((), data))
  rw [List.map_map] at hdata
  have hbuffers : buffers.map (Prod.snd ∘ fun data => ((), data)) = buffers := List.map_id _
  rw [hbuffers] at hdata
  rw [scanned, hscan.calls_eq, rulesEach_eq]
  generalize visits E s.session.phase (buffers.map fun data => ((), data)) = vs at hdata
  subst hdata
  rw [List.findIdx_map, ← List.map_take]
  have hstuck : (fun r : Reply (Option Findings) => ! r.isOk) ∘ Visit.rules =
      (Visit.isStuck : Visit Unit → Bool) := rfl
  rw [hstuck, ← processed]
  generalize processed Visit.isStuck vs = done
  rw [List.filterMap_append, List.filterMap_cons_none rfl, List.filterMap_flatMap]
  simp only [Visit.calls_scanned]
  split
  · rw [List.map_eq_flatMap]
    exact List.append_nil _
  · simp [Call.scanned?]

/-! ## Samples without plugins -/

/-- What the rules found on some channels, with the channels and their weights. -/
def tagged (w : Weights) (channels : List Channel) (founds : List (Option Findings)) :
    List WeightedFindings :=
  (channels.zip founds).filterMap fun (c, found) => found.map fun f => ⟨c, w.of c, f⟩

theorem tagged_cons (w : Weights) (c : Channel) (channels : List Channel)
    (found : Option Findings) (founds : List (Option Findings)) :
    tagged w (c :: channels) (found :: founds) =
      tagged w [c] [found] ++ tagged w channels founds := by
  rw [tagged, tagged, tagged, ← List.filterMap_append]
  rfl

/-- Without plugins what the rules found is all there is. -/
theorem askPlugins_mirrors (token : Nat) (c : Channel) (data : ByteArray)
    (found : Option Findings) {s : Scanner κ β π} (hs : s.registry.plugins = []) :
    (askPlugins token c data found).Mirrors (.pure found) id
      (fun found => { results := tagged s.weights [c] [found] }) s := by
  obtain ⟨session, ⟨plugins⟩, pacing, weights, policy⟩ := s
  cases hs
  have hresults : weigh weights c [found, none] = tagged weights [c] [found] := by
    cases found <;> rfl
  cases policy <;> exact ⟨congrArg (fun results => (.ok { results } : Reply Outcome)) hresults,
    rfl, rfl⟩

theorem scanChannel_mirrors (token : Nat) (c : Channel) (data : ByteArray) {s : Scanner κ β π}
    (hs : s.registry.plugins = []) :
    (scanChannel E P token c data).Mirrors ((pause P token).bind fun _ => scanRules E data) id
      (fun found => { results := tagged s.weights [c] [found] }) s := by
  simp only [scanChannel, Action.bind_eq]
  refine (Action.Mirrors.refl (pause P token) s).bind fun _ t _ ht => ?_
  obtain rfl : t = (pause P token s).state := ht
  refine (Action.Mirrors.refl (scanRules E data) _).followed fun found t _ ht => ?_
  obtain rfl : t = (scanRules E data (pause P token s).state).state := ht
  exact askPlugins_mirrors token c data found
    (s := (scanRules E data (pause P token s).state).state) hs

theorem scanChannels_mirrors (token : Nat) (buffers : List (Channel × ByteArray))
    {s : Scanner κ β π} (hs : s.registry.plugins = []) :
    (scanChannels E P token buffers).Mirrors
      (.forEach (fun data => (pause P token).bind fun _ => scanRules E data)
        (buffers.map Prod.snd))
      id (fun founds => { results := tagged s.weights (buffers.map Prod.fst) founds }) s := by
  induction buffers generalizing s with
  | nil => exact ⟨rfl, rfl, rfl⟩
  | cons b rest ih =>
    obtain ⟨c, data⟩ := b
    have hstate := (pauseRules_does E P token data s).state_eq
    simp only [scanChannels, List.map_cons, Action.forEach, Action.bind_eq, Action.pure_eq]
    refine (scanChannel_mirrors E P token c data hs).bind fun found t _ ht => ?_
    obtain rfl : t = advance E P token s data := ht.trans hstate
    have hrest := ih (s := advance E P token s data) hs
    exact hrest.bind fun founds _ _ _ =>
      ⟨congrArg (fun results => (.ok { results } : Reply Outcome)) (tagged_cons _ c _ found _).symm,
        rfl, rfl⟩

/-- The same work, but for log lines, inside a batch. -/
theorem withBatch_mirrors {body : Nat → Action (Scanner κ β π) α}
    {other : Nat → Action (Scanner κ β π) γ} {f : γ → α} {s : Scanner κ β π}
    (hbody : ∀ token p, (body token).Mirrors (other token) id f (s.inPhase s.session.phase p)) :
    (withBatch P body).Mirrors (withBatch P other) id f s := by
  simp only [withBatch, Strategy.withBatch, Action.bind_eq]
  refine (Action.Mirrors.refl _ s).bind fun token t _ ht => ?_
  obtain rfl := ht
  exact (hbody token _).always _

/-- Without plugins a scan of a sample does what a scan of its buffers does, but for log lines. -/
theorem scanDetailed_mirrors (sample : Sample) {s : Scanner κ β π}
    (hs : s.registry.plugins = []) :
    (scanDetailed E P sample).Mirrors (scanBatch E P (sample.present.map Prod.snd)) id
      (fun founds => { results := tagged s.weights (sample.present.map Prod.fst) founds }) s := by
  simp only [scanDetailed, scanBatch, Sample.buffers_eq]
  exact withBatch_mirrors P fun token p => scanChannels_mirrors E P token sample.present
    (s := s.inPhase s.session.phase p) hs

/-! ## The two scans -/

/-- How a scan of some buffers answers, if the rules answer about one after the other as told. -/
structure BatchAnswers (s : Scanner κ β π) (buffers : List ByteArray)
    (scan : Step (Scanner κ β π) (List (Option Findings))) : Prop where
  /-- It answers if the rules answer about all buffers, and with these answers. -/
  of_ok : ∀ founds : List _, scan.reply = .ok founds ↔ rulesEach E s buffers = founds.map .ok
  /-- It ends as the rules do about the first buffer about which they give no answer. -/
  of_halt : ∀ h : Halt, scan.reply = h.reply ↔
    ∃ (founds : List _) (rest : List _), rulesEach E s buffers = founds.map .ok ++ h.reply :: rest
  length_eq : ∀ founds, scan.reply = .ok founds → founds.length = buffers.length
  /-- No buffer is scanned after that one. -/
  scanned_eq : scanned scan.trace =
    if s.session.status = .built
    then buffers.take ((rulesEach E s buffers).findIdx (! ·.isOk) + 1) else []

/-- How a scan of a sample compares with a scan of its buffers. -/
structure SampleAnswers (w : Weights) (channels : List Channel) (sample : Step σ Outcome)
    (batch : Step σ (List (Option Findings))) : Prop where
  of_ok : ∀ founds, batch.reply = .ok founds →
    sample.reply = .ok { results := tagged w channels founds }
  of_halt : ∀ h : Halt, sample.reply = h.reply ↔ batch.reply = h.reply
  happenings_eq : happenings sample.trace = happenings batch.trace
  state_eq : sample.state = batch.state

theorem scanBatch_answers (buffers : List ByteArray) (s : Scanner κ β π) :
    BatchAnswers E s buffers (scanBatch E P buffers s) := by
  obtain ⟨p, hscan⟩ := scanBatch_does E P buffers s
  have hreply := hscan.reply_eq
  rw [← rulesEach_eq] at hreply
  refine ⟨fun founds => ?_, fun h => ?_, fun founds hok => ?_, scanBatch_scanned E P buffers s⟩
  · rw [hreply]
    exact Reply.all_eq_ok
  · rw [hreply]
    exact Reply.all_eq_halt
  · rw [hreply, Reply.all_eq_ok] at hok
    rw [← rulesEach_length E s buffers, hok, List.length_map]

/-- **Batches and samples agree**: for every engine and strategy and every scanner, a scan of some
buffers answers what the rules do about one after the other, up to the first one about which they
give no answer; and without plugins a scan of a sample ends as a scan of its buffers does, with the
same calls and notes, and finds what that finds, on the channels in order. -/
theorem batch_agrees (s : Scanner κ β π) :
    (∀ buffers, BatchAnswers E s buffers (scanBatch E P buffers s)) ∧
      ∀ sample : Sample,
        let bare := { s with registry := {} }
        SampleAnswers s.weights (sample.present.map Prod.fst) (scanDetailed E P sample bare)
          (scanBatch E P (sample.present.map Prod.snd) bare) := by
  refine ⟨fun buffers => scanBatch_answers E P buffers s, fun sample => ?_⟩
  intro bare
  obtain ⟨hreply, hstate, hhappen⟩ := scanDetailed_mirrors E P sample (s := bare) rfl
  rw [id_eq] at hreply
  refine ⟨fun founds hok => ?_, fun h => ?_, hhappen, hstate⟩
  · rw [hreply, hok]
    rfl
  · rw [hreply]
    exact Reply.map_eq_halt

end Scanner

end RuleScan
