import RuleScan.Proofs.Scan.Reference

/-!
# Every scan is one batch

Whatever a scan answers, and also where the rules crash, its calls are one batch of the pacing
strategy: the batch begins, each processed buffer takes a step before it is scanned, and the batch
is finished last, always with the token that it was given (`scan_calls`). For a sample this comes
with the answer of the scan (`scanDetailed_does`); for a list of buffers, which are scanned with the
rules alone, `scanEach_does` goes through the buffers by induction.
-/

namespace RuleScan

variable {κ β π : Type} (E : Engine κ β) (P : Strategy π)

/-! ## Buffers without plugins -/

/-- The answers of all replies, up to the first one that is none. -/
def Reply.all : List (Reply α) → Reply (List α)
  | [] => .ok []
  | .ok a :: rest => (all rest).map (a :: ·)
  | .error e :: _ => .error e
  | .crash words :: _ => .crash words

theorem Reply.all_cons_halt (h : Halt) (rest : List (Reply α)) :
    Reply.all (h.reply :: rest) = h.reply := by
  cases h <;> rfl

theorem Reply.all_eq_ok {rs : List (Reply α)} {l : List α} :
    Reply.all rs = .ok l ↔ rs = l.map .ok := by
  induction rs generalizing l with
  | nil => cases l <;> simp [Reply.all]
  | cons r rest ih =>
    rcases r.ok_or_halt with ⟨a, rfl⟩ | ⟨h, rfl⟩
    · rw [Reply.all, Reply.map_eq_ok]
      constructor
      · rintro ⟨as, hrest, rfl⟩
        rw [ih.1 hrest, List.map_cons]
      · intro hl
        obtain ⟨b, as, rfl, hb, has⟩ := List.map_eq_cons_iff.1 hl.symm
        cases hb
        exact ⟨as, ih.2 has.symm, rfl⟩
    · rw [Reply.all_cons_halt]
      constructor
      · intro hl
        cases h <;> cases hl
      · intro hl
        obtain ⟨b, as, rfl, hb, -⟩ := List.map_eq_cons_iff.1 hl.symm
        cases h <;> cases hb

/-- Where not all replies are answers there is a first one that is none. -/
theorem Reply.all_eq_halt {rs : List (Reply α)} {h : Halt} :
    Reply.all rs = h.reply ↔
      ∃ (l : List α) (rest : List (Reply α)), rs = l.map .ok ++ h.reply :: rest := by
  induction rs with
  | nil =>
    refine ⟨fun hall => ?_, fun ⟨l, rest, hrs⟩ => ?_⟩
    · cases h <;> cases hall
    · exact absurd hrs.symm (by simp)
  | cons r rest ih =>
    rcases r.ok_or_halt with ⟨a, rfl⟩ | ⟨h', rfl⟩
    · rw [Reply.all, Reply.map_eq_halt, ih]
      constructor
      · rintro ⟨l, later, rfl⟩
        exact ⟨a :: l, later, rfl⟩
      · rintro ⟨l, later, hl⟩
        rcases l with _ | ⟨b, l⟩
        · cases h <;> cases hl
        · obtain ⟨-, hrest⟩ := List.cons.inj hl
          exact ⟨l, later, hrest⟩
    · rw [Reply.all_cons_halt, Halt.reply_inj]
      constructor
      · rintro rfl
        exact ⟨[], rest, rfl⟩
      · rintro ⟨l, later, hl⟩
        rcases l with _ | ⟨b, l⟩
        · exact Halt.reply_inj.1 (List.cons.inj hl).1
        · cases h' <;> cases (List.cons.inj hl).1

/-- Whether the rules gave no answer at a visit. -/
def Visit.isStuck (v : Visit γ) : Bool := !v.rules.isOk

theorem Visit.calls_without_plugins (token : Nat) (status : Status) (v : Visit γ) :
    v.calls token status [] = .step token :: (if status = .built then [.scan v.data] else []) := by
  rw [Visit.calls, List.map_nil, ite_self, List.append_nil]

namespace Scanner

/-- Waiting and asking the rules alone. -/
theorem pauseRules_does (token : Nat) (data : ByteArray) (s : Scanner κ β π) :
    ((pause P token).bind fun _ => scanRules E data).Does s
      (s.session.phase.visit E () data).rules (advance E P token s data)
      ((s.session.phase.visit E () data).calls token s.session.status []) := by
  rw [Visit.calls_without_plugins]
  have hrules := scanRules_does E data (s.inPhase s.session.phase (P.step token s.pacing).1)
  exact (pause_does P token s).bind hrules

/-- **Some buffers**, as the visits of the rules alone tell it. -/
theorem scanEach_does (token : Nat) (buffers : List ByteArray) (s : Scanner κ β π) :
    let vs := visits E s.session.phase (buffers.map fun data => ((), data))
    ∃ p, (Action.forEach (fun data => (pause P token).bind fun _ => scanRules E data) buffers).Does
      s (Reply.all (vs.map Visit.rules))
      (s.inPhase (phaseAfter E s.session.phase (processed Visit.isStuck vs)) p)
      ((processed Visit.isStuck vs).flatMap (·.calls token s.session.status [])) := by
  induction buffers generalizing s with
  | nil => exact ⟨s.pacing, .pure _ s⟩
  | cons data rest ih =>
    have hfirst := pauseRules_does E P token data s
    have hstatus : (advance E P token s data).session.status = s.session.status :=
      Phase.consult_status E data s.session.phase
    obtain ⟨p, hrest⟩ := ih (advance E P token s data)
    rw [hstatus] at hrest
    simp only [List.map_cons, visits, Action.forEach]
    rcases Reply.ok_or_halt (s.session.phase.visit E () data).rules with ⟨found, hf⟩ | ⟨h, hf⟩
    · rw [processed_cons_of_not (by rw [Visit.isStuck, hf]; rfl), List.flatMap_cons]
      rw [hf] at hfirst ⊢
      exact ⟨p, hfirst.bind (hrest.map (found :: ·))⟩
    · rw [processed_cons_of_halts (by rw [Visit.isStuck, hf]; cases h <;> rfl),
        List.flatMap_singleton]
      rw [hf] at hfirst ⊢
      rw [Reply.all_cons_halt]
      exact ⟨_, hfirst.bind_halt⟩

/-- A scan of some buffers: its answer, the phase that it leaves and its calls. -/
theorem scanBatch_does (buffers : List ByteArray) (s : Scanner κ β π) :
    let vs := visits E s.session.phase (buffers.map fun data => ((), data))
    ∃ p, (scanBatch E P buffers).Does s (Reply.all (vs.map Visit.rules))
      (s.inPhase (phaseAfter E s.session.phase (processed Visit.isStuck vs)) p)
      (.begin :: (processed Visit.isStuck vs).flatMap
          (·.calls (P.begin s.pacing).1 s.session.status [])
        ++ [.finish (P.begin s.pacing).1]) := by
  intro vs
  have heach := scanEach_does E P (P.begin s.pacing).1 buffers
    (s.inPhase s.session.phase (P.begin s.pacing).2.1)
  simp only [scanBatch, Action.bind_eq]
  exact withBatch_does P heach

/-- **Every scan is one batch**: for every engine and strategy, and whatever the phase, the plugins,
the policy and the buffers are, a scan begins a batch, goes through the processed buffers in order
with a step before each, and finishes the batch as the last thing, also when it fails or crashes. -/
theorem scan_calls (s : Scanner κ β π) :
    (∀ sample, calls (scanDetailed E P sample s).trace =
      .begin :: (processed s.ends (visits E s.session.phase sample.present)).flatMap
          (·.calls (P.begin s.pacing).1 s.session.status s.registry.names)
        ++ [.finish (P.begin s.pacing).1]) ∧
    ∀ buffers : List ByteArray, calls (scanBatch E P buffers s).trace =
      .begin :: (processed Visit.isStuck
          (visits E s.session.phase (buffers.map fun data => ((), data)))).flatMap
          (·.calls (P.begin s.pacing).1 s.session.status [])
        ++ [.finish (P.begin s.pacing).1] := by
  refine ⟨fun sample => ?_, fun buffers => ?_⟩
  · obtain ⟨p, hscan⟩ := scanDetailed_does E P sample s
    exact hscan.calls_eq
  · obtain ⟨p, hscan⟩ := scanBatch_does E P buffers s
    exact hscan.calls_eq

end Scanner

end RuleScan
