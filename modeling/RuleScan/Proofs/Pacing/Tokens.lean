import Mathlib.Data.List.Basic
import Mathlib.Data.List.Nodup
import Mathlib.Data.List.Pairwise
import Mathlib.Logic.Function.Basic
import RuleScan.Proofs.Pacing.Notices

/-!
# Batches that share a strategy

Any number of scans run beside each other, of samples and of some buffers, with scanners that share
one strategy. What the strategy is told comes in some order then. A strategy that counts gives each
batch that begins the next number as its token (`Site.tokens_told`), so that no two batches have the
same, and what is told with one token is one batch, from its beginning to its end
(`Site.separate`).
-/

namespace RuleScan

variable {κ β π ω : Type}

/-- A scanner with another strategy. -/
def Scanner.paced (s : Scanner κ β π) (pacing : ω) : Scanner κ β ω :=
  { session := s.session, registry := s.registry, pacing, weights := s.weights,
    onPluginFailure := s.onPluginFailure }

/-- Scanners that share a strategy, and have none of their own. -/
structure Site (κ β : Type) where
  pacing : Pacer
  scanners : Nat → Scanner κ β Unit

namespace Site

/-- The scanner of some number, with the shared strategy. -/
def scanner (s : Site κ β) (k : Nat) : Scanner κ β Pacer := (s.scanners k).paced s.pacing

/-- Leaves the scanner of some number. -/
def put (s : Site κ β) (k : Nat) (t : Scanner κ β Pacer) : Site κ β :=
  ⟨t.pacing, Function.update s.scanners k (t.paced ())⟩

@[simp] theorem scanner_put (s : Site κ β) (k : Nat) (t : Scanner κ β Pacer) :
    (s.put k t).scanner k = t := by
  rw [put, scanner]
  dsimp only
  rw [Function.update_self]
  rfl

@[simp] theorem put_put (s : Site κ β) (k : Nat) (t u : Scanner κ β Pacer) :
    (s.put k t).put k u = s.put k u := by
  rw [put, put, Function.update_idem]
  rfl

@[simp] theorem put_scanner (s : Site κ β) (k : Nat) : s.put k (s.scanner k) = s := by
  have hsame : Function.update s.scanners k (s.scanners k) = s.scanners :=
    Function.update_eq_self k s.scanners
  exact congrArg (Site.mk s.pacing) hsame

/-! ## Scans -/

/-- What somebody comes for: a scan of a sample or of some buffers, with the scanner of some
number. -/
inductive Errand
  | detailed (k : Nat) (sample : Sample)
  | batch (k : Nat) (buffers : List ByteArray)

/-- The buffers to be scanned, in order. -/
def Errand.buffers : Errand → List ByteArray
  | .detailed _ sample => sample.buffers.map Prod.snd
  | .batch _ buffers => buffers

/-- A scan that is on its way. -/
inductive Scanning
  | detailed (k : Nat) (sample : Sample) (stage : Stage)
  | batch (k : Nat) (buffers : List ByteArray) (stage : BatchStage)

namespace Scanning

/-- What the scan is for. -/
def errand : Scanning → Errand
  | detailed k sample _ => .detailed k sample
  | batch k buffers _ => .batch k buffers

/-- The scan, as far as its batch goes. -/
def view : Scanning → BatchView
  | detailed _ _ stage => stage.view
  | batch _ _ stage => stage.view

/-- The buffer about which the rules are asked next. -/
def asked? : Scanning → Option ByteArray
  | detailed _ _ stage => stage.asked?
  | batch _ _ stage => stage.asked?

/-- Whether the scan is over, and if it is whether it gave an answer. -/
def ended? : Scanning → Option Bool
  | detailed _ _ (.finished reply) => some reply.isOk
  | batch _ _ (.finished reply) => some reply.isOk
  | _ => none

/-- How far the scan is from its end. -/
def rank : Scanning → ℕ ×ₗ ℕ
  | detailed _ sample stage => stage.rank sample
  | batch _ buffers stage => toLex (stage.rank buffers, 0)

/-- One step of the scan. -/
def next (E : Engine κ β) : Scanning → Site κ β → Scanning × Site κ β × List Event
  | detailed k sample stage, s =>
    let (stage, t, trace) := stage.next E Pacer.strategy sample (s.scanner k)
    (detailed k sample stage, s.put k t, trace)
  | batch k buffers stage, s =>
    let (stage, t, trace) := stage.next E Pacer.strategy buffers (s.scanner k)
    (batch k buffers stage, s.put k t, trace)

end Scanning

/-- How a scan starts. -/
def Errand.start : Errand → Scanning
  | .detailed k sample => .detailed k sample .entered
  | .batch k buffers => .batch k buffers .entered

/-- What is done beside the scans. -/
inductive Op (κ β : Type)
  | interrupt
  | resume
  /-- Anything at all becomes of the scanners, but not of their strategy. -/
  | scanners (f : Nat → Scanner κ β Unit)

/-- Does something beside the scans. -/
def perform : Op κ β → Site κ β → Site κ β × List Event
  | .interrupt, s => ({ s with pacing := s.pacing.interrupt.1 }, s.pacing.interrupt.2)
  | .resume, s => ({ s with pacing := s.pacing.resume }, [])
  | .scanners f, s => ({ s with scanners := f }, [])

variable (E : Engine κ β)

/-- How scans behave that share a strategy. -/
def conduct : Conduct (Site κ β) Errand Scanning (Op κ β) where
  start := Errand.start
  step _ _ := Scanning.next E
  aside := perform

/-- A turn of a scan, or of something beside. -/
abbrev Turn (κ β : Type) : Type := RuleScan.Turn Errand (Op κ β)

/-- What happens on an occasion. -/
abbrev Occasion (κ β : Type) : Type := RuleScan.Occasion (Site κ β) Errand Scanning (Op κ β)

/-- A strategy that was just made, and no scans yet. -/
def quiet (delay : Option Duration) (scanners : Nat → Scanner κ β Unit) :
    Crowd (Site κ β) Errand Scanning := { shared := ⟨.fresh delay, scanners⟩ }

variable (delay : Option Duration) (scanners : Nat → Scanner κ β Unit)

/-- What is after some turns. -/
def after (turns : List (Turn κ β)) : Crowd (Site κ β) Errand Scanning :=
  (quiet delay scanners).after (conduct E) turns

/-- The course of some turns. -/
def history (turns : List (Turn κ β)) : List (Occasion κ β) :=
  (quiet delay scanners).history (conduct E) turns

/-- What the strategy is told on an occasion. -/
def told (m : Occasion κ β) : List Notice := notices m.before.shared.pacing m.trace

/-- What the strategy is told in the course of things. -/
def toldIn (h : List (Occasion κ β)) : List Notice := h.flatMap told

/-- What the scan of some number told the strategy. -/
def toldBy (i : Nat) (h : List (Occasion κ β)) : List Notice := toldIn (Crowd.stepsOf i h)

/-- The buffer about which the scan of some number asks the rules on an occasion, if it does. -/
def asked? (i : Nat) (m : Occasion κ β) : Option ByteArray :=
  (m.party? i).bind fun p => p.stage.asked?

/-- The buffers about which the scan of some number asked the rules. -/
def askedBy (i : Nat) (h : List (Occasion κ β)) : List ByteArray :=
  (Crowd.stepsOf i h).filterMap (asked? i)

/-! ## One turn -/

theorem next_view (scan : Scanning) (s : Site κ β) :
    BatchView.Advance scan.errand.buffers s.pacing scan.view
      (notices s.pacing (scan.next E s).2.2) scan.asked?.toList (scan.next E s).1.view
      (scan.next E s).2.1.pacing := by
  cases scan with
  | detailed k sample stage => exact stage.next_view E sample (s.scanner k)
  | batch k buffers stage => exact stage.next_view E buffers (s.scanner k)

theorem next_errand (scan : Scanning) (s : Site κ β) : (scan.next E s).1.errand = scan.errand := by
  cases scan <;> rfl

variable {E} {delay} {scanners}

variable (E) in
/-- A scan makes a step, or the strategy is told nothing and its count is what it was. -/
theorem turn_cases (w : Crowd (Site κ β) Errand Scanning) (turn : Turn κ β) :
    (∃ i p, turn = .advance i ∧ w.parties[i]? = some p) ∨
      told (w.occasion (conduct E) turn) = [] ∧
        (w.take (conduct E) turn).1.shared.pacing.counts = w.shared.pacing.counts ∧
        (w.take (conduct E) turn).1.shared.pacing.begun = w.shared.pacing.begun := by
  cases turn with
  | enter r => exact .inr ⟨rfl, rfl, rfl⟩
  | advance i =>
    cases hp : w.parties[i]? with
    | none =>
      rw [told, Crowd.occasion, Crowd.take_of_none (conduct E) hp]
      exact .inr ⟨rfl, rfl, rfl⟩
    | some p => exact .inl ⟨i, p, rfl, hp⟩
  | aside op =>
    cases op with
    | interrupt =>
      exact .inr ⟨notices_of_calls (Pacer.interrupt_silent w.shared.pacing) w.shared.pacing,
        w.shared.pacing.interrupt_counts⟩
    | resume => exact .inr ⟨rfl, w.shared.pacing.resume_counts⟩
    | scanners f => exact .inr ⟨rfl, rfl, rfl⟩

/-- What is told when a scan makes a step. -/
theorem told_advance {w : Crowd (Site κ β) Errand Scanning} {i : Nat} {p : Party Errand Scanning}
    (hp : w.parties[i]? = some p) :
    told (w.occasion (conduct E) (.advance i)) =
      notices w.shared.pacing (p.stage.next E w.shared).2.2 := by
  rw [told, Crowd.trace_advance (conduct E) hp]
  rfl

/-- The buffer about which the rules are asked when a scan makes a step. -/
theorem asked_advance {w : Crowd (Site κ β) Errand Scanning} {i : Nat} {p : Party Errand Scanning}
    (hp : w.parties[i]? = some p) :
    [w.occasion (conduct E) (.advance i)].filterMap (asked? i) = p.stage.asked?.toList := by
  rw [List.filterMap_cons, List.filterMap_nil, asked?, Crowd.party?_advance, hp, Option.bind_some]
  cases p.stage.asked? <;> rfl

/-- **A turn takes the next numbers** for the batches that begin. -/
theorem turn_counts {w : Crowd (Site κ β) Errand Scanning} (hw : w.shared.pacing.counts)
    (turn : Turn κ β) :
    (w.take (conduct E) turn).1.shared.pacing.counts ∧
      ∃ k, tokens (told (w.occasion (conduct E) turn)) =
          List.range' (w.shared.pacing.begun + 1) k ∧
        (w.take (conduct E) turn).1.shared.pacing.begun = w.shared.pacing.begun + k := by
  rcases turn_cases E w turn with ⟨i, p, rfl, hp⟩ | ⟨htold, hcounts, hbegun⟩
  · rw [told_advance hp, Crowd.take_of_some (conduct E) hp]
    exact (next_view E p.stage w.shared).counts hw
  · rw [htold]
    exact ⟨hcounts.trans hw, 0, rfl, hbegun⟩

/-! ## Runs -/

theorem toldIn_concat (h : List (Occasion κ β)) (m : Occasion κ β) :
    toldIn (h ++ [m]) = toldIn h ++ told m := by
  rw [toldIn, toldIn, List.flatMap_append, List.flatMap_singleton]

/-- **The tokens are the numbers from one on**, in the order of the beginnings. -/
theorem tokens_told (turns : List (Turn κ β)) :
    (after E delay scanners turns).shared.pacing.counts ∧
      tokens (toldIn (history E delay scanners turns)) =
        List.range' 1 (after E delay scanners turns).shared.pacing.begun := by
  refine Crowd.run_induction (conduct E) (w := quiet delay scanners)
    (q := fun h w => w.shared.pacing.counts ∧ tokens (toldIn h) =
      List.range' 1 w.shared.pacing.begun) ?_ ?_ turns
  · cases delay <;> exact ⟨rfl, rfl⟩
  · rintro h w turn ⟨hcounts, htokens⟩
    obtain ⟨hcounts', k, hnew, hbegun⟩ := turn_counts hcounts turn
    refine ⟨hcounts', ?_⟩
    rw [toldIn_concat, tokens_append, htokens, hnew, hbegun, Nat.add_comm _ 1]
    exact List.range'_append_1

/-- **What a scan told** up to where it is. -/
theorem course {turns : List (Turn κ β)} {i : Nat} {p : Party Errand Scanning}
    (hp : (after E delay scanners turns).parties[i]? = some p) :
    p.stage.errand = p.errand ∧
      BatchView.Course p.errand.buffers (toldBy i (history E delay scanners turns))
        (askedBy i (history E delay scanners turns)) p.stage.view := by
  refine Crowd.party_induction (conduct E) rfl
    (q := fun r steps scan => scan.errand = r ∧ BatchView.Course r.buffers (toldIn steps)
      (steps.filterMap (asked? i)) scan.view)
    (fun r => ?_) (fun first rest p _ hp ⟨herrand, hcourse⟩ => ?_) hp
  · cases r <;> exact ⟨rfl, .entered⟩
  · have hview := next_view E p.stage (after E delay scanners first).shared
    rw [herrand] at hview
    refine ⟨(next_errand E p.stage _).trans herrand, ?_⟩
    rw [toldIn_concat, told_advance hp, List.filterMap_append, asked_advance hp]
    exact hcourse.next hview

/-! ## One batch among others -/

/-- A property of all that a scan told, and of nothing else, sorts that out. -/
theorem filter_toldIn {i : Nat} {h : List (Occasion κ β)} {q : Notice → Bool}
    (hown : ∀ m ∈ h, (m.party? i).isSome → ∀ n ∈ told m, q n)
    (hother : ∀ m ∈ h, (m.party? i).isSome = false → ∀ n ∈ told m, ¬q n) :
    (toldIn h).filter q = toldBy i h := by
  induction h with
  | nil => rfl
  | cons m rest ih =>
    have hrest := ih (fun m hm => hown m (List.mem_cons_of_mem _ hm))
      fun m hm => hother m (List.mem_cons_of_mem _ hm)
    have htold : toldIn (m :: rest) = told m ++ toldIn rest := rfl
    have hsteps : Crowd.stepsOf i (m :: rest) =
        if (m.party? i).isSome then m :: Crowd.stepsOf i rest else Crowd.stepsOf i rest :=
      List.filter_cons
    rw [htold, List.filter_append, hrest, toldBy, toldBy, hsteps]
    by_cases hparty : (m.party? i).isSome
    · rw [if_pos hparty, List.filter_eq_self.2 (hown m List.mem_cons_self hparty)]
      rfl
    · rw [if_neg hparty,
        List.filter_eq_nil_iff.2 (hother m List.mem_cons_self (Bool.eq_false_iff.2 hparty))]
      rfl

theorem mem_toldBy {i : Nat} {h : List (Occasion κ β)} {m : Occasion κ β} (hm : m ∈ h)
    (hparty : (m.party? i).isSome) {n : Notice} (hn : n ∈ told m) : n ∈ toldBy i h :=
  List.mem_flatMap.2 ⟨m, List.mem_filter.2 ⟨hm, hparty⟩, hn⟩

/-- What the strategy is told comes from some scan. -/
theorem told_by_some {turns : List (Turn κ β)} {m : Occasion κ β}
    (hm : m ∈ history E delay scanners turns) {n : Notice} (hn : n ∈ told m) :
    ∃ j, (m.party? j).isSome := by
  obtain ⟨first, rest, -, hoccasion⟩ := Crowd.split_of_mem (conduct E) hm
  rw [hoccasion] at hn
  rcases turn_cases E (after E delay scanners first) m.turn with
    ⟨j, p, hturn, hp⟩ | ⟨hnone, -⟩
  · refine ⟨j, ?_⟩
    rw [hoccasion, hturn, Crowd.party?_advance]
    exact Option.isSome_iff_exists.2 ⟨p, hp⟩
  · have hn : n ∈ told ((after E delay scanners first).occasion (conduct E) m.turn) := hn
    rw [hnone] at hn
    cases hn

/-- A scan that told something is there. -/
theorem party_of_told {turns : List (Turn κ β)} {i : Nat} {n : Notice}
    (hn : n ∈ toldBy i (history E delay scanners turns)) :
    ∃ p, (after E delay scanners turns).parties[i]? = some p := by
  cases hp : (after E delay scanners turns).parties[i]? with
  | some p => exact ⟨p, rfl⟩
  | none =>
    have hsteps : Crowd.stepsOf i (history E delay scanners turns) = [] :=
      Crowd.stepsOf_of_none (conduct E) hp
    rw [toldBy, hsteps] at hn
    cases hn

/-- A scan that told something began a batch, and told all with its token. -/
theorem token_of_told {turns : List (Turn κ β)} {i : Nat} {n : Notice}
    (hn : n ∈ toldBy i (history E delay scanners turns)) :
    ∃ t, .begin t ∈ toldBy i (history E delay scanners turns) ∧
      ∀ n ∈ toldBy i (history E delay scanners turns), n.token = t := by
  obtain ⟨p, hp⟩ := party_of_told hn
  rcases (course hp).2.token with ⟨hnone, -⟩ | htoken
  · rw [hnone] at hn
    cases hn
  · exact htoken

variable (E delay scanners) in
theorem tokens_nodup (turns : List (Turn κ β)) :
    (tokens (toldIn (history E delay scanners turns))).Nodup := by
  rw [(tokens_told turns).2]
  exact List.nodup_range'

/-- **No two scans begin with one token.** -/
theorem begun_once {turns : List (Turn κ β)} {i j t : Nat}
    (hi : .begin t ∈ toldBy i (history E delay scanners turns))
    (hj : .begin t ∈ toldBy j (history E delay scanners turns)) : i = j := by
  obtain ⟨m, hm, hmi⟩ := List.mem_flatMap.1 hi
  obtain ⟨m', hm', hmj⟩ := List.mem_flatMap.1 hj
  obtain ⟨hm, hparty⟩ := List.mem_filter.1 hm
  obtain ⟨hm', hparty'⟩ := List.mem_filter.1 hm'
  have hnodup := tokens_nodup E delay scanners turns
  -- tokens that are not repeated are not handed out on two occasions either
  rw [tokens, toldIn, List.filterMap_flatMap, List.nodup_flatMap] at hnodup
  by_cases hsame : m = m'
  · subst hsame
    obtain ⟨p, hp⟩ := Option.isSome_iff_exists.1 hparty
    obtain ⟨q, hq⟩ := Option.isSome_iff_exists.1 hparty'
    have hturn := (Crowd.party?_eq_some hp).1
    rw [(Crowd.party?_eq_some hq).1] at hturn
    cases hturn
    rfl
  · have hsymm : Std.Symm (Function.onFun List.Disjoint
        fun m : Occasion κ β => (told m).filterMap Notice.begun?) :=
      ⟨fun _ _ h => List.disjoint_symm h⟩
    exact absurd (mem_tokens.2 hmj) (hnodup.2.forall hm hm' hsame (mem_tokens.2 hmi))

/-- **What is told with the token of a scan** is what that scan told. -/
theorem filter_token {turns : List (Turn κ β)} {i t : Nat}
    (ht : .begin t ∈ toldBy i (history E delay scanners turns)) :
    (toldIn (history E delay scanners turns)).filter (·.token = t) =
      toldBy i (history E delay scanners turns) := by
  refine filter_toldIn (fun m hm hparty n hn => ?_) fun m hm hparty n hn htoken => ?_
  · obtain ⟨t', -, htoken⟩ := token_of_told ht
    have hsame : t = t' := htoken _ ht
    exact decide_eq_true ((htoken n (mem_toldBy hm hparty hn)).trans hsame.symm)
  · -- with this token nobody else can have begun, and all is told with the token of a beginning
    obtain ⟨j, hj⟩ := told_by_some hm hn
    have hn' := mem_toldBy hm hj hn
    obtain ⟨t', hbegin, htoken'⟩ := token_of_told hn'
    rw [← htoken' n hn', of_decide_eq_true htoken] at hbegin
    obtain rfl := begun_once ht hbegin
    rw [hparty] at hj
    cases hj

/-! ## Ends -/

theorem ended?_view (scan : Scanning) : scan.view.ended? = scan.ended? := by
  rcases scan with ⟨k, sample, stage⟩ | ⟨k, buffers, stage⟩
  · cases stage with
    | busy p task => cases task <;> rfl
    | _ => rfl
  · cases stage <;> rfl

theorem start_of_view {scan : Scanning} (h : scan.view = .entered) :
    scan = scan.errand.start := by
  rcases scan with ⟨k, sample, stage⟩ | ⟨k, buffers, stage⟩
  · cases stage with
    | entered => rfl
    | busy p task => cases task <;> cases h
    | _ => cases h
  · cases stage with
    | entered => rfl
    | _ => cases h

variable (E) in
theorem next_rank (scan : Scanning) (s : Site κ β) :
    scan.ended?.isSome ∨ (scan.next E s).1.rank < scan.rank := by
  cases scan with
  | detailed k sample stage =>
    refine (stage.next_rank E Pacer.strategy sample (s.scanner k)).imp_left fun h => ?_
    cases stage with
    | finished reply => rfl
    | _ => cases h
  | batch k buffers stage =>
    refine (stage.next_rank E Pacer.strategy buffers (s.scanner k)).imp (fun h => ?_) fun h => ?_
    · cases stage with
      | finished reply => rfl
      | _ => cases h
    · exact Prod.Lex.toLex_lt_toLex.2 (.inl h)

/-- **Every scan can go on to its end**, from wherever it is. -/
theorem comes_to_end {w : Crowd (Site κ β) Errand Scanning} {i : Nat} {p : Party Errand Scanning}
    (hp : w.parties[i]? = some p) :
    ∃ n q ok, (w.after (conduct E) (List.replicate n (.advance i))).parties[i]? = some q ∧
      q.stage.ended? = some ok := by
  have hstep (_ : Nat) (_ : Errand) (scan : Scanning) (s : Site κ β) :
      scan.ended?.isSome ∨ (scan.next E s).1.rank < scan.rank := next_rank E scan s
  obtain ⟨n, q, hq, -, hdone⟩ := Crowd.done_after_steps (conduct E) hstep hp
  obtain ⟨ok, hok⟩ := Option.isSome_iff_exists.1 hdone
  exact ⟨n, q, ok, hq, hok⟩

/-! ## Nobody in between -/

theorem alone_detailed (i k : Nat) (sample : Sample) (s : Site κ β) :
    Crowd.Alone (conduct E) i (.detailed k sample) (.detailed k sample .entered) s
      (Scanner.scanDetailed E Pacer.strategy sample (s.scanner k)).trace
      (.detailed k sample
        (.finished (Scanner.scanDetailed E Pacer.strategy sample (s.scanner k)).reply))
      (s.put k (Scanner.scanDetailed E Pacer.strategy sample (s.scanner k)).state) :=
  (Scanner.scanDetailed_alone E Pacer.strategy Empty.elim i sample (s.scanner k)).embed
    (w := Scanning.detailed k sample) (fun s => scanner_put s k) (fun s => put_scanner s k)
    (fun s => put_put s k) (fun _ _ => rfl) rfl

theorem alone_batch (i k : Nat) (buffers : List ByteArray) (s : Site κ β) :
    Crowd.Alone (conduct E) i (.batch k buffers) (.batch k buffers .entered) s
      (Scanner.scanBatch E Pacer.strategy buffers (s.scanner k)).trace
      (.batch k buffers
        (.finished (Scanner.scanBatch E Pacer.strategy buffers (s.scanner k)).reply))
      (s.put k (Scanner.scanBatch E Pacer.strategy buffers (s.scanner k)).state) :=
  (BatchStage.scanBatch_alone E Pacer.strategy i buffers (s.scanner k)).embed
    (w := Scanning.batch k buffers) (fun s => scanner_put s k) (fun s => put_scanner s k)
    (fun s => put_put s k) (fun _ _ => rfl) rfl

/-! ## Batches never mix -/

/-- What holds where scans share a strategy, and of the course of things up to there. -/
structure Separate (E : Engine κ β) (w : Crowd (Site κ β) Errand Scanning)
    (h : List (Occasion κ β)) : Prop where
  /-- A scan of a sample that comes now, with nobody in between, does what the program does. -/
  detailed_alone (k : Nat) (sample : Sample) : ∃ n,
    let comes := RuleScan.Turn.enter (.detailed k sample) ::
      List.replicate n (.advance w.parties.length)
    let whole := Scanner.scanDetailed E Pacer.strategy sample (w.shared.scanner k)
    w.after (conduct E) comes = ⟨w.shared.put k whole.state,
        w.parties ++ [⟨.detailed k sample, .detailed k sample (.finished whole.reply)⟩]⟩ ∧
      (w.history (conduct E) comes).flatMap (·.trace) = whole.trace
  /-- So does a scan of some buffers. -/
  batch_alone (k : Nat) (buffers : List ByteArray) : ∃ n,
    let comes := RuleScan.Turn.enter (.batch k buffers) ::
      List.replicate n (.advance w.parties.length)
    let whole := Scanner.scanBatch E Pacer.strategy buffers (w.shared.scanner k)
    w.after (conduct E) comes = ⟨w.shared.put k whole.state,
        w.parties ++ [⟨.batch k buffers, .batch k buffers (.finished whole.reply)⟩]⟩ ∧
      (w.history (conduct E) comes).flatMap (·.trace) = whole.trace
  /-- Every scan can go on to its end. -/
  ends {i : Nat} {p : Party Errand Scanning} (hp : w.parties[i]? = some p) : ∃ n q ok,
    (w.after (conduct E) (List.replicate n (.advance i))).parties[i]? = some q ∧
      q.stage.ended? = some ok
  /-- The tokens are the numbers from one on, in the order of the beginnings. -/
  tokens_eq : tokens (toldIn h) = List.range' 1 (tokens (toldIn h)).length
  nodup : (tokens (toldIn h)).Nodup
  /-- They fit into words of 64 bits, as long as there are not too many. -/
  words : (tokens (toldIn h)).length < UInt64.size → ((tokens (toldIn h)).map UInt64.ofNat).Nodup ∧
    ∀ t ∈ tokens (toldIn h), (UInt64.ofNat t).toNat = t
  /-- Nothing is told with a token that was not handed out. -/
  token_mem : ∀ n ∈ toldIn h, n.token ∈ tokens (toldIn h)
  /-- What is told with a token comes from one scan, and is its batch. -/
  batch : ∀ t ∈ tokens (toldIn h), ∃ i p, w.parties[i]? = some p ∧
    toldBy i h = (toldIn h).filter (·.token = t) ∧
    Batch p.errand.buffers t ((toldIn h).filter (·.token = t)) (askedBy i h) p.stage.ended?
  /-- No other scan told anything with it. -/
  apart {i j : Nat} : ∀ n ∈ toldBy i h, ∀ n' ∈ toldBy j h, n.token = n'.token → i = j
  /-- Every scan has a token, unless it has only come. -/
  begun {i : Nat} {p : Party Errand Scanning} (hp : w.parties[i]? = some p) :
    p.stage = p.errand.start ∧ toldBy i h = [] ∨
      ∃ t ∈ tokens (toldIn h), toldBy i h = (toldIn h).filter (·.token = t)

variable {turns : List (Turn κ β)}

/-- What is told is told by some scan. -/
theorem toldBy_of_told {n : Notice} (hn : n ∈ toldIn (history E delay scanners turns)) :
    ∃ i, n ∈ toldBy i (history E delay scanners turns) := by
  obtain ⟨m, hm, hn⟩ := List.mem_flatMap.1 hn
  obtain ⟨i, hi⟩ := told_by_some hm hn
  exact ⟨i, mem_toldBy hm hi hn⟩

theorem told_of_toldBy {i : Nat} {h : List (Occasion κ β)} {n : Notice} (hn : n ∈ toldBy i h) :
    n ∈ toldIn h := by
  obtain ⟨m, hm, hn⟩ := List.mem_flatMap.1 hn
  exact List.mem_flatMap.2 ⟨m, (List.mem_filter.1 hm).1, hn⟩

/-- **Batches never mix**: for any engine and scanners, with a strategy that was just made, and
whatever scans run beside each other in whatever order, the tokens are the numbers from one on, no
two scans have the same, and what the strategy is told with one token is that the batch begins, one
step for each buffer that the scan asked the rules about, and once the scan is over, whatever its
reply, that the batch is finished, and nothing more. -/
theorem separate (E : Engine κ β) (delay : Option Duration) (scanners : Nat → Scanner κ β Unit)
    (turns : List (Turn κ β)) :
    Separate E (after E delay scanners turns) (history E delay scanners turns) where
  detailed_alone k sample :=
    Crowd.after_alone (conduct E) (alone_detailed _ k sample (after E delay scanners turns).shared)
  batch_alone k buffers :=
    Crowd.after_alone (conduct E) (alone_batch _ k buffers (after E delay scanners turns).shared)
  ends := comes_to_end
  tokens_eq := by
    rw [(tokens_told turns).2, List.length_range']
  nodup := tokens_nodup E delay scanners turns
  words hfew := by
    rw [(tokens_told turns).2, List.length_range'] at hfew
    have hword : ∀ t ∈ tokens (toldIn (history E delay scanners turns)),
        (UInt64.ofNat t).toNat = t := fun t ht => by
      rw [(tokens_told turns).2, List.mem_range'_1] at ht
      exact UInt64.toNat_ofNat_of_lt' (by omega)
    refine ⟨(tokens_nodup E delay scanners turns).map_on fun t ht u hu h => ?_, hword⟩
    rw [← hword t ht, h, hword u hu]
  token_mem n hn := by
    obtain ⟨i, hi⟩ := toldBy_of_told hn
    obtain ⟨t, hbegin, htoken⟩ := token_of_told hi
    rw [htoken n hi]
    exact mem_tokens.2 (told_of_toldBy hbegin)
  batch t ht := by
    obtain ⟨i, hi⟩ := toldBy_of_told (mem_tokens.1 ht)
    obtain ⟨p, hp⟩ := party_of_told hi
    refine ⟨i, p, hp, (filter_token hi).symm, ?_⟩
    rw [filter_token hi, ← ended?_view]
    exact (course hp).2.batch hi
  apart n hn n' hn' h := by
    obtain ⟨t, hbegin, htoken⟩ := token_of_told hn
    obtain ⟨t', hbegin', htoken'⟩ := token_of_told hn'
    have hsame : t = t' := by rw [← htoken n hn, ← htoken' n' hn', h]
    rw [hsame] at hbegin
    exact begun_once hbegin hbegin'
  begun {i p} hp := by
    obtain ⟨herrand, hcourse⟩ := course hp
    rcases hcourse.token with ⟨hnone, hentered⟩ | ⟨t, hbegin, -⟩
    · exact .inl ⟨herrand ▸ start_of_view hentered, hnone⟩
    · exact .inr ⟨t, mem_tokens.2 (told_of_toldBy hbegin), (filter_token hbegin).symm⟩

end Site

end RuleScan
