import RuleScan.Proofs.Scan.Steps
import RuleScan.Proofs.Session.Lifecycle
import Mathlib.Data.Prod.Lex

/-!
# Scans beside each other

A scanner is used by many threads at once. Each of them scans a sample, in steps, and between any
two steps others may get in, or something is asked of the session or of the plugins in use: a
`World` is a crowd of such threads.

A move does one operation on the session at most (`World.move_serves`), so that the session goes
through a run of its own (`World.run_session`). Each step of a scan brings it closer to its end
(`Stage.next_rank`): a scan that is always gone on with at some time is over at some time
(`World.finished_of_fair`).
-/

namespace RuleScan

variable {κ β π : Type}

/-! ## Moves -/

/-- What can be asked of the plugins in use. -/
inductive Registry.Operation
  | register (p : Plugin)
  | registerAll (plugins : List Plugin)
  | clear

/-- Carries out an operation on the plugins in use. -/
def Registry.perform : Registry.Operation → Action Registry Unit
  | .register p => register p
  | .registerAll plugins => registerAll plugins
  | .clear => clear

theorem Registry.duplicateWarnings_silent (seen names : List String) :
    calls (duplicateWarnings seen names) = [] := by
  induction names generalizing seen with
  | nil => rfl
  | cons name rest ih =>
    rw [duplicateWarnings, calls_append, ih]
    split <;> rfl

theorem Registry.perform_silent (op : Registry.Operation) : (perform op).Silent := fun r => by
  cases op with
  | register p =>
    have hwarn : calls (if r.names.contains p.qualifiedName
        then [warnDuplicate p.qualifiedName] else []) = [] := by split <;> rfl
    exact (calls_append _ _).trans (congrArg (· ++ []) hwarn)
  | registerAll plugins =>
    exact (calls_append _ _).trans (congrArg (· ++ []) (duplicateWarnings_silent _ _))
  | clear => rfl

/-- A scanner with the threads that scan by it. -/
abbrev World (κ β π : Type) := Crowd (Scanner κ β π) Sample Stage

namespace World

/-- What is done with a scanner beside the scans. -/
inductive Aside
  | session (op : Session.Operation)
  | registry (op : Registry.Operation)

open Scanner (onSession onRegistry)

/-- Does something with a scanner beside the scans. -/
def perform (E : Engine κ β) : Aside → Scanner κ β π → Scanner κ β π × List Event
  | .session op, s =>
    let t := onSession (Session.perform E op) s
    (t.state, t.trace)
  | .registry op, s =>
    let t := onRegistry (Registry.perform op) s
    (t.state, t.trace)

/-- How threads behave that scan by one scanner. -/
def conduct (E : Engine κ β) (P : Strategy π) : Conduct (Scanner κ β π) Sample Stage Aside :=
  Stage.conduct E P (perform E)

end World

/-- What happens next: a thread enters a scan, it makes the next step, or something is done beside
the scans. -/
abbrev Move := Turn Sample World.Aside

/-- A move, with the world before it and after it and the trace that it left. -/
abbrev Moment (κ β π : Type) := Occasion (Scanner κ β π) Sample Stage World.Aside

/-! ## The session -/

/-- Whether a call is one to a compiler or to a backend. -/
def Call.isOfEngine : Call → Bool
  | .ingest _ => true
  | .build => true
  | .releaseCompiler => true
  | .scan _ => true
  | .ruleCount => true
  | .serialize => true
  | .releaseBackend => true
  | _ => false

/-- The calls in a trace that reach a compiler or a backend. -/
def engineCalls (trace : List Event) : List Call := (calls trace).filter Call.isOfEngine

@[simp] theorem engineCalls_append (t u : List Event) :
    engineCalls (t ++ u) = engineCalls t ++ engineCalls u := by
  simp [engineCalls]

namespace Session

theorem isOfEngine_of_isUse {c : Call} (h : isUse c) : c.isOfEngine := by
  cases c <;> first | rfl | cases h

theorem Effect.isOfEngine {E : Engine κ β} {op : Operation} {phase phase' : Phase κ β}
    {r : Reply Answer} {cs : List Call} (he : Effect E op phase r phase' cs) :
    ∀ c ∈ cs, c.isOfEngine := by
  cases he with
  | collect hop hop' hdone hall =>
    intro c hc
    obtain ⟨r, -, rfl⟩ := List.mem_map.1 hc
    rfl
  | use hop hop' hreq hu => simpa using isOfEngine_of_isUse hu
  | install hop hb hus =>
    simpa [Call.isOfEngine] using fun c hc => isOfEngine_of_isUse (hus c hc)
  | giveUp hop hb hus hr =>
    intro c hc
    simp only [List.cons_append, List.mem_cons, List.mem_append, List.not_mem_nil, or_false] at hc
    rcases hc with rfl | rfl | hc | rfl
    · rfl
    · rfl
    · exact isOfEngine_of_isUse (hus c hc)
    · rfl
  | breakDown hop hb hr => simp [Call.isOfEngine]
  | close hop hphase =>
    cases phase with
    | ingesting c => simp [releaseTrace, E.releaseCompiler_silent, Call.isOfEngine]
    | built b => simp [releaseTrace, E.releaseBackend_silent, Call.isOfEngine]
    | buildFailed => simp [releaseTrace]
    | closed => simp [releaseTrace]
  | idle hbuild hclose hreq => simp

/-- All calls of an operation reach a compiler or a backend. -/
theorem perform_engineCalls (E : Engine κ β) (op : Operation) (s : Session κ β) :
    engineCalls (perform E op s).trace = calls (perform E op s).trace :=
  List.filter_eq_self.2 (perform_effect E op s).isOfEngine

/-- What becomes of a session when at most one operation is done with it, and the calls in the
trace that reach a compiler or a backend. -/
structure Serves (E : Engine κ β) (op? : Option Operation) (s t : Session κ β)
    (trace : List Event) : Prop where
  state_eq : t = op?.elim s fun op => (perform E op s).state
  calls_eq : engineCalls trace = op?.elim [] fun op => calls (perform E op s).trace

end Session

/-- The operation on the session that the next step of a scan is, if it is one. -/
def Stage.operation? : Stage → Option Session.Operation
  | .busy p .rules => some (.scanIfBuilt p.data)
  | _ => none

/-- The operation on the session that a move is, if it is one. -/
def World.operation? (w : World κ β π) : Move → Option Session.Operation
  | .aside (.session op) => some op
  | .advance i => (w.stage? i).bind Stage.operation?
  | _ => none

namespace Scanner

/-- Putting together what was found changes nothing and calls nobody. -/
theorem settle_quiet (token : Nat) (c : Channel) (data : ByteArray) (rules : Option Findings)
    (plugins : PluginScan) (s : Scanner κ β π) :
    ∃ r, (settle token c data rules plugins).Does s r s [] := by
  obtain ⟨r, hset⟩ : ∃ r, (settleFailures c plugins.failures).Does s r s [] :=
    ⟨_, settleFailures_does c plugins.failures s⟩
  simp only [settle, Action.bind_eq]
  rcases r.ok_or_halt with ⟨failures, rfl⟩ | ⟨h, rfl⟩
  · exact ⟨_, hset.bind ⟨rfl, rfl, rfl⟩⟩
  · exact ⟨_, hset.bind_halt⟩

end Scanner

namespace Stage

variable (E : Engine κ β) (P : Strategy π) (sample : Sample)

open Scanner

open Session in
/-- **A step of a scan** asks the rules or leaves the session alone. -/
theorem next_serves (stage : Stage) (s : Scanner κ β π) :
    Serves E stage.operation? s.session (stage.next E P sample s).2.1.session
      (stage.next E P sample s).2.2 := by
  have hnone {cs : List Call} (hcs : cs.filter Call.isOfEngine = []) {t : Session κ β}
      {trace : List Event} (ht : t = s.session) (htrace : calls trace = cs) :
      Serves E none s.session t trace := ⟨ht, by rw [engineCalls, htrace, hcs]; rfl⟩
  cases stage with
  | entered => exact hnone rfl rfl (beginBatch_does P s.pacing).calls_eq
  | busy p task =>
    cases task with
    | wait => exact hnone rfl rfl (pause_does P p.token s).calls_eq
    | rules =>
      refine ⟨(Action.state_map _ _ _).symm, ?_⟩
      have htrace := Action.trace_map (scanIfBuilt E p.data) Answer.found s.session
      exact (congrArg engineCalls htrace).symm.trans
        (perform_engineCalls E (.scanIfBuilt p.data) s.session)
    | snapshot found => exact hnone rfl rfl rfl
    | plugins found left scan =>
      cases left with
      | nil =>
        obtain ⟨r, hsettle⟩ := settle_quiet p.token p.channel p.data found scan s
        exact hnone rfl (congrArg Scanner.session hsettle.state_eq) hsettle.calls_eq
      | cons plugin left => exact hnone rfl rfl rfl
  | closing token reply => exact hnone rfl rfl (finishBatch_does P token s.pacing).calls_eq
  | finished reply => exact hnone rfl rfl rfl

/-- No step changes how a scanner is set up. -/
theorem next_settings (stage : Stage) (s : Scanner κ β π) :
    (stage.next E P sample s).2.1.weights = s.weights ∧
      (stage.next E P sample s).2.1.onPluginFailure = s.onPluginFailure := by
  cases stage with
  | entered => exact ⟨rfl, rfl⟩
  | busy p task =>
    cases task with
    | wait => exact ⟨rfl, rfl⟩
    | rules => exact ⟨rfl, rfl⟩
    | snapshot found => exact ⟨rfl, rfl⟩
    | plugins found left scan =>
      cases left with
      | nil =>
        obtain ⟨r, hsettle⟩ := settle_quiet p.token p.channel p.data found scan s
        exact ⟨congrArg Scanner.weights hsettle.state_eq,
          congrArg Scanner.onPluginFailure hsettle.state_eq⟩
      | cons plugin left => exact ⟨rfl, rfl⟩
  | closing token reply => exact ⟨rfl, rfl⟩
  | finished reply => exact ⟨rfl, rfl⟩

end Stage

namespace World

variable (E : Engine κ β) (P : Strategy π)

open Session (Serves)

/-- **A move does one operation on the session at most.** -/
theorem move_serves (w : World κ β π) (m : Move) :
    Serves E (operation? w m) w.shared.session (w.take (conduct E P) m).1.shared.session
      (w.take (conduct E P) m).2 := by
  cases m with
  | enter sample => exact ⟨rfl, rfl⟩
  | advance i =>
    cases hi : w.parties[i]? with
    | none =>
      rw [Crowd.take_of_none _ hi, operation?, Crowd.stage?, hi]
      exact ⟨rfl, rfl⟩
    | some t =>
      rw [Crowd.take_of_some _ hi, operation?, Crowd.stage?, hi]
      exact t.stage.next_serves E P t.errand w.shared
  | aside op =>
    cases op with
    | session op => exact ⟨rfl, Session.perform_engineCalls E op w.shared.session⟩
    | registry op =>
      refine ⟨rfl, ?_⟩
      have hquiet : calls (Registry.perform op w.shared.registry).trace = [] :=
        Registry.perform_silent op _
      exact congrArg (List.filter Call.isOfEngine) hquiet

/-- No move changes how the scanner is set up. -/
theorem move_settings (w : World κ β π) (m : Move) :
    (w.take (conduct E P) m).1.shared.weights = w.shared.weights ∧
      (w.take (conduct E P) m).1.shared.onPluginFailure = w.shared.onPluginFailure := by
  cases m with
  | enter sample => exact ⟨rfl, rfl⟩
  | advance i =>
    cases hi : w.parties[i]? with
    | none => rw [Crowd.take_of_none _ hi]; exact ⟨rfl, rfl⟩
    | some t =>
      rw [Crowd.take_of_some _ hi]
      exact t.stage.next_settings E P t.errand w.shared
  | aside op => cases op <;> exact ⟨rfl, rfl⟩

theorem after_settings (w : World κ β π) (moves : List Move) :
    (w.after (conduct E P) moves).shared.weights = w.shared.weights ∧
      (w.after (conduct E P) moves).shared.onPluginFailure = w.shared.onPluginFailure := by
  refine Crowd.run_induction (conduct E P) (q := fun _ v =>
    v.shared.weights = w.shared.weights ∧
      v.shared.onPluginFailure = w.shared.onPluginFailure) ⟨rfl, rfl⟩ (fun _ v m h => ?_) moves
  obtain ⟨hweights, hpolicy⟩ := move_settings E P v m
  exact ⟨hweights.trans h.1, hpolicy.trans h.2⟩

/-- The operations on the session in some moves, as they took place. -/
def operations (w : World κ β π) (moves : List Move) : List Session.Operation :=
  (w.history (conduct E P) moves).filterMap fun m => operation? m.before m.turn

theorem operations_cons (w : World κ β π) (m : Move) (rest : List Move) :
    operations E P w (m :: rest) =
      (operation? w m).toList ++ operations E P (w.take (conduct E P) m).1 rest := by
  have hfirst : operation? (w.occasion (conduct E P) m).before (w.occasion (conduct E P) m).turn =
      operation? w m := rfl
  rw [operations, Crowd.history, List.filterMap_cons, hfirst]
  cases operation? w m <;> rfl

/-- **Some moves** take the session through a run of these operations, and the calls that reach a
compiler or a backend are those of this run. -/
theorem run_session (w : World κ β π) (moves : List Move) :
    (w.after (conduct E P) moves).shared.session =
        Session.after E w.shared.session (operations E P w moves) ∧
      engineCalls (w.trace (conduct E P) moves) =
        calls (Session.history E w.shared.session (operations E P w moves)) := by
  induction moves generalizing w with
  | nil => exact ⟨rfl, rfl⟩
  | cons m rest ih =>
    obtain ⟨hstate, hcalls⟩ := move_serves E P w m
    obtain ⟨hafter, htrace⟩ := ih (w.take (conduct E P) m).1
    rw [Crowd.trace_cons, engineCalls_append, hcalls, htrace, operations_cons, hstate]
    rw [hstate] at hafter
    cases hop : operation? w m with
    | none =>
      rw [hop] at hafter
      exact ⟨hafter, rfl⟩
    | some op =>
      rw [hop] at hafter
      exact ⟨hafter, (calls_append _ _).symm⟩

end World

/-! ## Progress -/

/-- What is left to do at a buffer before the plugins are asked. -/
def Task.rank : Task → Nat
  | .wait => 3
  | .rules => 2
  | .snapshot _ => 1
  | .plugins _ _ _ => 0

/-- The number of plugins that are left to ask. -/
def Task.left : Task → Nat
  | .plugins _ left _ => left.length
  | _ => 0

namespace Stage

/-- How far a scan is from its end. The plugins come second: how many there are is not known before
the list of them is taken. -/
def rank (sample : Sample) : Stage → ℕ ×ₗ ℕ
  | .entered => toLex (4 * sample.buffers.length + 2, 0)
  | .busy p task => toLex (4 * p.rest.length + 2 + task.rank, task.left)
  | .closing _ _ => toLex (1, 0)
  | .finished _ => toLex (0, 0)

/-- Whether a scan is over. -/
def isFinished : Stage → Bool
  | .finished _ => true
  | _ => false

variable {sample : Sample}

theorem before_rank (token : Nat) (sofar : Outcome) (buffers : List (Channel × ByteArray)) :
    (before token sofar buffers).rank sample = toLex (4 * buffers.length + 1, 0) := by
  cases buffers with
  | nil => rfl
  | cons b rest =>
    have hlength : 4 * rest.length + 2 + 3 = 4 * (b :: rest).length + 1 := by
      rw [List.length_cons]
      omega
    rw [← hlength]
    rfl

open Scanner in
/-- **Each step brings a scan closer to its end**, until it is over. -/
theorem next_rank (E : Engine κ β) (P : Strategy π) (sample : Sample) (stage : Stage)
    (s : Scanner κ β π) :
    stage.isFinished = true ∨ (stage.next E P sample s).1.rank sample < stage.rank sample := by
  -- a smaller first part, whatever becomes of the plugins
  have hfirst {m n k l : ℕ} (h : m < n) : toLex (m, k) < toLex (n, l) :=
    Prod.Lex.toLex_lt_toLex.2 (.inl h)
  have hhalted (p : Post) (task : Task) (h : Halt) :
      (halted p.token h).rank sample < (busy p task).rank sample :=
    Prod.Lex.toLex_lt_toLex.2 (.inl (by dsimp only; omega))
  cases stage with
  | entered =>
    refine .inr (Reply.follow_cases (p := (rank sample · < _)) (fun h => .finished h.reply)
      (fun token => before token {} sample.buffers) (fun _ => hfirst (Nat.succ_pos _))
      (fun token => ?_) (onPacing P.beginBatch s).reply)
    rw [before_rank]
    exact hfirst (Nat.lt_succ_self _)
  | busy p task =>
    right
    cases task with
    | wait =>
      exact Reply.follow_cases (p := (rank sample · < _)) (halted p.token)
        (fun _ => .busy p .rules) (hhalted p .wait) (fun _ => hfirst (Nat.lt_succ_self _))
        (pause P p.token s).reply
    | rules =>
      exact Reply.follow_cases (p := (rank sample · < _)) (halted p.token)
        (fun found => .busy p (.snapshot found)) (hhalted p .rules)
        (fun _ => hfirst (Nat.lt_succ_self _)) (scanRules E p.data s).reply
    | snapshot found => exact hfirst (Nat.lt_succ_self _)
    | plugins found left scan =>
      cases left with
      | nil =>
        refine Reply.follow_cases (p := (rank sample · < _)) (halted p.token)
          (fun o => before p.token (p.sofar.append o) p.rest)
          (hhalted p (.plugins found [] scan)) (fun o => ?_)
          (settle p.token p.channel p.data found scan s).reply
        rw [before_rank]
        exact hfirst (Nat.lt_succ_self _)
      | cons plugin left =>
        exact Prod.Lex.toLex_lt_toLex.2 (.inr ⟨rfl, Nat.lt_succ_self _⟩)
  | closing token reply => exact .inr (hfirst Nat.zero_lt_one)
  | finished reply => exact .inl rfl

end Stage

/-- **A scan that is always gone on with is over at some time**, whatever comes in between. -/
theorem World.finished_of_fair (E : Engine κ β) (P : Strategy π) {w : World κ β π} {run : ℕ → Move}
    {i : Nat} (hfair : ∀ n, ∃ m, n ≤ m ∧ run m = .advance i) {n : ℕ} {t : Party Sample Stage}
    (ht : (w.stateAt (conduct E P) run n).parties[i]? = some t) :
    ∃ m t', (w.stateAt (conduct E P) run m).parties[i]? = some t' ∧ t'.errand = t.errand ∧
      t'.stage.isFinished :=
  have hstep (_ : Nat) (sample : Sample) (stage : Stage) (s : Scanner κ β π) :
      stage.isFinished ∨ (stage.next E P sample s).1.rank sample < stage.rank sample :=
    stage.next_rank E P sample s
  Crowd.done_of_fair (conduct E P) hstep hfair ht

end RuleScan
