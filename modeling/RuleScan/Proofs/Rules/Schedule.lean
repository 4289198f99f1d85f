import RuleScan.Proofs.Rules.Worker

/-!
# Every schedule of a client and its worker

Whoever gets the turns, a client with a worker comes to what a collector comes to
(`Workshop.after_sound`), and so, by `Collector.steps_direct`, to what a compiler at hand comes to.
Each step brings the end closer (`Workshop.rank`), and until then one of the threads can make one;
with a fair schedule the end is reached (`Workshop.done_of_fair`). The main result,
`Workshop.worker_refines`, puts this together.
-/

namespace RuleScan.Rules

variable {C R : Type} (T : Toolchain C R) (fs : Files)

namespace Workshop

/-! ## Runs -/

theorem sound_ofCollector (c : Collector C) (rs : List Request) (ending : Ending) :
    (ofCollector (R := R) c rs ending).Sound T fs (Collector.course T fs ending c rs) where
  place := by
    have hrests : Rests T c.options (c.compiler.elim .absent .ready : Worker C R) c.compiler := by
      cases c.compiler with
      | none => exact .absent
      | some k => exact .ready k
    exact .ready rfl ⟨hrests, rfl, rfl, rfl⟩ rfl
  fresh _ _ := rfl
  unread _ _ := rfl

theorem turn_sound {w : Workshop C R} {c : Course R} (h : w.Sound T fs c) (p : Party) :
    (w.turn T fs p).Sound T fs c := by
  have hstep : move? T fs p w = none ∨ GoesOn T fs p w c := by
    cases p with
    | client => exact client_goesOn T fs h
    | worker => exact worker_goesOn T fs h
  rcases hstep with hnone | ⟨w', hmove, hw'⟩
  · rw [turn, hnone]
    exact h
  · rw [turn, hmove]
    exact hw'

/-- **Every run** leaves what a workshop comes to as it is, whoever gets the turns. -/
theorem after_sound {w : Workshop C R} {c : Course R} (h : w.Sound T fs c) (turns : List Party) :
    (w.after T fs turns).Sound T fs c := by
  induction turns generalizing w with
  | nil => exact h
  | cons p rest ih => exact ih (turn_sound T fs h p)

/-- What there is so far is the beginning of what the workshop comes to. -/
theorem Sound.exists_coming {w : Workshop C R} {c : Course R} (h : w.Sound T fs c) :
    ∃ later, c = w.coming later := by
  cases h.place with
  | ready _ _ hc => exact ⟨_, hc⟩
  | busy _ _ hc => exact ⟨_, hc⟩
  | awaiting _ _ _ _ hc => exact ⟨_, hc⟩
  | answered _ _ _ _ _ _ _ hc => exact ⟨_, hc⟩
  | awaitingRules _ _ _ hc => exact ⟨_, hc⟩
  | delivered _ _ _ _ _ hc => exact ⟨_, hc⟩
  | leaving _ _ hc => exact ⟨_, hc⟩
  | joining _ _ _ hc => exact ⟨_, hc⟩
  | done _ _ hc => exact ⟨_, hc⟩

/-- Once the client is done nothing more is to come, and the worker has ended if there was one. -/
theorem Sound.of_done {w : Workshop C R} {c : Course R} (h : w.Sound T fs c)
    (hdone : w.client = .done) :
    c = ⟨w.replies, w.trace, w.built⟩ ∧ (w.worker = .absent ∨ w.worker = .gone) := by
  cases h.place with
  | ready hclient _ _ => cases hclient.symm.trans hdone
  | busy hclient _ _ => cases hclient.symm.trans hdone
  | awaiting hclient _ _ _ _ => cases hclient.symm.trans hdone
  | answered hclient _ _ _ _ _ _ _ => cases hclient.symm.trans hdone
  | awaitingRules hclient _ _ _ => cases hclient.symm.trans hdone
  | delivered hclient _ _ _ _ _ => cases hclient.symm.trans hdone
  | leaving hclient _ _ => cases hclient.symm.trans hdone
  | joining hclient _ _ _ => cases hclient.symm.trans hdone
  | done _ hworker hc =>
    rw [coming, List.append_nil, List.append_nil] at hc
    exact ⟨hc, hworker⟩

/-- An answer that has not been received yet is in the pipe that the client waits at, and it is the
answer to the change that the client waits for. -/
theorem Sound.own_answer {w : Workshop C R} {c : Course R} (h : w.Sound T fs c) {i : Nat}
    {answer : Option String} (ha : answer ∈ (w.answers i).queue) :
    ∃ r change rest, w.client = .awaiting r change rest i ∧
      w.trace.getLast? = some (.change change answer) := by
  have hw : w.awaited? = some i := by
    by_contra hne
    rw [h.unread i hne] at ha
    cases ha
  have hother (hclient : w.awaited? = none) : False := by
    rw [hw] at hclient
    cases hclient
  cases h.place with
  | ready hclient _ _ => exact (hother (by rw [awaited?, hclient])).elim
  | busy hclient _ _ => exact (hother (by rw [awaited?, hclient])).elim
  | @awaiting _ _ _ _ j _ _ hclient hserving _ _ _ =>
    have hij : j = i := by
      rw [awaited?, hclient] at hw
      exact Option.some.inj hw
    have hempty : w.answers i = {} := by
      rw [← hij]
      cases hserving with
      | queued _ _ hanswer => exact hanswer
      | applying _ _ hanswer => exact hanswer
      | answering _ _ hanswer _ => exact hanswer
    rw [hempty] at ha
    cases ha
  | @answered _ r change rest j answer' hclient _ _ hanswer hlast _ _ _ =>
    have hij : j = i := by
      rw [awaited?, hclient] at hw
      exact Option.some.inj hw
    rw [hij] at hanswer hclient
    rw [hanswer] at ha
    rw [List.mem_singleton.1 ha]
    exact ⟨r, change, rest, hclient, hlast⟩
  | awaitingRules hclient _ _ _ => exact (hother (by rw [awaited?, hclient])).elim
  | delivered hclient _ _ _ _ _ => exact (hother (by rw [awaited?, hclient])).elim
  | leaving hclient _ _ => exact (hother (by rw [awaited?, hclient])).elim
  | joining hclient _ _ _ => exact (hother (by rw [awaited?, hclient])).elim
  | done hclient _ _ => exact (hother (by rw [awaited?, hclient])).elim

/-- What the build has answered, if it has, is what the workshop comes to. -/
theorem Sound.built_eq {w : Workshop C R} {c : Course R} (h : w.Sound T fs c) :
    w.built = none ∨ w.built = c.built := by
  cases h.place with
  | ready _ hcalm _ => exact .inl hcalm.2.2.2
  | busy _ hcalm _ => exact .inl hcalm.2.2.2
  | awaiting _ _ _ hunbuilt _ => exact .inl hunbuilt.2
  | answered _ _ _ _ _ _ hunbuilt _ => exact .inl hunbuilt.2
  | awaitingRules _ _ hbuilt _ => exact .inl hbuilt
  | delivered _ _ _ _ hbuilt _ => exact .inl hbuilt
  | leaving _ _ hc => exact .inr (congrArg Course.built hc).symm
  | joining _ _ _ hc => exact .inr (congrArg Course.built hc).symm
  | done _ _ hc => exact .inr (congrArg Course.built hc).symm

/-! ## The end of a run -/

/-- How far a client is from the end of its request, or of the whole after the last one. -/
def clientRank : Client → Nat
  | .ready => 10
  | .busy _ rest => 11 + 10 * rest.length
  | .awaiting _ _ rest _ => 12 + 10 * rest.length
  | .awaitingRules => 3
  | .leaving => 2
  | .joining => 1
  | .done => 0

/-- How far a worker is from its end, if it gets no more commands. -/
def workerRank : Worker C R → Nat
  | .absent => 6
  | .starting => 5
  | .ready _ => 4
  | .applying .. => 6
  | .answering .. => 5
  | .building _ => 3
  | .delivering _ => 2
  | .leaving => 1
  | .gone => 0

/-- How much there is to do for some requests. -/
def requestsRank : List Request → Nat
  | [] => 0
  | r :: rest => 2 + 10 * (r.changes T fs).length + requestsRank rest

/-- How many steps there can be at most. -/
def rank (w : Workshop C R) : Nat :=
  requestsRank T fs w.todo + clientRank w.client + 4 * w.commands.queue.length + workerRank w.worker

theorem receive_message {μ : Type} {p q : Pipe μ} {m : μ} (h : p.receive = .message m q) :
    p.queue.length = q.queue.length + 1 := by
  unfold Pipe.receive at h
  split at h
  · next m' rest hqueue =>
    cases h
    rw [hqueue, List.length_cons]
  · split at h <;> cases h

theorem send_length {μ : Type} {p q : Pipe μ} {m : μ} (h : p.send m = some q) :
    q.queue.length = p.queue.length + 1 := by
  unfold Pipe.send at h
  split at h
  · cases h
    exact List.length_append
  · cases h

theorem finish_rank_lt {w : Workshop C R} (hclient : w.client = .ready) :
    (w.finish T).rank T fs < w.rank T fs := by
  unfold finish
  split
  · simp only [rank, clientRank, hclient]
    omega
  · split
    · next commands hsend =>
      have hlength := send_length hsend
      simp only [rank, clientRank, hclient]
      omega
    · simp only [conclude, rank, clientRank, hclient]
      omega
  · simp only [rank, clientRank, hclient]
    omega
  · simp only [rank, clientRank, hclient]
    omega

theorem submit_rank_lt {w : Workshop C R} {r : Request} {change : Change}
    {rest : List (Except Failure Change)} (hclient : w.client = .busy r (.ok change :: rest)) :
    (w.submit r change rest).rank T fs < w.rank T fs := by
  unfold submit
  dsimp only
  split
  · next commands hsend =>
    have hlength := send_length hsend
    simp only [rank, clientRank, hclient, List.length_cons]
    omega
  · simp only [reply, rank, clientRank, hclient, List.length_cons]
    omega

/-- **A step of the client** brings the end closer. -/
theorem client_rank_lt {w w' : Workshop C R} (h : clientStep T fs w = some w') :
    w'.rank T fs < w.rank T fs := by
  cases hclient : w.client with
  | ready =>
    cases htodo : w.todo with
    | nil =>
      simp only [clientStep, hclient, htodo, Option.some.injEq] at h
      subst h
      exact finish_rank_lt T fs hclient
    | cons r rest =>
      simp only [clientStep, hclient, htodo, Option.some.injEq] at h
      subst h
      simp only [rank, requestsRank, clientRank, hclient, htodo]
      omega
  | busy r rest =>
    rcases rest with _ | ⟨e | change, rest⟩
    · simp only [clientStep, hclient, Option.some.injEq] at h
      subst h
      simp only [reply, rank, clientRank, hclient]
      omega
    · simp only [clientStep, hclient, Option.some.injEq] at h
      subst h
      simp only [reply, rank, clientRank, hclient]
      omega
    · simp only [clientStep, hclient] at h
      split at h
      · next hworker =>
        cases h
        simp only [rank, workerRank, hclient, hworker]
        omega
      · cases h
        exact submit_rank_lt T fs hclient
  | awaiting r change rest i =>
    simp only [clientStep, hclient] at h
    split at h
    · split at h <;> cases h
      · simp only [rank, clientRank, hclient]
        omega
      · simp only [reply, rank, clientRank, hclient]
        omega
    · cases h
    · cases h
      simp only [reply, rank, clientRank, hclient]
      omega
  | awaitingRules =>
    simp only [clientStep, hclient] at h
    split at h <;> cases h
    · simp only [conclude, rank, clientRank, hclient]
      omega
    · simp only [conclude, rank, clientRank, hclient]
      omega
  | leaving =>
    simp only [clientStep, hclient, Option.some.injEq] at h
    subst h
    simp only [Pipe.hangUp, rank, clientRank, hclient]
    omega
  | joining =>
    simp only [clientStep, hclient] at h
    split at h <;> cases h
    simp only [rank, clientRank, hclient]
    omega
  | done =>
    simp only [clientStep, hclient] at h
    cases h

/-- Giving up the commands changes only pipes. -/
theorem abandon_eq (w : Workshop C R) :
    ∃ answers product, w.abandon = { w with commands := w.commands.close, answers, product } := by
  have hfold (commands : List Command) (v : Workshop C R) : ∃ answers product,
      commands.foldl forget v = { v with answers, product } := by
    induction commands generalizing v with
    | nil => exact ⟨v.answers, v.product, rfl⟩
    | cons command rest ih =>
      obtain ⟨answers, product, h⟩ := ih (v.forget command)
      refine ⟨answers, product, h.trans ?_⟩
      cases command <;> rfl
  obtain ⟨answers, product, h⟩ := hfold w.commands.queue { w with commands := w.commands.close }
  exact ⟨answers, product, h⟩

/-- **A step of the worker** brings the end closer. -/
theorem worker_rank_lt {w w' : Workshop C R} (h : workerStep T fs w = some w') :
    w'.rank T fs < w.rank T fs := by
  cases hworker : w.worker with
  | absent =>
    simp only [workerStep, hworker] at h
    cases h
  | starting =>
    simp only [workerStep, hworker, Option.some.injEq] at h
    subst h
    simp only [rank, workerRank, hworker]
    omega
  | ready k =>
    simp only [workerStep, hworker] at h
    split at h
    · next hreceive =>
      have hlength := receive_message hreceive
      cases h
      simp only [rank, workerRank, hworker]
      omega
    · next hreceive =>
      have hlength := receive_message hreceive
      cases h
      simp only [rank, workerRank, hworker]
      omega
    · cases h
    · cases h
      simp only [rank, workerRank, hworker]
      omega
  | applying k change i =>
    simp only [workerStep, hworker, Option.some.injEq] at h
    subst h
    simp only [rank, workerRank, hworker]
    omega
  | answering k answer i =>
    simp only [workerStep, hworker, Option.some.injEq] at h
    subst h
    simp only [rank, workerRank, hworker]
    omega
  | building k =>
    simp only [workerStep, hworker, Option.some.injEq] at h
    subst h
    simp only [rank, workerRank, hworker]
    omega
  | delivering rules =>
    simp only [workerStep, hworker, Option.some.injEq] at h
    subst h
    simp only [rank, workerRank, hworker]
    omega
  | leaving =>
    obtain ⟨answers, product, habandon⟩ := w.abandon_eq
    simp only [workerStep, hworker, habandon, Option.some.injEq] at h
    subst h
    simp only [Pipe.close, rank, workerRank, hworker, List.length_nil]
    omega
  | gone =>
    simp only [workerStep, hworker] at h
    cases h

theorem move_rank_lt {w w' : Workshop C R} {p : Party} (h : move? T fs p w = some w') :
    w'.rank T fs < w.rank T fs := by
  cases p with
  | client => exact client_rank_lt T fs h
  | worker => exact worker_rank_lt T fs h

/-- A workshop after the first turns of an endless run. -/
def stateAt (w : Workshop C R) (run : ℕ → Party) (n : ℕ) : Workshop C R :=
  w.after T fs ((List.range n).map run)

theorem stateAt_succ (w : Workshop C R) (run : ℕ → Party) (n : ℕ) :
    w.stateAt T fs run (n + 1) = (w.stateAt T fs run n).turn T fs (run n) := by
  simp [stateAt, after, List.range_succ]

/-- Later the workshop is the same or closer to its end. -/
theorem stateAt_add (w : Workshop C R) (run : ℕ → Party) (n k : ℕ) :
    w.stateAt T fs run (n + k) = w.stateAt T fs run n ∨
      (w.stateAt T fs run (n + k)).rank T fs < (w.stateAt T fs run n).rank T fs := by
  induction k with
  | zero => exact .inl rfl
  | succ k ih =>
    rw [← Nat.add_assoc, stateAt_succ, turn]
    cases hmove : move? T fs (run (n + k)) (w.stateAt T fs run (n + k)) with
    | none => exact ih
    | some w' =>
      have hlt := move_rank_lt T fs hmove
      rcases ih with hsame | hless
      · exact .inr (hsame ▸ hlt)
      · exact .inr (Nat.lt_trans hlt hless)

/-- An endless run in which each thread gets a turn again and again. -/
def Fair (run : ℕ → Party) : Prop := ∀ p n, ∃ m, n ≤ m ∧ run m = p

/-- **With a fair schedule the client is done at some time.** -/
theorem done_of_fair {w : Workshop C R} {c : Course R} (h : w.Sound T fs c) {run : ℕ → Party}
    (hfair : Fair run) (n : ℕ) :
    ∃ m, (w.stateAt T fs run m).client = .done := by
  induction hrank : (w.stateAt T fs run n).rank T fs using Nat.strongRecOn generalizing n with
  | ind rank ih =>
    by_cases hdone : (w.stateAt T fs run n).client = .done
    · exact ⟨n, hdone⟩
    · -- the thread that can make a step still can when its turn comes, or there was another step
      obtain ⟨p, w', hmove, -⟩ := goesOn_of_sound T fs (after_sound T fs h _) hdone
      obtain ⟨m, hm, hrun⟩ := hfair p n
      obtain ⟨k, rfl⟩ := Nat.exists_eq_add_of_le hm
      rcases stateAt_add T fs w run n k with hsame | hless
      · refine ih _ ?_ (n + k + 1) rfl
        rw [stateAt_succ, turn, hrun, hsame, ← hrank]
        have hlt := move_rank_lt T fs hmove
        rw [stateAt, hmove]
        exact hlt
      · exact ih _ (hrank ▸ hless) (n + k) rfl

/-- A schedule in which the threads take turns. -/
def alternating (n : ℕ) : Party := if n % 2 = 0 then .client else .worker

theorem alternating_fair : Fair alternating := by
  intro p n
  cases p with
  | client => exact ⟨2 * n, by omega, if_pos (by omega)⟩
  | worker => exact ⟨2 * n + 1, by omega, if_neg (by omega)⟩

/-- Whatever has happened so far, the client can still be done. -/
theorem exists_done {w : Workshop C R} {c : Course R} (h : w.Sound T fs c) (turns : List Party) :
    ∃ more, (w.after T fs (turns ++ more)).client = .done := by
  obtain ⟨n, hn⟩ := done_of_fair T fs (after_sound T fs h turns) alternating_fair 0
  refine ⟨(List.range n).map alternating, ?_⟩
  rw [after, List.foldl_append]
  exact hn

end Workshop

/-! ## Workers and compilers at hand -/

/-- What comes of some requests to a collector, told from its steps. -/
theorem Collector.course_eq (ending : Ending) (c : Collector C) (rs : List Request) :
    let last := closing T ending (Action.final (ingest T fs) c rs)
    course T fs ending c rs =
      ⟨(Action.steps (ingest T fs) c rs).map Step.reply,
        (Action.steps (ingest T fs) c rs).flatMap Step.trace ++ last.trace, last.built⟩ := by
  induction rs generalizing c with
  | nil => cases ending <;> rfl
  | cons r rest ih =>
    rw [course, ih]
    simp only [Course.after, Action.steps, List.map_cons, List.flatMap_cons, List.append_assoc]
    rfl

/-- What the build answers with some compiler, if there is a build. -/
def Ending.rules (timeout : Option Duration) (k : C) : Ending → Option (Reply (Ready R))
  | .build => some (.ok { rules := T.build k, timeout })
  | .giveUp => none

/-- What the end of a collector leaves in the trace. -/
def Ending.trace (c : Collector C) : Ending → List Event
  | .build => []
  | .giveUp => c.release

namespace Workshop

/-- How a workshop ends: all replies are those of a compiler at hand, the rules are those of that
compiler, and no worker is left. -/
structure Ended (c : Collector C) (rs : List Request) (ending : Ending) (w : Workshop C R) :
    Prop where
  replies_eq : w.replies = (Action.steps (T.direct fs) (c.hand T) rs).map Step.reply
  trace_eq : w.trace = (Action.steps (Collector.ingest T fs) c rs).flatMap Step.trace ++
    ending.trace (Action.final (Collector.ingest T fs) c rs)
  built_eq : w.built = ending.rules T c.timeout (Action.final (T.direct fs) (c.hand T) rs)
  worker_eq : w.worker = .absent ∨ w.worker = .gone

/-- How a workshop goes on, at any time. -/
structure AsDirect (c : Collector C) (rs : List Request) (ending : Ending) (w : Workshop C R) :
    Prop where
  /-- The requests made so far were answered as they are by a compiler at hand. -/
  replies_first : w.replies <+: (Action.steps (T.direct fs) (c.hand T) rs).map Step.reply
  trace_first : w.trace <+: (Action.steps (Collector.ingest T fs) c rs).flatMap Step.trace ++
    ending.trace (Action.final (Collector.ingest T fs) c rs)
  /-- An answer on its way is in the pipe that the client waits at, and it is the answer to the
  change that the client waits for. -/
  own_answer : ∀ i answer, answer ∈ (w.answers i).queue →
    ∃ r change rest, w.client = .awaiting r change rest i ∧
      w.trace.getLast? = some (.change change answer)
  never_lost : .error workerLost ∉ w.replies ∧ w.built ≠ some (.error workerLost)
  of_done : w.client = .done → w.Ended T fs c rs ending

theorem course_direct (ending : Ending) (c : Collector C) (rs : List Request) :
    Collector.course T fs ending c rs =
      ⟨(Action.steps (T.direct fs) (c.hand T) rs).map Step.reply,
        (Action.steps (Collector.ingest T fs) c rs).flatMap Step.trace ++
          ending.trace (Action.final (Collector.ingest T fs) c rs),
        ending.rules T c.timeout (Action.final (T.direct fs) (c.hand T) rs)⟩ := by
  obtain ⟨hreplies, hhand, htimeout⟩ := Collector.steps_direct T fs rs c
  rw [Collector.course_eq, hreplies, ← hhand, ← htimeout]
  cases ending <;> rfl

theorem direct_not_lost (k : C) (rs : List Request) :
    .error workerLost ∉ (Action.steps (T.direct fs) k rs).map Step.reply := by
  intro hmem
  obtain ⟨step, hstep, hreply⟩ := List.mem_map.1 hmem
  obtain ⟨r, u, rfl⟩ := Action.mem_steps hstep
  obtain ⟨fault, hfault⟩ := direct_error T fs hreply
  cases hfault

theorem asDirect_of_sound {c : Collector C} {rs : List Request} {ending : Ending}
    {w : Workshop C R} (h : w.Sound T fs (Collector.course T fs ending c rs)) :
    w.AsDirect T fs c rs ending := by
  have hcourse := course_direct T fs ending c rs
  obtain ⟨later, hlater⟩ := h.exists_coming
  have hfirst := congrArg Course.replies (hlater.symm.trans hcourse)
  have htrace := congrArg Course.trace (hlater.symm.trans hcourse)
  refine ⟨⟨_, hfirst⟩, ⟨_, htrace⟩, fun i answer ha => h.own_answer T fs ha,
    ⟨fun hmem => ?_, fun hlost => ?_⟩, fun hdone => ?_⟩
  · have hsome : w.replies <+: _ := ⟨_, hfirst⟩
    exact direct_not_lost T fs _ rs (hsome.subset hmem)
  · rcases h.built_eq with hnone | heq
    · rw [hnone] at hlost
      cases hlost
    · rw [heq, hcourse] at hlost
      cases ending <;> cases hlost
  · obtain ⟨hw, hworker⟩ := h.of_done T fs hdone
    rw [hw] at hcourse
    exact ⟨congrArg Course.replies hcourse, congrArg Course.trace hcourse,
      congrArg Course.built hcourse, hworker⟩

/-- How a client with a worker compares with a compiler at hand. -/
structure Refines (c : Collector C) (rs : List Request) (ending : Ending) : Prop where
  as_direct : ∀ turns, ((ofCollector c rs ending).after T fs turns).AsDirect T fs c rs ending
  done_of_fair : ∀ run, Fair run →
    ∃ n, ((ofCollector c rs ending).stateAt T fs run n).client = .done
  exists_done : ∀ turns, ∃ more,
    ((ofCollector c rs ending).after T fs (turns ++ more)).client = .done
  /-- Whether the worker was started before it is needed makes no difference. -/
  early_or_late : ∀ turns turns',
    let late := (ofCollector { c with compiler := none } rs ending).after T fs turns
    let early := (ofCollector { c with compiler := some (T.start c.options) } rs ending).after T fs
      turns'
    late.client = .done → early.client = .done →
      late.replies = early.replies ∧ late.built = early.built

/-- **A worker does what a compiler does that is at hand**: for every toolchain and tree of files,
every collector and all requests to it, and for every schedule of the client and the worker, each
request is answered as it is by a compiler at hand that takes the requests in order; no answer goes
anywhere but to the client that waits for it, and the worker is never lost; the build gives the
rules of that compiler, and a collector that is given up leaves no worker behind. With a fair
schedule the client comes to the end of all that. -/
theorem worker_refines (c : Collector C) (rs : List Request) (ending : Ending) :
    Refines T fs c rs ending := by
  have hsound (c : Collector C) := sound_ofCollector T fs c rs ending
  have hdirect (c : Collector C) (turns : List Party) :=
    asDirect_of_sound T fs (after_sound T fs (hsound c) turns)
  refine ⟨hdirect c, fun run hfair => Workshop.done_of_fair T fs (hsound c) hfair 0,
    Workshop.exists_done T fs (hsound c), ?_⟩
  intro turns turns' late early hlate hearly
  have hended := (hdirect { c with compiler := none } turns).of_done hlate
  have hended' := (hdirect { c with compiler := some (T.start c.options) } turns').of_done hearly
  refine ⟨hended.replies_eq.trans hended'.replies_eq.symm, ?_⟩
  exact hended.built_eq.trans hended'.built_eq.symm

end Workshop

end RuleScan.Rules
