import RuleScan.Proofs.Rules.Hand
import RuleScan.Proofs.Session.Lifecycle
import RuleScan.Scripted

/-!
# Rejected operations can be left out

An operation that asks for one thing and is refused leaves a session as it was, if its compiler does
so (`state_of_rejected`). Hence it can be left out of a run: the other operations do what they did,
and the session ends as it did (`run_remaining`). A collector keeps one trace of a rejected request,
that its compiler works by then; but it cannot be told from one whose compiler works from the start
(`outcomes_mirror`), and so nothing that can be seen changes there either where rejected operations
are left out (`erased`).
-/

namespace RuleScan

open Rules

/-- Whether a reply is a failure. -/
def Reply.isError : Reply α → Bool
  | error _ => true
  | _ => false

variable {κ ν β ω : Type}

/-- The backend that a phase holds. -/
def Phase.backend? : Phase κ β → Option β
  | .built b => some b
  | _ => none

namespace Scripted

theorem look_keeps (p : Compiler → Prop) (c : Compiler) (what text : String) :
    Action.Keeps p (look c what text) := by
  refine Action.Keeps.bind (fun _ h => h) fun _ => ?_
  split
  · exact fun _ h => h
  · split
    · exact fun _ h => h
    · exact .pure ()

/-- A scripted compiler is never changed. -/
theorem ingest_keeps (p : Compiler → Prop) (r : Request) : Action.Keeps p (ingest r) := by
  refine Action.Keeps.bind (fun _ h => h) fun c => ?_
  cases r with
  | space name => exact (look_keeps p c _ name).bind fun _ => .pure 0
  | source text => exact (look_keeps p c _ text).bind fun _ => .pure 0
  | file path => exact (look_keeps p c _ path).bind fun _ => .pure 0
  | paths paths spacePerFile =>
    exact (Action.Keeps.forEach (look_keeps p c _) paths).bind fun _ => .pure _
  | ignoreModule module => exact fun _ h => h
  | define name value => exact fun _ h => h

theorem engine_steady : engine.Steady := fun r c _ _ _ => ingest_keeps (· = c) r c rfl

end Scripted

namespace Session

/-! ## Rejected operations -/

/-- Whether an operation asks the compiler for one thing. -/
def Operation.isSingle : Operation → Bool
  | addNamespace _ => true
  | addSource _ => true
  | addFile list => match splitPaths list with
    | .ok [_] => true
    | _ => false
  | ignoreModule _ => true
  | define _ _ => true
  | _ => false

/-- Whether the operation of a turn asked for one thing and failed. -/
def Turn.isRejected (t : Turn κ β) : Bool := t.op.isSingle && t.step.reply.isError

/-- An operation that asks for one thing makes one request, and does nothing that can fail
afterwards. -/
theorem perform_single (E : Engine κ β) {op : Operation} (h : op.isSingle) :
    ∃ r f, r.isBulk = false ∧ perform E op = (request E r).bind f ∧
      ∀ n s, (f n s).reply = .ok .done := by
  cases op with
  | addNamespace name =>
    exact ⟨.space name, _, rfl, Action.bind_assoc _ _ _, fun _ _ => rfl⟩
  | addSource text =>
    exact ⟨.source text, _, rfl, Action.bind_assoc _ _ _, fun _ _ => rfl⟩
  | addFile list =>
    obtain ⟨path, hpaths⟩ : ∃ path, splitPaths list = .ok [path] := by
      rw [Operation.isSingle] at h
      split at h
      · next path hpaths => exact ⟨path, hpaths⟩
      · cases h
    have haddFile : addFile E list = (addOneFile E path).bind fun _ => .pure () := by
      change (Action.ofExcept ((splitPaths list).mapError .input)).bind _ = _
      rw [hpaths]
      exact Action.bind_assoc _ _ _
    refine ⟨.file path, fun _ => answering (fun _ => .done) (count 1), rfl, ?_, fun _ _ => rfl⟩
    change answering _ (addFile E list) = _
    rw [haddFile, answering, Action.bind_assoc, addOneFile]
    exact Action.bind_assoc _ _ _
  | ignoreModule module =>
    exact ⟨.ignoreModule module, _, rfl, Action.bind_assoc _ _ _, fun _ _ => rfl⟩
  | define name value =>
    exact ⟨.define name value, _, rfl, Action.bind_assoc _ _ _, fun _ _ => rfl⟩
  | _ => cases h

/-- All that a rejected operation did is the request that failed. -/
theorem request_of_rejected (E : Engine κ β) {op : Operation} {s : Session κ β}
    (h : Turn.isRejected ⟨op, s, perform E op s⟩) :
    ∃ r, r.isBulk = false ∧ (request E r s).reply.isError ∧
      (perform E op s).state = (request E r s).state ∧
      (perform E op s).trace = (request E r s).trace := by
  obtain ⟨hop, herror⟩ := Bool.and_eq_true_iff.1 h
  obtain ⟨r, f, hsingle, hperform, hf⟩ := perform_single E hop
  dsimp only at herror
  rw [hperform] at herror ⊢
  refine ⟨r, hsingle, ?_⟩
  rcases hreply : (request E r s).reply with n | e | words
  · rw [Action.bind_of_ok hreply, hf] at herror
    cases herror
  · rw [Action.bind_of_error hreply]
    exact ⟨rfl, rfl, rfl⟩
  · rw [Action.bind_of_crash hreply] at herror
    cases herror

/-- A request that fails in a session is one that the compiler rejects, if there is one. -/
theorem ingest_of_request {E : Engine κ β} {r : Request} {c : κ} {space : Option String}
    {sources : Nat} (h : (request E r ⟨.ingesting c, space, sources⟩).reply.isError) :
    ∃ e, (E.ingest r c).reply = .error e := by
  change (E.ingest r c).reply.isError at h
  rcases hreply : (E.ingest r c).reply with n | e | words
  · rw [hreply] at h
    cases h
  · exact ⟨e, rfl⟩
  · rw [hreply] at h
    cases h

/-- **A rejected operation** leaves a session over a steady engine as it was. -/
theorem state_of_rejected {E : Engine κ β} (hE : E.Steady) {op : Operation} {s : Session κ β}
    (h : Turn.isRejected ⟨op, s, perform E op s⟩) : (perform E op s).state = s := by
  obtain ⟨r, hsingle, herror, hstate, -⟩ := request_of_rejected E h
  rw [hstate]
  obtain ⟨phase, space, sources⟩ := s
  cases phase with
  | ingesting c =>
    obtain ⟨e, hreply⟩ := ingest_of_request herror
    change Session.mk (.ingesting (E.ingest r c).state) space sources = _
    rw [hE r c e hsingle hreply]
  | built b => rfl
  | buildFailed => rfl
  | closed => rfl

/-! ## Runs -/

/-- The turns of a session that is asked some operations. Its engine may be another one for each of
them, as the files are that it reads. -/
def run (E : ω → Engine κ β) : Session κ β → List (ω × Operation) → List (ω × Turn κ β)
  | _, [] => []
  | s, (w, op) :: rest =>
    (w, ⟨op, s, perform (E w) op s⟩) :: run E (perform (E w) op s).state rest

/-- The session that is left. -/
def finish (E : ω → Engine κ β) (s : Session κ β) (ops : List (ω × Operation)) : Session κ β :=
  ops.foldl (fun s o => (perform (E o.1) o.2 s).state) s

/-- The turns of a run that were not rejected. -/
def kept (turns : List (ω × Turn κ β)) : List (ω × Turn κ β) := turns.filter (! ·.2.isRejected)

/-- What remains of a run where all rejected operations are left out. -/
def remaining (E : ω → Engine κ β) (s : Session κ β) (ops : List (ω × Operation)) :
    List (ω × Operation) :=
  (kept (run E s ops)).map fun t => (t.1, t.2.op)

theorem remaining_cons (E : ω → Engine κ β) (s : Session κ β) (w : ω) (op : Operation)
    (rest : List (ω × Operation)) :
    remaining E s ((w, op) :: rest) =
      if Turn.isRejected ⟨op, s, perform (E w) op s⟩ then
        remaining E (perform (E w) op s).state rest
      else (w, op) :: remaining E (perform (E w) op s).state rest := by
  rw [remaining, run, kept, List.filter_cons]
  cases Turn.isRejected ⟨op, s, perform (E w) op s⟩ <;> rfl

theorem kept_run_cons (E : ω → Engine κ β) (s : Session κ β) (w : ω) (op : Operation)
    (rest : List (ω × Operation)) :
    kept (run E s ((w, op) :: rest)) =
      if Turn.isRejected ⟨op, s, perform (E w) op s⟩ then
        kept (run E (perform (E w) op s).state rest)
      else (w, ⟨op, s, perform (E w) op s⟩) :: kept (run E (perform (E w) op s).state rest) := by
  rw [run, kept, List.filter_cons]
  cases Turn.isRejected ⟨op, s, perform (E w) op s⟩ <;> rfl

/-- **Rejected operations can be left out**: the others are the same turns as before. -/
theorem run_remaining {E : ω → Engine κ β} (hE : ∀ w, (E w).Steady) (s : Session κ β)
    (ops : List (ω × Operation)) :
    run E s (remaining E s ops) = kept (run E s ops) ∧
      finish E s (remaining E s ops) = finish E s ops := by
  induction ops generalizing s with
  | nil => exact ⟨rfl, rfl⟩
  | cons o rest ih =>
    obtain ⟨w, op⟩ := o
    obtain ⟨hrun, hfinish⟩ := ih (perform (E w) op s).state
    have hlast : finish E s ((w, op) :: rest) = finish E (perform (E w) op s).state rest := rfl
    rw [remaining_cons, kept_run_cons, hlast]
    split
    next hrejected =>
      rw [state_of_rejected (hE w) hrejected] at hrun hfinish ⊢
      exact ⟨hrun, hfinish⟩
    next => exact ⟨congrArg _ hrun, hfinish⟩

/-! ## Requests that are accepted -/

/-- Those of some requests, made one after the other, that a compiler accepts. -/
def acceptedOf (E : Engine κ β) : κ → List Request → List Request
  | _, [] => []
  | c, r :: rest =>
    (if (E.ingest r c).reply.isOk then [r] else []) ++ acceptedOf E (E.ingest r c).state rest

/-- The requests of a turn that the compiler accepted. -/
def Turn.accepted (E : Engine κ β) (t : Turn κ β) : List Request :=
  match t.before.phase with
  | .ingesting c => acceptedOf E c (ingested (calls t.step.trace))
  | _ => []

/-- The requests of a run that the compiler accepted. -/
def acceptedRequests (E : ω → Engine κ β) (turns : List (ω × Turn κ β)) : List Request :=
  turns.flatMap fun t => t.2.accepted (E t.1)

/-- Nothing of a rejected operation was accepted. -/
theorem accepted_of_rejected {E : Engine κ β} {op : Operation} {s : Session κ β}
    (h : Turn.isRejected ⟨op, s, perform E op s⟩) :
    Turn.accepted E ⟨op, s, perform E op s⟩ = [] := by
  obtain ⟨r, -, herror, -, htrace⟩ := request_of_rejected E h
  rw [Turn.accepted]
  dsimp only
  rw [htrace]
  obtain ⟨phase, space, sources⟩ := s
  cases phase with
  | ingesting c =>
    obtain ⟨e, hreply⟩ := ingest_of_request herror
    have hcalls : calls (request E r ⟨.ingesting c, space, sources⟩).trace = [.ingest r] :=
      congrArg _ (E.ingest_silent r c)
    rw [hcalls]
    change acceptedOf E c [r] = []
    rw [acceptedOf, hreply]
    rfl
  | built b => rfl
  | buildFailed => rfl
  | closed => rfl

/-- Each turn of a run is an operation that was carried out. -/
theorem step_of_mem_run {E : ω → Engine κ β} {s : Session κ β} {ops : List (ω × Operation)}
    {t : ω × Turn κ β} (ht : t ∈ run E s ops) :
    t.2.step = perform (E t.1) t.2.op t.2.before := by
  induction ops generalizing s with
  | nil => cases ht
  | cons o rest ih =>
    rcases List.mem_cons.1 ht with rfl | ht
    · rfl
    · exact ih ht

/-- What rejected turns have no part in is found in the others. -/
theorem flatMap_kept {γ : Type} {f : ω × Turn κ β → List γ} {turns : List (ω × Turn κ β)}
    (h : ∀ t ∈ turns, t.2.isRejected → f t = []) : (kept turns).flatMap f = turns.flatMap f := by
  induction turns with
  | nil => rfl
  | cons t rest ih =>
    obtain ⟨hfirst, hrest⟩ := List.forall_mem_cons.1 h
    have hkept := ih hrest
    rw [kept] at hkept ⊢
    rw [List.filter_cons, List.flatMap_cons]
    cases hrejected : t.2.isRejected with
    | true =>
      rw [hfirst hrejected]
      exact hkept
    | false => exact congrArg (f t ++ ·) hkept

/-- What is the same where all rejected operations are left out of a run. -/
structure Erases (E : ω → Engine κ β) (s : Session κ β) (ops : List (ω × Operation)) : Prop where
  /-- The others find the session as they found it, and do what they did. -/
  turns : run E s (remaining E s ops) = kept (run E s ops)
  /-- The session is left as it was left. -/
  session : finish E s (remaining E s ops) = finish E s ops
  /-- The compiler accepts what it accepted. -/
  requests : acceptedRequests E (run E s (remaining E s ops)) = acceptedRequests E (run E s ops)

theorem erases {E : ω → Engine κ β} (hE : ∀ w, (E w).Steady) (s : Session κ β)
    (ops : List (ω × Operation)) : Erases E s ops where
  turns := (run_remaining hE s ops).1
  session := (run_remaining hE s ops).2
  requests := by
    rw [(run_remaining hE s ops).1]
    refine flatMap_kept fun t ht hrejected => ?_
    obtain ⟨w, op, before, step⟩ := t
    obtain rfl : step = perform (E w) op before := step_of_mem_run ht
    exact accepted_of_rejected hrejected

/-! ## What can be seen of a run -/

/-- What can be seen of a session: all but its compiler. -/
structure Outline (β : Type) where
  status : Status
  space : Option String
  sources : Nat
  /-- What was built, as long as the session has it. -/
  built : Option β

/-- What can be seen of a session. -/
def outline (s : Session κ β) : Outline β :=
  { status := s.status, space := s.space, sources := s.sources, built := s.phase.backend? }

theorem outline_mapCompiler (read : κ → ν) (s : Session κ β) :
    outline (mapCompiler read s) = outline s := by
  obtain ⟨phase, space, sources⟩ := s
  cases phase <;> rfl

/-- What can be seen of a turn: all that happens in it but for log lines, its reply, and what can be
seen of the session that it leaves. -/
structure Outcome (ω β : Type) where
  world : ω
  op : Operation
  reply : Reply Answer
  happened : List Event
  left : Outline β

/-- What can be seen of a turn. -/
def outcome (t : ω × Turn κ β) : Outcome ω β :=
  { world := t.1
    op := t.2.op
    reply := t.2.step.reply
    happened := happenings t.2.step.trace
    left := outline t.2.step.state }

/-- Whether the operation asked for one thing and failed. -/
def Outcome.isRejected (o : Outcome ω β) : Bool := o.op.isSingle && o.reply.isError

theorem outcomes_kept (turns : List (ω × Turn κ β)) :
    (kept turns).map outcome = (turns.map outcome).filter (! ·.isRejected) := by
  rw [kept, List.filter_map]
  rfl

/-- What remains of a run can be told by what can be seen of it. -/
theorem remaining_eq (E : ω → Engine κ β) (s : Session κ β) (ops : List (ω × Operation)) :
    remaining E s ops =
      (((run E s ops).map outcome).filter (! ·.isRejected)).map fun o => (o.world, o.op) := by
  rw [← outcomes_kept, List.map_map]
  rfl

/-- The changes that compilers were handed in some turns and accepted. -/
def acceptedChanges (turns : List (ω × Turn κ β)) : List (Change × Option String) :=
  turns.flatMap fun t => (handed t.2.step.trace).filter (·.2.isNone)

theorem acceptedChanges_eq (turns : List (ω × Turn κ β)) :
    acceptedChanges turns =
      (turns.map outcome).flatMap fun o => (handed o.happened).filter (·.2.isNone) := by
  rw [List.flatMap_map]
  simp only [outcome, handed_happenings]
  rfl

/-- **Engines that mirror one another** cannot be told apart in a run. -/
theorem outcomes_mirror {E : ω → Engine κ β} {D : ω → Engine ν β} {read : κ → ν}
    (h : ∀ w, (E w).Mirrors (D w) read) (s : Session κ β) (ops : List (ω × Operation)) :
    (run E s ops).map outcome = (run D (mapCompiler read s) ops).map outcome ∧
      mapCompiler read (finish E s ops) = finish D (mapCompiler read s) ops := by
  induction ops generalizing s with
  | nil => exact ⟨rfl, rfl⟩
  | cons o rest ih =>
    obtain ⟨w, op⟩ := o
    obtain ⟨hreply, hstate, hhappen⟩ := perform_mirrors (h w) op s
    obtain ⟨hrun, hfinish⟩ := ih (perform (E w) op s).state
    rw [hstate] at hrun hfinish
    have hfirst : outcome (w, Turn.mk op s (perform (E w) op s)) =
        outcome (w, Turn.mk op (mapCompiler read s) (perform (D w) op (mapCompiler read s))) := by
      rw [outcome, outcome, hreply, hhappen, ← outline_mapCompiler read, hstate, Reply.map_id]
    refine ⟨?_, hfinish⟩
    rw [run, run, List.map_cons, List.map_cons, hfirst, hrun]

/-! ## Collectors -/

section Toolchain

variable {C R : Type} {T : Toolchain C R}

/-- What is the same in sight where all rejected operations are left out of a run. -/
structure ErasesInSight (E : ω → Engine κ β) (s : Session κ β) (ops : List (ω × Operation)) :
    Prop where
  /-- The others are answered as before, and what is done in them is the same. -/
  outcomes : (run E s (remaining E s ops)).map outcome = (kept (run E s ops)).map outcome
  /-- The session has the status, the namespace, the number of sources and the rules that it had. -/
  session : outline (finish E s (remaining E s ops)) = outline (finish E s ops)
  /-- The compiler accepts the changes that it accepted. -/
  changes : acceptedChanges (run E s (remaining E s ops)) = acceptedChanges (run E s ops)

/-- Of a rejected operation no change was accepted. -/
theorem changes_of_rejected (hT : T.Steady) (fs : Files) {op : Operation}
    {s : Session (Hand C) (Ready R)}
    (h : Turn.isRejected ⟨op, s, perform (T.atHand fs) op s⟩) :
    (handed (perform (T.atHand fs) op s).trace).filter (·.2.isNone) = [] := by
  obtain ⟨r, hsingle, herror, -, htrace⟩ := request_of_rejected (T.atHand fs) h
  rw [htrace]
  obtain ⟨phase, space, sources⟩ := s
  cases phase with
  | ingesting c =>
    obtain ⟨e, hreply⟩ := ingest_of_request herror
    exact (hT.direct fs hsingle hreply).2
  | built b => rfl
  | buildFailed => rfl
  | closed => rfl

theorem erasesInSight (hT : T.Steady) (s : Session (Collector C) (Ready R))
    (ops : List (Files × Operation)) : ErasesInSight T.engine s ops := by
  have hmirror := outcomes_mirror T.engine_mirrors s
  have hremaining : remaining T.engine s ops =
      remaining T.atHand (mapCompiler (Collector.inHand T) s) ops := by
    rw [remaining_eq, remaining_eq, (hmirror ops).1]
  have hsteady := run_remaining (fun fs => hT.atHand fs) (mapCompiler (Collector.inHand T) s) ops
  rw [← hremaining] at hsteady
  refine ⟨?_, ?_, ?_⟩
  · rw [(hmirror _).1, hsteady.1, outcomes_kept, outcomes_kept, (hmirror ops).1]
  · rw [← outline_mapCompiler (Collector.inHand T), (hmirror _).2, hsteady.2, ← (hmirror ops).2,
      outline_mapCompiler]
  · rw [acceptedChanges_eq, (hmirror _).1, ← acceptedChanges_eq, hsteady.1,
      acceptedChanges_eq (run T.engine s ops), (hmirror ops).1, ← acceptedChanges_eq]
    refine flatMap_kept fun t ht hrejected => ?_
    obtain ⟨fs, op, before, step⟩ := t
    obtain rfl : step = perform (T.atHand fs) op before := step_of_mem_run ht
    exact changes_of_rejected hT fs hrejected

end Toolchain

/-- **Rejected operations leave no trace.** Left out of a run over steady engines, they change
nothing. Left out of a run over the compilers of a steady toolchain, they change nothing that can be
seen, even if a compiler started to work with one of them. -/
theorem erased {C R : Type} {E : ω → Engine κ β} (hE : ∀ w, (E w).Steady) {T : Toolchain C R}
    (hT : T.Steady) :
    (∀ s ops, Erases E s ops) ∧
      ∀ (s : Session (Collector C) (Ready R)) ops, ErasesInSight T.engine s ops :=
  ⟨erases hE, erasesInSight hT⟩

/-! ## A run with mistakes -/

/-- A missing file, a source that breaks off and a blank namespace before a source without
mistakes. The broken source is the first that a compiler is handed. -/
def mistakes : List (Files × Operation) :=
  [(.empty, .addFile "m"), (.empty, .addSource "rule"), (.empty, .addNamespace " "),
    (.empty, .addSource "rule a \x7b condition: true \x7d"), (.empty, .build true)]

theorem missing_file_left_out :
    remaining toolchain.careful.engine (ofCompiler {}) mistakes =
      remaining toolchain.careful.engine (ofCompiler {}) mistakes.tail := by
  have hpaths : splitPaths "m" = .ok ["m"] := by cbv
  have hperform : perform (toolchain.careful.engine .empty) (.addFile "m") (ofCompiler {}) =
      ⟨.error (.compile (.unreadable "m" .notFound)), ofCompiler {},
        [.call (.ingest (.file "m"))]⟩ := by
    rw [perform, addFile, hpaths]
    rfl
  rw [mistakes, remaining_cons, hperform]
  simp [Turn.isRejected, Operation.isSingle, hpaths, Reply.isError]

theorem mistakes_erased :
    Scripted.engine.Steady ∧ toolchain.careful.Steady ∧
      (remaining toolchain.careful.engine (ofCompiler {}) mistakes).length = 2 ∧
      ErasesInSight toolchain.careful.engine (ofCompiler {}) mistakes := by
  have herased := erased (E := fun _ : Unit => Scripted.engine) (fun _ => Scripted.engine_steady)
    toolchain.careful_steady
  refine ⟨Scripted.engine_steady, toolchain.careful_steady, ?_, herased.2 _ _⟩
  rw [missing_file_left_out]
  decide +kernel

end Session

end RuleScan
