import RuleScan.Proofs.Session.Operation

/-!
# The life of a session

Whatever a session is asked, in whatever order, and whichever of the parts it works with fail or
crash, these parts see calls of one form only (`Legal`): requests to the compiler, at most one
build, uses of the backend that was built, and one release of each part that there was. Which calls
were made so far goes with the phase (`Reached`); one operation keeps this (`Reached.step`), and so
does a run (`Reached.run`). The main result is `run_legal`, which also says how the status moves,
which requests an operation makes, and what closing answers.
-/

namespace RuleScan.Session

variable {κ β : Type} (E : Engine κ β)

/-- A session that starts with a compiler or with a backend. -/
def start : κ ⊕ β → Session κ β
  | .inl c => ofCompiler c
  | .inr b => ofBackend b

theorem start_open (o : κ ⊕ β) : (start o).status ≠ .closed := by
  cases o with
  | inl c => exact fun h => by cases h
  | inr b => exact fun h => by cases h

/-! ## Legal calls -/

/-- The calls up to the point where there is a backend: it was built, or it was there at the start.
A compiler is given up as soon as it has built. -/
inductive Opened : κ ⊕ β → List Call → Prop
  | built {c : κ} {rs : List Request} {b : β} (hb : (E.build (ingestAll E c rs)).reply = .ok b) :
      Opened (.inl c) (rs.map .ingest ++ [.build, .releaseCompiler])
  | given (b : β) : Opened (.inr b) []

/-- All calls in the life of a session. -/
inductive Legal : κ ⊕ β → List Call → Prop
  /-- The compiler never built. -/
  | unbuilt (c : κ) (rs : List Request) : Legal (.inl c) (rs.map .ingest ++ [.releaseCompiler])
  /-- The compiler failed or crashed when it should build. -/
  | broken {c : κ} {rs : List Request} (hb : (E.build (ingestAll E c rs)).reply.isOk = false) :
      Legal (.inl c) (rs.map .ingest ++ [.build, .releaseCompiler])
  /-- There was a backend, which was used and given up. -/
  | used {o : κ ⊕ β} {cs us : List Call} (h : Opened E o cs) (hus : ∀ u ∈ us, isUse u) :
      Legal o (cs ++ us ++ [.releaseBackend])

/-- The calls with which a session comes to a phase. -/
inductive Reached : κ ⊕ β → List Call → Phase κ β → Prop
  | ingesting (c : κ) (rs : List Request) :
      Reached (.inl c) (rs.map .ingest) (.ingesting (ingestAll E c rs))
  | built {o : κ ⊕ β} {cs us : List Call} (h : Opened E o cs) (hus : ∀ u ∈ us, isUse u) (b : β) :
      Reached o (cs ++ us) (.built b)
  | buildFailed {o : κ ⊕ β} {cs : List Call} (h : Legal E o cs) : Reached o cs .buildFailed
  | closed {o : κ ⊕ β} {cs : List Call} (h : Legal E o cs) : Reached o cs .closed

namespace Reached

variable {E} {o : κ ⊕ β} {cs ds : List Call} {phase phase' : Phase κ β} {op : Operation}
  {r : Reply Answer}

theorem start (o : κ ⊕ β) : Reached E o [] (Session.start o).phase := by
  cases o with
  | inl c => exact .ingesting c []
  | inr b =>
    have hnone : ∀ u ∈ ([] : List Call), isUse u := by simp
    exact .built (.given b) hnone b

/-- Giving up what a phase holds completes the calls. -/
theorem legal (h : Reached E o cs phase) : Legal E o (cs ++ calls (releaseTrace E phase)) := by
  cases h with
  | ingesting c rs =>
    have hrelease : calls (releaseTrace E (.ingesting (ingestAll E c rs) : Phase κ β)) =
        [.releaseCompiler] := congrArg _ (E.releaseCompiler_silent _)
    rw [hrelease]
    exact .unbuilt c rs
  | built h hus b =>
    have hrelease : calls (releaseTrace E (.built b : Phase κ β)) = [.releaseBackend] :=
      congrArg _ (E.releaseBackend_silent b)
    rw [hrelease]
    exact .used h hus
  | buildFailed h =>
    rw [releaseTrace, calls_nil, List.append_nil]
    exact h
  | closed h =>
    rw [releaseTrace, calls_nil, List.append_nil]
    exact h

/-- **One operation** leads from calls that go with the phase to calls that go with the next. -/
theorem step (h : Reached E o cs phase) (he : Effect E op phase r phase' ds) :
    Reached E o (cs ++ ds) phase' := by
  cases he with
  | @collect c done r hop hop' hdone hall =>
    cases h with
    | ingesting c rs =>
      rw [← List.map_append, ingestAll, ingestAll, ← List.foldl_append]
      exact .ingesting c (rs ++ done)
  | use hop hop' hreq hu =>
    cases h with
    | built h hus b =>
      rw [List.append_assoc]
      refine .built h (fun u hmem => ?_) _
      rcases List.mem_append.1 hmem with hmem | hmem
      · exact hus u hmem
      · rw [List.mem_singleton.1 hmem]
        exact hu
  | @install c b b' us a hop hb hus =>
    cases h with
    | ingesting c rs =>
      have hbuilt := Reached.built (.built hb) hus b'
      rw [List.append_assoc] at hbuilt
      exact hbuilt
  | @giveUp c b us r hop hb hus hr =>
    cases h with
    | ingesting c rs =>
      have hused := Legal.used (.built hb) hus
      rw [List.append_assoc, List.append_assoc] at hused
      exact .buildFailed hused
  | breakDown hop hb hr =>
    cases h with
    | ingesting c rs => exact .buildFailed (.broken hb)
  | close hop hphase => exact .closed h.legal
  | idle hbuild hclose hreq =>
    rw [List.append_nil]
    exact h

/-- **A run** does so as well. -/
theorem run {s : Session κ β} (h : Reached E o cs s.phase) (ops : List Operation) :
    Reached E o (cs ++ calls (history E s ops)) (after E s ops).phase := by
  induction ops generalizing s cs with
  | nil =>
    rw [history, turns, List.flatMap_nil, calls_nil, List.append_nil]
    exact h
  | cons op rest ih =>
    rw [history, turns, List.flatMap_cons, calls_append, ← List.append_assoc]
    exact ih (h.step (perform_effect E op s))

end Reached

theorem drop_calls (s : Session κ β) : calls (drop E s) = calls (releaseTrace E s.phase) := by
  obtain ⟨phase, space, sources⟩ := s
  cases phase <;> rfl

/-! ## What a turn does -/

/-- The requests among some calls. -/
def ingested (cs : List Call) : List Request :=
  cs.filterMap fun c => match c with
    | .ingest r => some r
    | _ => none

/-- The status that an operation leads to; building is the only one for which it matters how it
ends. -/
def nextStatus (op : Operation) (ok : Bool) (status : Status) : Status :=
  if op.isClose then .closed
  else if op.isBuild ∧ status = .ingesting then (if ok then .built else .buildFailed)
  else status

/-- A step of the status. -/
inductive Forward : Status → Status → Prop
  | build : Forward .ingesting .built
  | breakDown : Forward .ingesting .buildFailed
  | close {status : Status} (h : status ≠ .closed) : Forward status .closed

theorem nextStatus_forward (op : Operation) (ok : Bool) (status : Status) :
    nextStatus op ok status = status ∨ Forward status (nextStatus op ok status) := by
  unfold nextStatus
  split
  · by_cases hs : status = .closed
    · exact .inl hs.symm
    · exact .inr (.close hs)
  · split
    · next h =>
      obtain ⟨-, rfl⟩ := h
      cases ok with
      | true => exact .inr .build
      | false => exact .inr .breakDown
    · exact .inl rfl

theorem Operation.isClose_of_isBuild {op : Operation} (h : op.isBuild) : op.isClose = false := by
  cases op with
  | build announce => rfl
  | _ => cases h

theorem Operation.requests_of_isBuild {op : Operation} (h : op.isBuild) : op.requests = [] := by
  cases op with
  | build announce => rfl
  | _ => cases h

theorem Operation.requests_of_isClose {op : Operation} (h : op.isClose) : op.requests = [] := by
  cases op with
  | close => rfl
  | _ => cases h

theorem ingested_map (rs : List Request) : ingested (rs.map .ingest) = rs := by
  induction rs with
  | nil => rfl
  | cons r rest ih => exact congrArg (r :: ·) ih

theorem ingested_of_uses {us : List Call} (hus : ∀ u ∈ us, isUse u) : ingested us = [] := by
  refine List.filterMap_eq_nil_iff.2 fun u hu => ?_
  have h := hus u hu
  cases u with
  | ingest r => cases h
  | _ => rfl

theorem ingested_releaseTrace (phase : Phase κ β) :
    ingested (calls (releaseTrace E phase)) = [] := by
  cases phase with
  | ingesting c => rw [releaseTrace, calls_call, E.releaseCompiler_silent]; rfl
  | built b => rw [releaseTrace, calls_call, E.releaseBackend_silent]; rfl
  | buildFailed => rfl
  | closed => rfl

namespace Effect

variable {E} {op : Operation} {phase phase' : Phase κ β} {r : Reply Answer} {cs : List Call}

theorem status_eq (he : Effect E op phase r phase' cs) :
    phase'.status = nextStatus op r.isOk phase.status := by
  cases he with
  | collect hop hop' hdone hall => simp [nextStatus, hop, hop', Phase.status]
  | use hop hop' hreq hu => simp [nextStatus, hop, hop', Phase.status]
  | install hop hb hus =>
    simp [nextStatus, hop, Operation.isClose_of_isBuild hop, Phase.status, Reply.isOk]
  | giveUp hop hb hus hr =>
    simp [nextStatus, hop, Operation.isClose_of_isBuild hop, Phase.status, hr]
  | breakDown hop hb hr =>
    simp [nextStatus, hop, Operation.isClose_of_isBuild hop, Phase.status, hr]
  | close hop hphase => simp [nextStatus, hop, Phase.status]
  | idle hbuild hclose hreq =>
    unfold nextStatus
    split
    · next h => exact (hclose h).1
    · split
      · next h => exact absurd h.2 (hbuild h.1).1
      · rfl

theorem requests_le (he : Effect E op phase r phase' cs) :
    ingested cs <+: op.requests ∧ (r.isOk → ingested cs = op.requests) := by
  have hnone (h : ingested cs = []) (hreq : r.isOk → op.requests = []) :
      ingested cs <+: op.requests ∧ (r.isOk → ingested cs = op.requests) := by
    rw [h]
    exact ⟨⟨op.requests, rfl⟩, fun hok => (hreq hok).symm⟩
  cases he with
  | collect hop hop' hdone hall =>
    rw [ingested_map]
    exact ⟨hdone, hall⟩
  | use hop hop' hreq hu => exact hnone (ingested_of_uses (by simpa using hu)) fun _ => hreq
  | @install c b b' us a hop hb hus =>
    have hus' : ingested us = [] := ingested_of_uses hus
    exact hnone hus' fun _ => Operation.requests_of_isBuild hop
  | @giveUp c b us r hop hb hus hr =>
    have hus' : ingested (.build :: .releaseCompiler :: us ++ [.releaseBackend]) = [] := by
      have hsplit : ingested (us ++ [.releaseBackend]) = ingested us ++ [] :=
        List.filterMap_append
      rw [ingested_of_uses hus] at hsplit
      exact hsplit
    exact hnone hus' fun _ => Operation.requests_of_isBuild hop
  | breakDown hop hb hr => exact hnone rfl fun _ => Operation.requests_of_isBuild hop
  | close hop hphase =>
    exact hnone (ingested_releaseTrace E _) fun _ => Operation.requests_of_isClose hop
  | idle hbuild hclose hreq => exact hnone rfl hreq

theorem of_closed (he : Effect E op .closed r phase' cs) :
    phase' = .closed ∧ cs = [] ∧ (op.isClose → r = .ok (.closed false)) := by
  cases he with
  | close hop hphase => exact absurd rfl hphase
  | idle hbuild hclose hreq => exact ⟨rfl, rfl, fun h => (hclose h).2⟩

theorem of_open (he : Effect E op phase r phase' cs) (hopen : phase.status ≠ .closed)
    (hop : op.isClose) : phase' = .closed ∧ r = .ok (.closed true) := by
  cases he with
  | close hop hphase => exact ⟨rfl, rfl⟩
  | idle hbuild hclose hreq => exact absurd (hclose hop).1 hopen
  | collect hop' hop'' hdone hall => rw [hop] at hop''; cases hop''
  | use hop' hop'' hreq hu => rw [hop] at hop''; cases hop''
  | install hop' hb hus => rw [Operation.isClose_of_isBuild hop'] at hop; cases hop
  | giveUp hop' hb hus hr => rw [Operation.isClose_of_isBuild hop'] at hop; cases hop
  | breakDown hop' hb hr => rw [Operation.isClose_of_isBuild hop'] at hop; cases hop

end Effect

/-! ## Runs -/

/-- Each turn of a run is an operation that was carried out. -/
theorem performs_of_mem {s : Session κ β} {ops : List Operation} {t : Turn κ β}
    (ht : t ∈ turns E s ops) : t.step = perform E t.op t.before := by
  induction ops generalizing s with
  | nil => cases ht
  | cons op rest ih =>
    rcases List.mem_cons.1 ht with rfl | ht
    · rfl
    · exact ih ht

/-- A closed session stays closed and calls nobody. -/
theorem run_of_closed {s : Session κ β} (hs : s.phase = .closed) (ops : List Operation) :
    (after E s ops).phase = .closed ∧ calls (history E s ops) = [] := by
  induction ops generalizing s with
  | nil => exact ⟨hs, rfl⟩
  | cons op rest ih =>
    have he := perform_effect E op s
    rw [Performs, hs] at he
    obtain ⟨hphase, hcalls, -⟩ := he.of_closed
    obtain ⟨hafter, hhistory⟩ := ih hphase
    refine ⟨hafter, ?_⟩
    rw [history, turns, List.flatMap_cons, calls_append, hcalls]
    exact hhistory

theorem lifetime_of_closed {s : Session κ β} (hs : s.phase = .closed) (ops : List Operation) :
    calls (lifetime E s ops) = [] := by
  obtain ⟨hafter, hhistory⟩ := run_of_closed E hs ops
  rw [lifetime, calls_append, hhistory, drop_calls, hafter]
  rfl

theorem perform_close_phase (s : Session κ β) : (perform E .close s).state.phase = .closed := by
  obtain ⟨phase, space, sources⟩ := s
  cases phase <;> rfl

/-- The replies to the operations of a run that close. -/
def closeReplies (s : Session κ β) (ops : List Operation) : List (Reply Answer) :=
  (turns E s ops).filterMap fun t => if t.op.isClose then some t.step.reply else none

/-- What closing some number of times answers: the first time that it was open, then no more. -/
def closeAnswers : Nat → List (Reply Answer)
  | 0 => []
  | n + 1 => .ok (.closed true) :: List.replicate n (.ok (.closed false))

theorem closeReplies_cons (s : Session κ β) (op : Operation) (rest : List Operation) :
    closeReplies E s (op :: rest) =
      (if op.isClose then [(perform E op s).reply] else [])
        ++ closeReplies E (perform E op s).state rest := by
  rw [closeReplies, turns, List.filterMap_cons]
  cases op.isClose <;> rfl

theorem closeReplies_of_closed {s : Session κ β} (hs : s.phase = .closed) (ops : List Operation) :
    closeReplies E s ops = List.replicate (ops.countP (·.isClose)) (.ok (.closed false)) := by
  induction ops generalizing s with
  | nil => rfl
  | cons op rest ih =>
    have he := perform_effect E op s
    rw [Performs, hs] at he
    obtain ⟨hphase, -, hreply⟩ := he.of_closed
    rw [closeReplies_cons, ih hphase]
    cases hop : op.isClose with
    | true => rw [List.countP_cons_of_pos hop, hreply hop, List.replicate_succ]; rfl
    | false => rw [List.countP_cons_of_neg (by simp [hop])]; rfl

theorem closeReplies_of_open {s : Session κ β} (hs : s.status ≠ .closed) (ops : List Operation) :
    closeReplies E s ops = closeAnswers (ops.countP (·.isClose)) := by
  induction ops generalizing s with
  | nil => rfl
  | cons op rest ih =>
    have he := perform_effect E op s
    rw [closeReplies_cons]
    cases hop : op.isClose with
    | true =>
      obtain ⟨hphase, hreply⟩ := he.of_open hs hop
      rw [List.countP_cons_of_pos hop, hreply, closeReplies_of_closed E hphase]
      rfl
    | false =>
      have hopen : (perform E op s).state.status ≠ .closed := by
        rw [status, he.status_eq, nextStatus, hop, if_neg Bool.false_ne_true]
        split
        · cases (perform E op s).reply.isOk <;> simp
        · exact hs
      rw [List.countP_cons_of_neg (by simp [hop]), ih hopen]
      rfl

/-! ## All runs -/

/-- What holds of a session from its start, through some operations, to its end. -/
structure LegalRun (o : κ ⊕ β) (ops : List Operation) : Prop where
  /-- All calls together are legal. -/
  calls_legal : Legal E o (calls (lifetime E (start o) ops))
  /-- Each operation makes the first of its requests in their order, and all of them if it
  succeeds. -/
  requests_in_order : ∀ t ∈ turns E (start o) ops,
    ingested (calls t.step.trace) <+: t.op.requests ∧
      (t.step.reply.isOk → ingested (calls t.step.trace) = t.op.requests)
  /-- Nobody is called after the session was closed, not even at its end. -/
  silent_after_close : ∀ first rest, ops = first ++ .close :: rest →
    calls (lifetime E (after E (start o) (first ++ [.close])) rest) = []
  /-- The status after an operation is told by the operation and by whether it succeeds. -/
  status_next : ∀ t ∈ turns E (start o) ops,
    t.step.state.status = nextStatus t.op t.step.reply.isOk t.before.status
  /-- The status stays or goes forward. -/
  status_forward : ∀ t ∈ turns E (start o) ops,
    t.step.state.status = t.before.status ∨ Forward t.before.status t.step.state.status
  /-- The first close finds the session open, and no other does. -/
  close_once : closeReplies E (start o) ops = closeAnswers (ops.countP (·.isClose))

/-- **Every run is legal**, for every engine, every start and all operations in any order. -/
theorem run_legal (o : κ ⊕ β) (ops : List Operation) : LegalRun E o ops where
  calls_legal := by
    have hrun := ((Reached.start o).run (E := E) ops).legal
    rw [List.nil_append] at hrun
    rw [lifetime, calls_append, drop_calls]
    exact hrun
  requests_in_order t ht := by
    have he := perform_effect E t.op t.before
    rw [Performs, ← performs_of_mem E ht] at he
    exact he.requests_le
  silent_after_close first rest _ := by
    refine lifetime_of_closed E ?_ rest
    rw [after, List.foldl_append]
    exact perform_close_phase E _
  status_next t ht := by
    have he := perform_effect E t.op t.before
    rw [Performs, ← performs_of_mem E ht] at he
    exact he.status_eq
  status_forward t ht := by
    have he := perform_effect E t.op t.before
    rw [Performs, ← performs_of_mem E ht] at he
    rw [status, he.status_eq]
    exact nextStatus_forward t.op t.step.reply.isOk t.before.status
  close_once := closeReplies_of_open E (start_open o) ops

end RuleScan.Session
