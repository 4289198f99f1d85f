import RuleScan.Proofs.Action
import RuleScan.Session

/-!
# Operations of a session

All that can be asked of a session, as one type, with `perform` as what is done. What an operation
can do is said once, by `Effect`: it hands a first part of its requests to the compiler, uses the
backend, builds, closes, or does nothing. `perform_effect` is the only place where the operations
are taken apart; a run of operations is a list of turns (`turns`), each of which is such an effect.
-/

namespace RuleScan.Session

variable {κ β α γ : Type}

/-! ## Operations -/

/-- What can be asked of a session. -/
inductive Operation
  | addNamespace (name : String)
  | addSource (text : String)
  | addFile (list : String)
  | addFileWithNamespace (list : String)
  | addPaths (paths : List String) (spacePerFile : Bool)
  | ignoreModule (module : String)
  | define (name : String) (value : ExternalValue)
  /-- Builds; whether that is announced is up to the logs that are kept. -/
  | build (announce : Bool)
  | scan (data : ByteArray)
  | scanIfBuilt (data : ByteArray)
  | ruleCount
  | exportRules
  | close

/-- What an operation answers. -/
inductive Answer
  | done
  | files (n : Nat)
  | found (findings : Option Findings)
  | rules (n : Nat)
  | bytes (data : ByteArray)
  /-- Whether a session was still open when it was closed. -/
  | closed (first : Bool)

/-- Does an action and changes its answer. -/
def answering (f : α → Answer) (x : Action (Session κ β) α) : Action (Session κ β) Answer :=
  x.bind fun a => .pure (f a)

variable (E : Engine κ β)

/-- Carries out an operation. -/
def perform : Operation → Action (Session κ β) Answer
  | .addNamespace name => answering (fun _ => .done) (addNamespace E name)
  | .addSource text => answering (fun _ => .done) (addSource E text)
  | .addFile list => answering (fun _ => .done) (addFile E list)
  | .addFileWithNamespace list => answering (fun _ => .done) (addFileWithNamespace E list)
  | .addPaths paths spacePerFile => answering .files (addPaths E paths spacePerFile)
  | .ignoreModule module => answering (fun _ => .done) (ignoreModule E module)
  | .define name value => answering (fun _ => .done) (defineVariable E name value)
  | .build announce => answering (fun _ => .done) (build E announce)
  | .scan data => answering .found (scan E data)
  | .scanIfBuilt data => answering .found (scanIfBuilt E data)
  | .ruleCount => answering .rules (ruleCount E)
  | .exportRules => answering .bytes (exportRules E)
  | .close => answering .closed (close E)

namespace Operation

/-- The requests that an operation is about, in the order in which they are made. -/
def requests : Operation → List Request
  | addNamespace name => [.space name]
  | addSource text => [.source text]
  | addFile list => (splitPaths list).toOption.elim [] fun paths => paths.map .file
  | addFileWithNamespace list =>
    (splitPaths list).toOption.elim [] fun paths => [.paths paths true]
  | addPaths paths spacePerFile => [.paths paths spacePerFile]
  | ignoreModule module => [.ignoreModule module]
  | define name value => [.define name value]
  | _ => []

/-- Whether an operation builds. -/
def isBuild : Operation → Bool
  | build _ => true
  | _ => false

/-- Whether an operation closes. -/
def isClose : Operation → Bool
  | close => true
  | _ => false

end Operation

/-! ## Runs -/

/-- An operation that was carried out, with the session before it and what came of it. -/
structure Turn (κ β : Type) where
  op : Operation
  before : Session κ β
  step : Step (Session κ β) Answer

/-- The turns of a session that is asked some operations. An operation that fails or crashes leaves
the session to the next one. -/
def turns : Session κ β → List Operation → List (Turn κ β)
  | _, [] => []
  | s, op :: rest => ⟨op, s, perform E op s⟩ :: turns (perform E op s).state rest

/-- The session after some operations. -/
def after (s : Session κ β) (ops : List Operation) : Session κ β :=
  ops.foldl (fun s op => (perform E op s).state) s

/-- The trace of some operations. -/
def history (s : Session κ β) (ops : List Operation) : List Event :=
  (turns E s ops).flatMap (·.step.trace)

/-- The whole trace of a session that is asked some operations and then no longer used. -/
def lifetime (s : Session κ β) (ops : List Operation) : List Event :=
  history E s ops ++ drop E (after E s ops)

/-! ## Collecting rules -/

/-- A compiler after some requests. -/
def ingestAll (c : κ) (rs : List Request) : κ := rs.foldl (fun c r => (E.ingest r c).state) c

/-- A phase after some requests to its compiler, if it holds one. -/
def ingestPhase (rs : List Request) : Phase κ β → Phase κ β
  | .ingesting c => .ingesting (ingestAll E c rs)
  | phase => phase

theorem ingestPhase_append (rs ts : List Request) (phase : Phase κ β) :
    ingestPhase E (rs ++ ts) phase = ingestPhase E ts (ingestPhase E rs phase) := by
  cases phase with
  | ingesting c => exact congrArg Phase.ingesting List.foldl_append
  | built b => rfl
  | buildFailed => rfl
  | closed => rfl

@[simp] theorem ingestPhase_status (rs : List Request) (phase : Phase κ β) :
    (ingestPhase E rs phase).status = phase.status := by
  cases phase <;> rfl

/-- A step that hands the first of some requests to the compiler, all of them if it answers, and
none if there is no compiler. -/
structure Collects (rs done : List Request) (s : Session κ β) (t : Step (Session κ β) α) :
    Prop where
  first_of : done <+: rs
  calls_eq : calls t.trace = done.map .ingest
  phase_eq : t.state.phase = ingestPhase E done s.phase
  all_of_ok : t.reply.isOk → done = rs
  none_of_status : s.status ≠ .ingesting → done = []

/-- An action that hands requests to the compiler, up to the first one that fails. -/
def Ingests (x : Action (Session κ β) α) (rs : List Request) : Prop :=
  ∀ s, ∃ done, Collects E rs done s (x s)

namespace Ingests

variable {E} {x : Action (Session κ β) α} {f : α → Action (Session κ β) γ} {rs ts : List Request}

/-- A step that keeps the phase hands nothing to the compiler. -/
theorem collects_nil {s : Session κ β} {t : Step (Session κ β) α} (hcalls : calls t.trace = [])
    (hphase : t.state.phase = s.phase) (hok : t.reply.isOk → rs = []) : Collects E rs [] s t where
  first_of := ⟨rs, rfl⟩
  calls_eq := hcalls
  phase_eq := by
    rw [hphase]
    cases s.phase <;> rfl
  all_of_ok h := (hok h).symm
  none_of_status _ := rfl

theorem of_silent (hx : x.Silent) (hphase : ∀ s, (x s).state.phase = s.phase) : Ingests E x [] :=
  fun s => ⟨[], collects_nil (hx s) (hphase s) fun _ => rfl⟩

theorem bind (hx : Ingests E x rs) (hf : ∀ a, Ingests E (f a) ts) :
    Ingests E (x.bind f) (rs ++ ts) := fun s => by
  obtain ⟨done, hdone⟩ := hx s
  rcases Reply.ok_or_halt (x s).reply with ⟨a, ha⟩ | ⟨h, hh⟩
  · obtain ⟨more, hmore⟩ := hf a (x s).state
    obtain rfl : done = rs := hdone.all_of_ok (by rw [ha]; rfl)
    have hfirst : x.Does s (.ok a) (x s).state (calls (x s).trace) := ⟨ha, rfl, rfl⟩
    have hboth := hfirst.bind (f := f) ⟨rfl, rfl, rfl⟩
    refine ⟨done ++ more, ?_, ?_, ?_, fun hok => ?_, fun hs => ?_⟩
    · exact (List.prefix_append_right_inj done).2 hmore.first_of
    · rw [hboth.calls_eq, hdone.calls_eq, hmore.calls_eq, List.map_append]
    · rw [hboth.state_eq, hmore.phase_eq, hdone.phase_eq, ingestPhase_append]
    · rw [hboth.reply_eq] at hok
      rw [hmore.all_of_ok hok]
    · have hs' : (x s).state.status ≠ .ingesting := by
        rw [status, hdone.phase_eq, ingestPhase_status]
        exact hs
      rw [hdone.none_of_status hs, hmore.none_of_status hs']
      rfl
  · have hfirst : x.Does s h.reply (x s).state (calls (x s).trace) := ⟨hh, rfl, rfl⟩
    have hboth := hfirst.bind_halt (f := f)
    refine ⟨done, hdone.first_of.trans (List.prefix_append rs ts), ?_, ?_, fun hok => ?_, ?_⟩
    · rw [hboth.calls_eq, hdone.calls_eq]
    · rw [hboth.state_eq, hdone.phase_eq]
    · rw [hboth.reply_eq] at hok
      cases h <;> cases hok
    · exact hdone.none_of_status

/-- What is done with the answer afterwards does not matter. -/
theorem bind_silent (hx : Ingests E x rs) (hf : ∀ a, (f a).Silent)
    (hphase : ∀ a s, (f a s).state.phase = s.phase) : Ingests E (x.bind f) rs := by
  rw [← List.append_nil rs]
  exact hx.bind fun a => of_silent (hf a) (hphase a)

/-- Where a check fails nothing is handed over. -/
theorem ofExcept_bind {r : Except Failure α} (hf : ∀ a, r = .ok a → Ingests E (f a) rs) :
    Ingests E ((Action.ofExcept r).bind f) rs := by
  cases r with
  | error e => exact fun s => ⟨[], collects_nil rfl rfl fun h => by cases h⟩
  | ok a => exact hf a rfl

theorem answering {g : α → Answer} (hx : Ingests E x rs) : Ingests E (answering g x) rs :=
  hx.bind_silent (fun _ => .pure _) fun _ _ => rfl

theorem forEach {f : γ → Action (Session κ β) α} {g : γ → Request}
    (hf : ∀ a, Ingests E (f a) [g a]) (l : List γ) : Ingests E (Action.forEach f l) (l.map g) := by
  induction l with
  | nil => exact of_silent (.pure []) fun _ => rfl
  | cons a rest ih =>
    refine (hf a).bind fun b => ?_
    exact ih.bind_silent (fun _ => .pure _) fun _ _ => rfl

end Ingests

/-- A misuse changes nothing. -/
theorem misuse_collects (rs : List Request) (s : Session κ β) :
    Collects E rs [] s (misuse s : Step (Session κ β) α) :=
  Ingests.collects_nil rfl rfl fun h => by cases h

theorem request_ingests (r : Request) : Ingests E (request E r) [r] := by
  rintro ⟨phase, space, sources⟩
  cases phase with
  | ingesting c =>
    exact ⟨[r], List.prefix_rfl, congrArg _ (E.ingest_silent r c), rfl, fun _ => rfl,
      fun h => absurd rfl h⟩
  | built b => exact ⟨[], misuse_collects E [r] _⟩
  | buildFailed => exact ⟨[], misuse_collects E [r] _⟩
  | closed => exact ⟨[], misuse_collects E [r] _⟩

theorem addPaths_ingests (paths : List String) (spacePerFile : Bool) :
    Ingests E (addPaths E paths spacePerFile) [.paths paths spacePerFile] :=
  (request_ingests E _).bind_silent
    (fun n => .bind (fun _ => rfl) fun _ => .pure n) fun _ _ => rfl

theorem addOneFile_ingests (path : String) : Ingests E (addOneFile E path) [.file path] :=
  (request_ingests E _).bind_silent (fun _ _ => rfl) fun _ _ => rfl

theorem addFile_ingests (list : String) :
    Ingests E (addFile E list) ((splitPaths list).toOption.elim [] fun paths =>
      paths.map .file) := by
  unfold addFile
  cases splitPaths list with
  | error e => exact Ingests.ofExcept_bind fun _ h => by cases h
  | ok paths =>
    have hfiles := (Ingests.forEach (addOneFile_ingests E) paths).bind_silent
      (fun _ => .pure ()) fun _ _ => rfl
    exact Ingests.ofExcept_bind fun _ h => by cases h; exact hfiles

theorem addFileWithNamespace_ingests (list : String) :
    Ingests E (addFileWithNamespace E list) ((splitPaths list).toOption.elim [] fun paths =>
      [.paths paths true]) := by
  unfold addFileWithNamespace
  cases splitPaths list with
  | error e => exact Ingests.ofExcept_bind fun _ h => by cases h
  | ok paths =>
    have hpaths := (addPaths_ingests E paths true).bind_silent (fun _ => .pure ()) fun _ _ => rfl
    exact Ingests.ofExcept_bind fun _ h => by cases h; exact hpaths

/-! ## What an operation can do -/

/-- Whether a call uses a backend. -/
def isUse : Call → Bool
  | .scan _ => true
  | .ruleCount => true
  | .serialize => true
  | _ => false

/-- What an operation can do: how it takes one phase to another, with which reply and calls. -/
inductive Effect (op : Operation) : Phase κ β → Reply Answer → Phase κ β → List Call → Prop
  /-- Hands the first of its requests to the compiler. -/
  | collect {c : κ} {done : List Request} {r : Reply Answer} (hop : op.isBuild = false)
      (hop' : op.isClose = false) (hdone : done <+: op.requests)
      (hall : r.isOk → done = op.requests) :
      Effect op (.ingesting c) r (.ingesting (ingestAll E c done)) (done.map .ingest)
  /-- Uses the backend. -/
  | use {b b' : β} {r : Reply Answer} {u : Call} (hop : op.isBuild = false)
      (hop' : op.isClose = false) (hreq : op.requests = []) (hu : isUse u) :
      Effect op (.built b) r (.built b') [u]
  /-- Builds a backend, which may be used at once. -/
  | install {c : κ} {b b' : β} {us : List Call} {a : Answer} (hop : op.isBuild)
      (hb : (E.build c).reply = .ok b) (hus : ∀ u ∈ us, isUse u) :
      Effect op (.ingesting c) (.ok a) (.built b') (.build :: .releaseCompiler :: us)
  /-- Builds a backend that is given up at once. -/
  | giveUp {c : κ} {b : β} {us : List Call} {r : Reply Answer} (hop : op.isBuild)
      (hb : (E.build c).reply = .ok b) (hus : ∀ u ∈ us, isUse u) (hr : r.isOk = false) :
      Effect op (.ingesting c) r .buildFailed
        (.build :: .releaseCompiler :: us ++ [.releaseBackend])
  /-- Does not succeed to build. -/
  | breakDown {c : κ} {r : Reply Answer} (hop : op.isBuild) (hb : (E.build c).reply.isOk = false)
      (hr : r.isOk = false) : Effect op (.ingesting c) r .buildFailed [.build, .releaseCompiler]
  | close {phase : Phase κ β} (hop : op.isClose) (hphase : phase.status ≠ .closed) :
      Effect op phase (.ok (.closed true)) .closed (calls (releaseTrace E phase))
  /-- Does nothing: a misuse, or the session was closed before. -/
  | idle {phase : Phase κ β} {r : Reply Answer}
      (hbuild : op.isBuild → phase.status ≠ .ingesting ∧ r.isOk = false)
      (hclose : op.isClose → phase.status = .closed ∧ r = .ok (.closed false))
      (hreq : r.isOk → op.requests = []) :
      Effect op phase r phase []

/-- What an operation did in a session. -/
def Performs (op : Operation) (s : Session κ β) : Prop :=
  Effect E op s.phase (perform E op s).reply (perform E op s).state.phase
    (calls (perform E op s).trace)

section

variable {E} {op : Operation} {s t : Session κ β} {cs : List Call}

theorem performs_of_does {x : Action (Session κ β) α} {f : α → Answer} {r : Reply α}
    (hperform : perform E op = Session.answering f x) (hx : x.Does s r t cs)
    (he : Effect E op s.phase (r.map f) t.phase cs) : Performs E op s := by
  have hdoes : (perform E op).Does s (r.map f) t cs := by
    rw [hperform]
    exact hx.map f
  rw [Performs, hdoes.reply_eq, hdoes.state_eq, hdoes.calls_eq]
  exact he

theorem performs_of_ingests (h : Ingests E (perform E op) op.requests)
    (hop : op.isBuild = false) (hop' : op.isClose = false) : Performs E op s := by
  obtain ⟨done, hdone⟩ := h s
  rw [Performs, hdone.calls_eq, hdone.phase_eq]
  by_cases hs : s.status = .ingesting
  · rw [status] at hs
    cases hp : s.phase with
    | ingesting c => exact .collect hop hop' hdone.first_of hdone.all_of_ok
    | built b => rw [hp] at hs; cases hs
    | buildFailed => rw [hp] at hs; cases hs
    | closed => rw [hp] at hs; cases hs
  · obtain rfl := hdone.none_of_status hs
    have hphase : ingestPhase E [] s.phase = s.phase := by cases s.phase <;> rfl
    rw [hphase]
    exact .idle (fun h => by rw [hop] at h; cases h) (fun h => by rw [hop'] at h; cases h)
      fun hok => (hdone.all_of_ok hok).symm

/-- A misuse is idle. -/
theorem performs_of_misuse {x : Action (Session κ β) α} {f : α → Answer}
    (hperform : perform E op = Session.answering f x) (hx : x s = misuse s)
    (hbuild : op.isBuild → s.status ≠ .ingesting) (hclose : op.isClose = false) :
    Performs E op s := by
  have hdoes : x.Does s (.error (.misuse s.status.misuse)) s [] :=
    ⟨by rw [hx]; rfl, by rw [hx]; rfl, by rw [hx]; rfl⟩
  refine performs_of_does hperform hdoes (.idle (fun h => ⟨hbuild h, rfl⟩) (fun h => ?_) ?_)
  · rw [hclose] at h
    cases h
  · exact fun h => by cases h

/-- An operation that uses the backend. -/
theorem performs_of_withBackend {x : Action β α} {c : Call} {f : α → Answer}
    (hperform : perform E op = Session.answering f (withBackend c x)) (hx : x.Silent)
    (hc : isUse c) (hop : op.isBuild = false) (hop' : op.isClose = false)
    (hreq : op.requests = []) : Performs E op s := by
  have hmisuse (h : withBackend c x s = misuse s) : Performs E op s :=
    performs_of_misuse hperform h (fun h => by rw [hop] at h; cases h) hop'
  obtain ⟨phase, space, sources⟩ := s
  cases phase with
  | ingesting c => exact hmisuse rfl
  | built b =>
    have hdoes : (withBackend c x : Action (Session κ β) α).Does ⟨.built b, space, sources⟩
        (x b).reply ⟨.built (x b).state, space, sources⟩ [c] := ⟨rfl, rfl, congrArg _ (hx b)⟩
    exact performs_of_does hperform hdoes (.use hop hop' hreq hc)
  | buildFailed => exact hmisuse rfl
  | closed => exact hmisuse rfl

end

/-- A new backend is kept, or given up at once where its rules cannot be counted. -/
theorem install_does (announce : Bool) (b : β) (s : Session κ β) :
    ∃ us, (∀ u ∈ us, isUse u) ∧
      ((∃ b', (install E announce b).Does s (.ok ()) { s with phase := .built b' } us) ∨
        ∃ h : Halt, (install E announce b).Does s h.reply s (us ++ [.releaseBackend])) := by
  cases announce with
  | false => exact ⟨[], by simp, .inl ⟨b, rfl, rfl, rfl⟩⟩
  | true =>
    refine ⟨[.ruleCount], by simp [isUse], ?_⟩
    have hcount := E.ruleCount_silent b
    rcases Reply.ok_or_halt (E.ruleCount b).reply with ⟨n, hn⟩ | ⟨h, hh⟩
    · refine .inl ⟨(E.ruleCount b).state, ?_⟩
      constructor <;> simp [install, hn, hcount]
    · refine .inr ⟨h, ?_⟩
      cases h <;> constructor <;>
        simp [install, hh, Halt.reply, hcount, E.releaseBackend_silent]

theorem build_of_ok {announce : Bool} {c : κ} {b : β} {space : Option String} {sources : Nat}
    {r : Reply Unit} {t : Session κ β} {cs : List Call} (hb : (E.build c).reply = .ok b)
    (hinstall : (install E announce b).Does ⟨.buildFailed, space, sources⟩ r t cs) :
    (build E announce).Does ⟨.ingesting c, space, sources⟩ r t
      (.build :: .releaseCompiler :: cs) := by
  have hbuild := E.build_silent c
  have hrelease := E.releaseCompiler_silent (E.build c).state
  constructor
  · simp [build, hb, hinstall.reply_eq]
  · simp [build, hb, hinstall.state_eq]
  · simp [build, hb, hinstall.calls_eq, hbuild, hrelease]

theorem build_of_halt {announce : Bool} {c : κ} {h : Halt} {space : Option String} {sources : Nat}
    (hh : (E.build c).reply = h.reply) :
    (build E announce).Does ⟨.ingesting c, space, sources⟩ h.reply
      ⟨.buildFailed, space, sources⟩ [.build, .releaseCompiler] := by
  have hbuild := E.build_silent c
  have hrelease := E.releaseCompiler_silent (E.build c).state
  cases h <;> constructor <;> simp [build, hh, Halt.reply, hbuild, hrelease]

theorem build_performs (announce : Bool) (s : Session κ β) : Performs E (.build announce) s := by
  have hmisuse (h : build E announce s = misuse s) (hs : s.status ≠ .ingesting) :
      Performs E (.build announce) s :=
    performs_of_misuse rfl h (fun _ => hs) rfl
  obtain ⟨phase, space, sources⟩ := s
  cases phase with
  | ingesting c =>
    rcases Reply.ok_or_halt (E.build c).reply with ⟨b, hb⟩ | ⟨h, hh⟩
    · obtain ⟨us, hus, ⟨b', hdoes⟩ | ⟨h, hdoes⟩⟩ :=
        install_does E announce b ⟨.buildFailed, space, sources⟩
      · exact performs_of_does rfl (build_of_ok E hb hdoes) (.install rfl hb hus)
      · refine performs_of_does rfl (build_of_ok E hb hdoes) (.giveUp rfl hb hus ?_)
        cases h <;> rfl
    · refine performs_of_does rfl (build_of_halt E hh) (.breakDown rfl ?_ ?_)
      · rw [hh]
        cases h <;> rfl
      · cases h <;> rfl
  | built b => exact hmisuse rfl (by simp [status, Phase.status])
  | buildFailed => exact hmisuse rfl (by simp [status, Phase.status])
  | closed => exact hmisuse rfl (by simp [status, Phase.status])

theorem close_performs (s : Session κ β) : Performs E .close s := by
  obtain ⟨phase, space, sources⟩ := s
  have hopen (hs : phase.status ≠ .closed)
      (hdoes : (close E).Does ⟨phase, space, sources⟩ (.ok true) ⟨.closed, space, sources⟩
        (calls (releaseTrace E phase))) : Performs E .close ⟨phase, space, sources⟩ :=
    performs_of_does rfl hdoes (.close rfl hs)
  cases phase with
  | ingesting c => exact hopen (by simp [Phase.status]) ⟨rfl, rfl, rfl⟩
  | built b => exact hopen (by simp [Phase.status]) ⟨rfl, rfl, rfl⟩
  | buildFailed => exact hopen (by simp [Phase.status]) ⟨rfl, rfl, rfl⟩
  | closed => exact .idle (fun h => by cases h) (fun _ => ⟨rfl, rfl⟩) fun _ => rfl

theorem scanIfBuilt_performs (data : ByteArray) (s : Session κ β) :
    Performs E (.scanIfBuilt data) s := by
  obtain ⟨phase, space, sources⟩ := s
  cases phase with
  | ingesting c =>
    exact .idle (fun h => by cases h) (fun h => by cases h) fun _ => rfl
  | built b =>
    have hdoes : (scanIfBuilt E data).Does ⟨.built b, space, sources⟩ (E.scan data b).reply
        ⟨.built (E.scan data b).state, space, sources⟩ [.scan data] :=
      ⟨rfl, rfl, congrArg _ (E.scan_silent data b)⟩
    exact performs_of_does rfl hdoes (.use rfl rfl rfl rfl)
  | buildFailed => exact performs_of_misuse rfl rfl (fun h => by cases h) rfl
  | closed => exact performs_of_misuse rfl rfl (fun h => by cases h) rfl

/-- **What an operation can do**, for every operation in every session. -/
theorem perform_effect (op : Operation) (s : Session κ β) : Performs E op s := by
  cases op with
  | addNamespace name =>
    refine performs_of_ingests (Ingests.answering ?_) rfl rfl
    exact (request_ingests E _).bind_silent (fun _ _ => rfl) fun _ _ => rfl
  | addSource text =>
    refine performs_of_ingests (Ingests.answering ?_) rfl rfl
    exact (request_ingests E _).bind_silent (fun _ _ => rfl) fun _ _ => rfl
  | addFile list =>
    exact performs_of_ingests (addFile_ingests E list).answering rfl rfl
  | addFileWithNamespace list =>
    exact performs_of_ingests (addFileWithNamespace_ingests E list).answering rfl rfl
  | addPaths paths spacePerFile =>
    exact performs_of_ingests (addPaths_ingests E paths spacePerFile).answering rfl rfl
  | ignoreModule module =>
    refine performs_of_ingests (Ingests.answering ?_) rfl rfl
    exact (request_ingests E _).bind_silent (fun _ => .pure ()) fun _ _ => rfl
  | define name value =>
    refine performs_of_ingests (Ingests.answering ?_) rfl rfl
    exact (request_ingests E _).bind_silent (fun _ => .pure ()) fun _ _ => rfl
  | build announce => exact build_performs E announce s
  | scan data => exact performs_of_withBackend rfl (E.scan_silent data) rfl rfl rfl rfl
  | scanIfBuilt data => exact scanIfBuilt_performs E data s
  | ruleCount => exact performs_of_withBackend rfl E.ruleCount_silent rfl rfl rfl rfl
  | exportRules => exact performs_of_withBackend rfl E.serialize_silent rfl rfl rfl rfl
  | close => exact close_performs E s

end RuleScan.Session
