import Mathlib
import RuleScan.Proofs.Session.Operation
import RuleScan.Rules.Engine

/-!
# The number of accepted sources

A session over the compilers of a toolchain counts its sources by itself: one for each source and
each file that it adds, and as many as an operation answers that adds paths. The compilers enter in
the trace what they accept. The two numbers differ by exactly what was accepted by operations that
add paths and fail half way (`sources_add_lost`); they agree if and only if there is no such
operation (`sources_eq_accepted_iff`).
-/

namespace RuleScan

/-- Whether an entry of a trace is a source that a compiler of rules accepted. -/
def Event.isAccepted : Event → Bool
  | .change (.source _ _) none => true
  | _ => false

/-- The number of sources that a compiler of rules accepted. -/
def accepted (trace : List Event) : Nat := trace.countP Event.isAccepted

@[simp] theorem accepted_nil : accepted [] = 0 := rfl

@[simp] theorem accepted_append (t u : List Event) :
    accepted (t ++ u) = accepted t + accepted u :=
  List.countP_append

@[simp] theorem accepted_call (c : Call) (t : List Event) : accepted (.call c :: t) = accepted t :=
  rfl

@[simp] theorem accepted_log (l : LogLevel) (w : String) (t : List Event) :
    accepted (.log l w :: t) = accepted t := rfl

@[simp] theorem accepted_source (bytes : ByteArray) (origin : Option String) (t : List Event) :
    accepted (.change (.source bytes origin) none :: t) = accepted t + 1 :=
  List.countP_cons_of_pos rfl

/-- Whether a change adds rules. -/
def Change.isSource : Change → Bool
  | source _ _ => true
  | _ => false

/-- The number of sources that a request adds if it is answered by a number of files. -/
def Request.units : Request → Nat → Nat
  | source _, _ => 1
  | file _, _ => 1
  | paths _ _, n => n
  | _, _ => 0

/-- Whether a request is about many files. -/
def Request.isBulk : Request → Bool
  | paths _ _ => true
  | _ => false

namespace Action

variable {σ α γ : Type} {x : Action σ α} {f : α → Action σ γ} {s : σ}

theorem accepted_bind_of_ok {a : α} (h : (x s).reply = .ok a) :
    accepted (x.bind f s).trace = accepted (x s).trace + accepted (f a (x s).state).trace := by
  rw [bind_of_ok h, accepted_append]

theorem isOk_map (g : α → γ) (s : σ) :
    (x.bind (fun a => .pure (g a)) s).reply.isOk = (x s).reply.isOk := by
  have hx : x.Does s (x s).reply (x s).state (calls (x s).trace) := ⟨rfl, rfl, rfl⟩
  rw [(hx.map g).reply_eq]
  cases (x s).reply <;> rfl

/-- Where an action has an answer, so had its first part. -/
theorem ok_of_bind_ok {b : γ} (h : (x.bind f s).reply = .ok b) :
    ∃ a, (x s).reply = .ok a ∧ (f a (x s).state).reply = .ok b := by
  rcases (x s).reply.ok_or_halt with ⟨a, ha⟩ | ⟨e, he⟩
  · rw [bind_of_ok ha] at h
    exact ⟨a, ha, h⟩
  · have hx : x.Does s e.reply (x s).state (calls (x s).trace) := ⟨he, rfl, rfl⟩
    rw [hx.bind_halt.reply_eq] at h
    cases e <;> cases h

end Action

namespace Rules.Collector

variable {C R : Type} (T : Toolchain C R) (fs : Files)

/-! ## What compilers accept -/

/-- A change to the rules is accepted or refused. -/
theorem submit_accepted (change : Change) (c : Collector C) :
    accepted (submit T fs change c).trace =
      if change.isSource ∧ (submit T fs change c).reply.isOk then 1 else 0 := by
  obtain ⟨options, timeout, compiler⟩ := c
  cases compiler with
  | none =>
    cases hr : (T.apply fs change (T.start options)).1 <;> cases change <;>
      simp [submit, hr, startLog, Change.isSource, Reply.isOk] <;> rfl
  | some compiler =>
    cases hr : (T.apply fs change compiler).1 <;> cases change <;>
      simp [submit, hr, Change.isSource, Reply.isOk] <;> rfl

theorem addSpace_accepted (name : String) (c : Collector C) :
    accepted (addSpace T fs name c).trace = 0 := by
  unfold addSpace
  split
  · rfl
  · rw [submit_accepted, if_neg fun h => Bool.false_ne_true h.1]

theorem addFile_accepted (path : String) (c : Collector C) :
    accepted (addFile T fs path c).trace =
      if (addFile T fs path c).reply.isOk then 1 else 0 := by
  unfold addFile
  cases fs.read path with
  | error e => rfl
  | ok source =>
    have h := submit_accepted T fs (.source source (some path)) c
    simp only [Change.isSource, true_and] at h
    exact h

/-- Where all of some files were added each of them was accepted. -/
theorem addFiles_accepted (spacePerFile : Bool) (files : List String) {c : Collector C}
    (hok : (addFiles T fs spacePerFile files c).reply = .ok ()) :
    accepted (addFiles T fs spacePerFile files c).trace = files.length := by
  induction files generalizing c with
  | nil => rfl
  | cons path rest ih =>
    -- the file and those after it, wherever the name of its namespace leaves the compiler
    have hfiles {c : Collector C} (hok : ((addFile T fs path).bind (fun _ =>
        addFiles T fs spacePerFile rest) c).reply = .ok ()) :
        accepted ((addFile T fs path).bind (fun _ => addFiles T fs spacePerFile rest) c).trace =
          rest.length + 1 := by
      obtain ⟨u, hu, hrest⟩ := Action.ok_of_bind_ok hok
      have hfile := addFile_accepted T fs path c
      rw [hu, Reply.isOk, if_pos rfl] at hfile
      rw [Action.accepted_bind_of_ok hu, ih hrest, hfile]
      omega
    cases spacePerFile with
    | false => exact hfiles hok
    | true =>
      obtain ⟨u, hu, hrest⟩ := Action.ok_of_bind_ok hok
      have htrace := Action.accepted_bind_of_ok (f := fun _ => (addFile T fs path).bind fun _ =>
        addFiles T fs true rest) hu
      rw [addSpace_accepted, hfiles hrest, Nat.zero_add] at htrace
      exact htrace

/-- Where all files of some paths were added, as many sources were accepted. -/
theorem addEach_accepted (spacePerFile : Bool) (paths : List String) {c : Collector C} {n : Nat}
    (hok : (addEach T fs spacePerFile paths c).reply = .ok n) :
    accepted (addEach T fs spacePerFile paths c).trace = n := by
  induction paths generalizing c n with
  | nil =>
    cases hok
    rfl
  | cons path rest ih =>
    obtain ⟨files, hfiles, hok⟩ := Action.ok_of_bind_ok hok
    obtain ⟨u, hadded, hok⟩ := Action.ok_of_bind_ok hok
    obtain ⟨m, hrest, hok⟩ := Action.ok_of_bind_ok hok
    cases hok
    simp only [addEach, Action.bind_eq, Action.pure_eq]
    rw [Action.accepted_bind_of_ok hfiles, Action.accepted_bind_of_ok hadded,
      Action.accepted_bind_of_ok hrest, addFiles_accepted T fs spacePerFile _ hadded, ih hrest]
    exact Nat.zero_add _

/-- The answer of paths is the number of files that were accepted. -/
theorem addPaths_accepted (paths : List String) (spacePerFile : Bool) {c : Collector C} {n : Nat}
    (hok : (addPaths T fs paths spacePerFile c).reply = .ok n) :
    accepted (addPaths T fs paths spacePerFile c).trace = n := by
  obtain ⟨m, hadded, hrest⟩ := Action.ok_of_bind_ok hok
  cases hrest
  simp only [addPaths, Action.bind_eq, Action.pure_eq]
  rw [Action.accepted_bind_of_ok hadded, addEach_accepted T fs spacePerFile _ hadded]
  rfl

/-- A request that is not about many files adds what it stands for, unless it fails. -/
theorem ingest_accepted (r : Request) (hr : r.isBulk = false) (c : Collector C) :
    accepted (ingest T fs r c).trace =
      if (ingest T fs r c).reply.isOk then r.units 0 else 0 := by
  have hanswer {x : Action (Collector C) Unit} {m : Nat}
      (hx : accepted (x c).trace = if (x c).reply.isOk then m else 0) :
      accepted (x.bind (fun _ => .pure 0) c).trace =
        if (x.bind (fun _ => .pure 0) c).reply.isOk then m else 0 := by
    rw [Action.trace_map, Action.isOk_map, hx]
  have hchange {change : Change} (hs : change.isSource = false) :
      accepted (submit T fs change c).trace =
        if (submit T fs change c).reply.isOk then 0 else 0 := by
    rw [submit_accepted, hs, ite_self, if_neg fun h => Bool.false_ne_true h.1]
  cases r with
  | space name => exact hanswer ((addSpace_accepted T fs name c).trans (ite_self 0).symm)
  | source text =>
    have hsource := submit_accepted T fs (.source text.toUTF8 none) c
    simp only [Change.isSource, true_and] at hsource
    exact hanswer hsource
  | file path => exact hanswer (addFile_accepted T fs path c)
  | paths paths spacePerFile => cases hr
  | ignoreModule module => exact hanswer (hchange rfl)
  | define name value => exact hanswer (hchange rfl)

end Rules.Collector

/-! ## What sessions count -/

namespace Session

variable {κ β α γ : Type}

/-- Whether an operation adds many files in one request. -/
def Operation.isBulk : Operation → Bool
  | addFileWithNamespace _ => true
  | addPaths _ _ => true
  | _ => false

/-- An action that counts what it accepts. -/
def Counts (x : Action (Session κ β) α) : Prop :=
  ∀ s, (x s).state.sources = s.sources + accepted (x s).trace

/-- An action that counts what it accepts if it succeeds, and nothing otherwise. -/
structure CountsIfOk (x : Action (Session κ β) α) : Prop where
  of_ok : ∀ s, (x s).reply.isOk = true →
    (x s).state.sources = s.sources + accepted (x s).trace
  of_halt : ∀ s, (x s).reply.isOk = false → (x s).state.sources = s.sources

theorem Counts.bind {x : Action (Session κ β) α} {f : α → Action (Session κ β) γ}
    (hx : Counts x) (hf : ∀ a, Counts (f a)) : Counts (x.bind f) := fun s => by
  have h := hx s
  rcases hr : (x s).reply with a | e | words
  · rw [Action.bind_of_ok hr, accepted_append, hf a, h]
    omega
  · rw [Action.bind_of_error hr]
    exact h
  · rw [Action.bind_of_crash hr]
    exact h

theorem Counts.of_quiet {x : Action (Session κ β) α} (hs : ∀ s, (x s).state.sources = s.sources)
    (hx : ∀ s, accepted (x s).trace = 0) : Counts x := fun s => by
  rw [hs, hx, Nat.add_zero]

theorem Counts.answering {x : Action (Session κ β) α} {f : α → Answer} (hx : Counts x) :
    Counts (answering f x) :=
  hx.bind fun _ => .of_quiet (fun _ => rfl) fun _ => rfl

theorem Counts.forEach {f : γ → Action (Session κ β) α} (hf : ∀ a, Counts (f a)) (l : List γ) :
    Counts (Action.forEach f l) := by
  induction l with
  | nil => exact .of_quiet (fun _ => rfl) fun _ => rfl
  | cons a rest ih =>
    exact (hf a).bind fun b => ih.bind fun _ => .of_quiet (fun _ => rfl) fun _ => rfl

theorem CountsIfOk.map {x : Action (Session κ β) α} (hx : CountsIfOk x) (g : α → γ) :
    CountsIfOk (x.bind fun a => .pure (g a)) := by
  have hstate (s : Session κ β) : (x.bind (fun a => .pure (g a)) s).state = (x s).state := by
    rcases hr : (x s).reply with a | e | words
    · rw [Action.bind_of_ok hr]
      rfl
    · rw [Action.bind_of_error hr]
    · rw [Action.bind_of_crash hr]
  constructor
  · intro s hok
    rw [Action.isOk_map] at hok
    rw [hstate, Action.trace_map, hx.of_ok s hok]
  · intro s hhalt
    rw [Action.isOk_map] at hhalt
    rw [hstate, hx.of_halt s hhalt]

theorem request_sources (E : Engine κ β) (r : Request) (s : Session κ β) :
    (request E r s).state.sources = s.sources := by
  obtain ⟨phase, space, sources⟩ := s
  cases phase <;> rfl

section Toolchain

open Rules

variable {C R : Type} (T : Toolchain C R) (fs : Files)

theorem request_accepted {r : Request} (hr : r.isBulk = false)
    (s : Session (Collector C) (Ready R)) :
    accepted (request (T.engine fs) r s).trace =
      if (request (T.engine fs) r s).reply.isOk then r.units 0 else 0 := by
  obtain ⟨phase, space, sources⟩ := s
  cases phase with
  | ingesting c => exact Collector.ingest_accepted T fs r hr c
  | built b => rfl
  | buildFailed => rfl
  | closed => rfl

theorem request_paths_accepted {paths : List String} {spacePerFile : Bool} {n : Nat}
    {s : Session (Collector C) (Ready R)}
    (hok : (request (T.engine fs) (.paths paths spacePerFile) s).reply = .ok n) :
    accepted (request (T.engine fs) (.paths paths spacePerFile) s).trace = n := by
  obtain ⟨phase, space, sources⟩ := s
  cases phase with
  | ingesting c => exact Collector.addPaths_accepted T fs paths spacePerFile hok
  | built b => cases hok
  | buildFailed => cases hok
  | closed => cases hok

/-- A request for at most one source, and what counts it once it is answered. -/
theorem request_counts {r : Request} (hr : r.isBulk = false)
    {f : Nat → Action (Session (Collector C) (Ready R)) α}
    (hf : ∀ n s, (f n s).state.sources = s.sources + r.units 0 ∧ accepted (f n s).trace = 0) :
    Counts ((request (T.engine fs) r).bind f) := fun s => by
  have hs := request_sources (T.engine fs) r s
  have ha := request_accepted T fs hr s
  rcases hreply : (request (T.engine fs) r s).reply with n | e | words
  · rw [hreply, Reply.isOk, if_pos rfl] at ha
    rw [Action.bind_of_ok hreply, accepted_append, ha, (hf n _).1, (hf n _).2, hs, Nat.add_zero]
  · rw [hreply] at ha
    rw [Action.bind_of_error hreply, hs, ha]
    rfl
  · rw [hreply] at ha
    rw [Action.bind_of_crash hreply, hs, ha]
    rfl

theorem addPaths_counts (paths : List String) (spacePerFile : Bool) :
    CountsIfOk (addPaths (T.engine fs) paths spacePerFile) := by
  have hs := request_sources (T.engine fs) (.paths paths spacePerFile)
  constructor
  · intro s hok
    rcases hreply : (addPaths (T.engine fs) paths spacePerFile s).reply with n | e | words
    · obtain ⟨m, hm, hrest⟩ := Action.ok_of_bind_ok hreply
      simp only [addPaths, Action.bind_eq, Action.pure_eq]
      rw [Action.bind_of_ok hm, accepted_append, request_paths_accepted T fs hm, ← hs s]
      rfl
    · rw [hreply] at hok
      cases hok
    · rw [hreply] at hok
      cases hok
  · intro s hhalt
    rcases hreply : (request (T.engine fs) (.paths paths spacePerFile) s).reply with n | e | words
    · simp only [addPaths, Action.bind_eq, Action.pure_eq] at hhalt
      rw [Action.bind_of_ok hreply] at hhalt
      cases hhalt
    · simp only [addPaths, Action.bind_eq, Action.pure_eq]
      rw [Action.bind_of_error hreply, hs]
    · simp only [addPaths, Action.bind_eq, Action.pure_eq]
      rw [Action.bind_of_crash hreply, hs]

theorem addSource_counts (text : String) : Counts (addSource (T.engine fs) text) :=
  request_counts T fs rfl fun _ _ => ⟨rfl, rfl⟩

theorem addOneFile_counts (path : String) : Counts (addOneFile (T.engine fs) path) :=
  request_counts T fs rfl fun _ _ => ⟨rfl, rfl⟩

theorem addFile_counts (list : String) : Counts (addFile (T.engine fs) list) := by
  unfold addFile
  cases splitPaths list with
  | error e => exact .of_quiet (fun _ => rfl) fun _ => rfl
  | ok paths =>
    have hfiles := (Counts.forEach (addOneFile_counts T fs) paths).bind
      (f := fun _ => .pure ()) fun _ => .of_quiet (fun _ => rfl) fun _ => rfl
    exact hfiles

theorem addFileWithNamespace_counts (list : String) :
    CountsIfOk (addFileWithNamespace (T.engine fs) list) := by
  unfold addFileWithNamespace
  cases splitPaths list with
  | error e => exact ⟨fun _ hok => (by cases hok), fun _ _ => rfl⟩
  | ok paths => exact (addPaths_counts T fs paths true).map fun _ => ()

theorem withBackend_counts {x : Action (Ready R) α} (c : Call)
    (hx : ∀ b, accepted (x b).trace = 0) :
    Counts (withBackend c x : Action (Session (Collector C) (Ready R)) α) := by
  rintro ⟨phase, space, sources⟩
  cases phase with
  | built b => exact congrArg (sources + ·) (hx b).symm
  | ingesting c => rfl
  | buildFailed => rfl
  | closed => rfl

theorem release_accepted (c : Collector C) : accepted (Collector.release c) = 0 := by
  unfold Collector.release
  split <;> rfl

theorem build_counts (announce : Bool) : Counts (build (T.engine fs) announce) := by
  rintro ⟨phase, space, sources⟩
  cases phase with
  | ingesting c =>
    cases announce with
    | true => rfl
    | false => rfl
  | built b => rfl
  | buildFailed => rfl
  | closed => rfl

theorem scan_accepted (data : ByteArray) (b : Ready R) :
    accepted ((T.engine fs).scan data b).trace = 0 := by
  change accepted ((Action.ofExcept ((T.scan b.timeout data b.rules).mapError .scan)).bind _
    b).trace = 0
  cases T.scan b.timeout data b.rules <;> rfl

theorem serialize_accepted (b : Ready R) : accepted ((T.engine fs).serialize b).trace = 0 := rfl

theorem scanIfBuilt_counts (data : ByteArray) : Counts (scanIfBuilt (T.engine fs) data) := by
  intro s
  cases hs : s.phase with
  | ingesting c => simp [scanIfBuilt, hs]
  | _ =>
    have h := withBackend_counts (C := C) (.scan data) (scan_accepted T fs data) s
    simpa [scanIfBuilt, hs, scan] using h

theorem close_counts : Counts (close (T.engine fs)) := by
  rintro ⟨phase, space, sources⟩
  cases phase with
  | ingesting c => exact congrArg (sources + ·) (release_accepted c).symm
  | built b => rfl
  | buildFailed => rfl
  | closed => rfl

/-- **Operations that add one source at a time** count what is accepted, wherever they stop. -/
theorem perform_counts {op : Operation} (hop : op.isBulk = false) :
    Counts (perform (T.engine fs) op) := by
  cases op with
  | addNamespace name => exact (request_counts T fs rfl fun _ _ => ⟨rfl, rfl⟩).answering
  | addSource text => exact (addSource_counts T fs text).answering
  | addFile list => exact (addFile_counts T fs list).answering
  | addFileWithNamespace list => cases hop
  | addPaths paths spacePerFile => cases hop
  | ignoreModule module => exact (request_counts T fs rfl fun _ _ => ⟨rfl, rfl⟩).answering
  | define name value => exact (request_counts T fs rfl fun _ _ => ⟨rfl, rfl⟩).answering
  | build announce => exact (build_counts T fs announce).answering
  | scan data => exact (withBackend_counts (.scan data) (scan_accepted T fs data)).answering
  | scanIfBuilt data => exact (scanIfBuilt_counts T fs data).answering
  | ruleCount => exact (withBackend_counts .ruleCount fun _ => rfl).answering
  | exportRules => exact (withBackend_counts .serialize (serialize_accepted T fs)).answering
  | close => exact (close_counts T fs).answering

/-- **Operations that add many files at a time** count what is accepted if they succeed. -/
theorem perform_counts_of_isBulk {op : Operation} (hop : op.isBulk) :
    CountsIfOk (perform (T.engine fs) op) := by
  cases op with
  | addFileWithNamespace list => exact (addFileWithNamespace_counts T fs list).map _
  | addPaths paths spacePerFile => exact (addPaths_counts T fs paths spacePerFile).map _
  | _ => cases hop

/-! ## Runs -/

/-- The turns of a session that is asked some operations, each with the files that are there by
then. -/
def turnsOver (s : Session (Collector C) (Ready R)) :
    List (Files × Operation) → List (Turn (Collector C) (Ready R))
  | [] => []
  | (fs, op) :: rest =>
    ⟨op, s, perform (T.engine fs) op s⟩ :: turnsOver (perform (T.engine fs) op s).state rest

/-- The session after some operations, each with the files that are there by then. -/
def afterOver (s : Session (Collector C) (Ready R)) (ops : List (Files × Operation)) :
    Session (Collector C) (Ready R) :=
  ops.foldl (fun s o => (perform (T.engine o.1) o.2 s).state) s

/-- The trace of some turns. -/
def traceOf {κ β : Type} (ts : List (Turn κ β)) : List Event := ts.flatMap (·.step.trace)

theorem accepted_traceOf_cons {κ β : Type} (t : Turn κ β) (ts : List (Turn κ β)) :
    accepted (traceOf (t :: ts)) = accepted t.step.trace + accepted (traceOf ts) :=
  accepted_append _ _

/-- Whether a turn adds many files in one request that fails. What is accepted in it is lost. -/
def Turn.isHalfDone {κ β : Type} (t : Turn κ β) : Bool := t.op.isBulk && !t.step.reply.isOk

/-- **One operation** counts what it accepts, unless that is lost. -/
theorem perform_sources (op : Operation) (s : Session (Collector C) (Ready R)) :
    (perform (T.engine fs) op s).state.sources =
      if Turn.isHalfDone ⟨op, s, perform (T.engine fs) op s⟩ then s.sources
      else s.sources + accepted (perform (T.engine fs) op s).trace := by
  unfold Turn.isHalfDone
  cases hop : op.isBulk with
  | false => exact perform_counts T fs hop s
  | true =>
    have hbulk := perform_counts_of_isBulk T fs hop
    cases hok : (perform (T.engine fs) op s).reply.isOk with
    | true => exact hbulk.of_ok s hok
    | false => exact hbulk.of_halt s hok

/-- **A run** counts all that it accepts but what is lost. -/
theorem sources_add_lost (s : Session (Collector C) (Ready R)) (ops : List (Files × Operation)) :
    (afterOver T s ops).sources +
        accepted (traceOf ((turnsOver T s ops).filter Turn.isHalfDone)) =
      s.sources + accepted (traceOf (turnsOver T s ops)) := by
  induction ops generalizing s with
  | nil => rfl
  | cons o rest ih =>
    obtain ⟨fs, op⟩ := o
    have hfirst := perform_sources T fs op s
    have hrest := ih (perform (T.engine fs) op s).state
    have hafter : afterOver T s ((fs, op) :: rest) =
      afterOver T (perform (T.engine fs) op s).state rest := rfl
    rw [hafter, turnsOver, List.filter_cons, accepted_traceOf_cons]
    dsimp only
    split
    · next hlost =>
      rw [if_pos hlost] at hfirst
      rw [accepted_traceOf_cons]
      dsimp only
      omega
    · next hlost =>
      rw [if_neg hlost] at hfirst
      omega

theorem accepted_traceOf_eq_zero {κ β : Type} (ts : List (Turn κ β)) :
    accepted (traceOf ts) = 0 ↔ ∀ t ∈ ts, accepted t.step.trace = 0 := by
  induction ts with
  | nil => simp [traceOf]
  | cons t rest ih =>
    rw [accepted_traceOf_cons, Nat.add_eq_zero_iff, ih, List.forall_mem_cons]

/-- **The number of sources is the number of accepted ones exactly as long as nothing is lost**:
whatever a new session is asked, with whatever files, the two agree if and only if no operation that
adds many files failed after some of them were accepted. -/
theorem sources_eq_accepted_iff (c : Collector C) (ops : List (Files × Operation)) :
    (afterOver T (ofCompiler c) ops).sources =
        accepted (traceOf (turnsOver T (ofCompiler c) ops)) ↔
      ∀ t ∈ turnsOver T (ofCompiler c) ops, t.isHalfDone → accepted t.step.trace = 0 := by
  have h := sources_add_lost T (ofCompiler c) ops
  have hstart : (ofCompiler c : Session (Collector C) (Ready R)).sources = 0 := rfl
  have hlost := accepted_traceOf_eq_zero ((turnsOver T (ofCompiler c) ops).filter Turn.isHalfDone)
  simp only [List.mem_filter, and_imp] at hlost
  rw [← hlost]
  omega

/-- A missing file after one that is accepted: the operation fails, and the first file is lost. -/
theorem addPaths_of_missing {a b : String} {source : ByteArray} {fault : FileFault}
    (ha : T.ruleFiles fs a = .ok [a]) (hb : T.ruleFiles fs b = .ok [b])
    (hread : fs.read a = .ok source)
    (hmissing : fs.read b = .error fault)
    (hsource : (T.addSource fs source (some a) (T.start {})).1 = none) :
    let t := perform (T.engine fs) (.addPaths [a, b] false) (ofCompiler {})
    t.state.sources = 0 ∧ accepted t.trace = 1 := by
  simp [perform, answering, addPaths, request, ofCompiler, Toolchain.engine, Collector.ingest,
    Collector.addPaths, Collector.addEach, Collector.addFiles, Collector.addFile,
    Collector.submit, Toolchain.apply, ha, hb, hread, hmissing, hsource, Action.bind,
    Action.ofExcept, Reply.ofExcept, Except.mapError, Action.pure, Collector.startLog]

end Toolchain

/-- A single file with a rule. -/
def oneFile : Files :=
  { root := .dir [("a", .file "rule a { condition: true }".toUTF8)], cwd := [] }

/-- Two files, the second of which is missing: the first one is accepted and not counted. -/
theorem missing_file_loses_source :
    let t := perform (Rules.engine oneFile) (.addPaths ["a", "b"] false) (ofCompiler {})
    t.state.sources = 0 ∧ accepted t.trace = 1 := by
  have ha : Rules.toolchain.ruleFiles oneFile "a" = .ok ["a"] := rfl
  have hb : Rules.toolchain.ruleFiles oneFile "b" = .ok ["b"] := rfl
  have hread : oneFile.read "a" = .ok "rule a { condition: true }".toUTF8 := by cbv
  have hmissing : oneFile.read "b" = .error .notFound := by cbv
  have hsource : (Rules.toolchain.addSource oneFile "rule a { condition: true }".toUTF8 (some "a")
      (Rules.toolchain.start {})).1 = none := by
    have hnone : ((Rules.Compiler.start {}).addSource oneFile
        "rule a { condition: true }".toUTF8).1.isNone = true := by
      decide +kernel
    simp only [Rules.toolchain, Option.map_eq_none_iff]
    exact Option.isNone_iff_eq_none.1 hnone
  unfold Rules.engine
  exact addPaths_of_missing Rules.toolchain oneFile ha hb hread hmissing hsource

end Session

end RuleScan
