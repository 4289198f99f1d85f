import RuleScan.Proofs.Rules.Namespace
import RuleScan.Proofs.Session.Lifecycle
import RuleScan.Proofs.Session.SourceCount

/-!
# The namespace of a session

The namespace into which rules go is kept twice: a session remembers the name that it was given
last, and the compiler is in the namespace that it was told to open last. The trace tells both. What
the session remembers are the namespaces opened by name (`perform_space`), and the compiler is in
the last one that was opened at all (`afterOver_inUse`), which may be one of those that are opened
for single files. The main result `space_eq_opened_iff` says exactly when the two agree.
-/

namespace RuleScan

/-- The namespace that an entry of a trace opens, if it does. -/
def Event.space? : Event → Option String
  | .change (.space name) none => some name
  | _ => none

/-- The namespace after an entry of a trace. -/
def enter (space : Option String) (e : Event) : Option String := e.space?.or space

/-- The namespace that was opened last in a trace. -/
def opened (trace : List Event) : Option String := (trace.filterMap Event.space?).getLast?

@[simp] theorem opened_nil : opened [] = none := rfl

@[simp] theorem opened_append (t u : List Event) : opened (t ++ u) = (opened u).or (opened t) := by
  rw [opened, List.filterMap_append, List.getLast?_append]
  rfl

@[simp] theorem opened_call (c : Call) (t : List Event) : opened (.call c :: t) = opened t := rfl

@[simp] theorem opened_log (l : LogLevel) (w : String) (t : List Event) :
    opened (.log l w :: t) = opened t := rfl

theorem opened_cons (e : Event) (t : List Event) : opened (e :: t) = (opened t).or e.space? := by
  have hone : opened [e] = e.space? := by
    cases h : e.space? <;> simp [opened, h]
  rw [← hone]
  exact opened_append [e] t

theorem foldl_enter (space : Option String) (trace : List Event) :
    trace.foldl enter space = (opened trace).or space := by
  induction trace generalizing space with
  | nil => rfl
  | cons e rest ih => rw [List.foldl_cons, ih, opened_cons, enter, Option.or_assoc]

namespace Action

variable {σ τ α : Type}

/-- An action that opens no namespace. -/
def OpensNone (x : Action σ α) : Prop := x.Follows (fun _ => (none : Option String)) enter

theorem OpensNone.opened_eq {x : Action σ α} (hx : x.OpensNone) (s : σ) :
    opened (x s).trace = none := by
  have h := hx s
  rw [foldl_enter, Option.or_none] at h
  exact h.symm

theorem OpensNone.of_opened {x : Action σ α} (hx : ∀ s, opened (x s).trace = none) :
    x.OpensNone := fun s => by
  rw [foldl_enter, hx]
  rfl

theorem OpensNone.follows {x : Action σ α} {read : σ → Option String} (hx : x.OpensNone)
    (hread : ∀ s, read (x s).state = read s) : x.Follows read enter := fun s => by
  rw [hread, foldl_enter, hx.opened_eq, Option.none_or]

end Action

/-- Whether a request opens namespaces. -/
def Request.opens : Request → Bool
  | space _ => true
  | paths _ spacePerFile => spacePerFile
  | _ => false

namespace Rules.Collector

variable {C R : Type} {T : Toolchain C R} (N : T.Namespaces) (fs : Files)

/-! ## Where compilers put rules -/

/-- The namespace into which the next source goes; none while it is the default one. -/
def inUse (c : Collector C) : Option String := c.compiler.bind N.current

theorem submit_follows (change : Change) : (submit T fs change).Follows (inUse N) enter := by
  rintro ⟨options, timeout, compiler⟩
  have happly (c : C) : N.current (T.apply fs change c).2 =
      enter (N.current c) (.change change (T.apply fs change c).1) := by
    rw [N.current_apply]
    cases change <;> rfl
  cases compiler with
  | none =>
    have hstart := happly (T.start options)
    rw [N.current_start] at hstart
    exact hstart
  | some compiler => exact happly compiler

theorem addSpace_follows (name : String) : (addSpace T fs name).Follows (inUse N) enter := by
  unfold addSpace
  split
  · exact fun _ => rfl
  · exact submit_follows N fs _

theorem addFile_follows (path : String) : (addFile T fs path).Follows (inUse N) enter :=
  Action.Follows.bind (fun _ => rfl) fun _ => submit_follows N fs _

theorem addFiles_follows (spacePerFile : Bool) (files : List String) :
    (addFiles T fs spacePerFile files).Follows (inUse N) enter := by
  induction files with
  | nil => exact .pure ()
  | cons path rest ih =>
    have hrest := (addFile_follows N fs path).bind fun _ => ih
    cases spacePerFile with
    | false => exact hrest
    | true => exact (addSpace_follows N fs path).bind fun _ => hrest

theorem addEach_follows (spacePerFile : Bool) (paths : List String) :
    (addEach T fs spacePerFile paths).Follows (inUse N) enter := by
  induction paths with
  | nil => exact .pure 0
  | cons path rest ih =>
    exact Action.Follows.bind (fun _ => rfl) fun files =>
      (addFiles_follows N fs spacePerFile files).bind fun _ => ih.bind fun _ => .pure _

/-- **The compiler is in the namespace that was opened last.** -/
theorem ingest_follows (r : Request) : (ingest T fs r).Follows (inUse N) enter := by
  cases r with
  | space name => exact (addSpace_follows N fs name).bind fun _ => .pure 0
  | source text => exact (submit_follows N fs _).bind fun _ => .pure 0
  | file path => exact (addFile_follows N fs path).bind fun _ => .pure 0
  | paths paths spacePerFile =>
    have hlog (text : String) :
        (Action.log .debug text : Action (Collector C) Unit).Follows (inUse N) enter := fun _ => rfl
    exact (addEach_follows N fs spacePerFile paths).bind fun _ => (hlog _).bind fun _ => .pure _
  | ignoreModule module => exact (submit_follows N fs _).bind fun _ => .pure 0
  | define name value => exact (submit_follows N fs _).bind fun _ => .pure 0

/-! ## Which requests open namespaces -/

theorem submit_opensNone (T : Toolchain C R) {change : Change}
    (h : ∀ refusal, (Event.change change refusal).space? = none) :
    (submit T fs change).OpensNone := by
  have hone (refusal : Option String) : opened [.change change refusal] = none := by
    rw [opened_cons, h]
    rfl
  refine .of_opened ?_
  rintro ⟨options, timeout, compiler⟩
  cases compiler with
  | none => exact hone _
  | some c => exact hone _

theorem addFile_opensNone (T : Toolchain C R) (path : String) : (addFile T fs path).OpensNone :=
  Action.Follows.bind (fun _ => rfl) fun _ => submit_opensNone fs T fun _ => rfl

theorem addFiles_opensNone (T : Toolchain C R) (files : List String) :
    (addFiles T fs false files).OpensNone := by
  induction files with
  | nil => exact .pure ()
  | cons path rest ih => exact (addFile_opensNone fs T path).bind fun _ => ih

theorem addEach_opensNone (T : Toolchain C R) (paths : List String) :
    (addEach T fs false paths).OpensNone := by
  induction paths with
  | nil => exact .pure 0
  | cons path rest ih =>
    exact Action.Follows.bind (fun _ => rfl) fun files =>
      (addFiles_opensNone fs T files).bind fun _ => ih.bind fun _ => .pure _

theorem ingest_opensNone (T : Toolchain C R) {r : Request} (hr : r.opens = false) :
    (ingest T fs r).OpensNone := by
  cases r with
  | space name => cases hr
  | source text => exact (submit_opensNone fs T fun _ => rfl).bind fun _ => .pure 0
  | file path => exact (addFile_opensNone fs T path).bind fun _ => .pure 0
  | paths paths spacePerFile =>
    obtain rfl : spacePerFile = false := hr
    have hlog (text : String) : (Action.log .debug text : Action (Collector C) Unit).OpensNone :=
      fun _ => rfl
    exact (addEach_opensNone fs T paths).bind fun _ => (hlog _).bind fun _ => .pure _
  | ignoreModule module => exact (submit_opensNone fs T fun _ => rfl).bind fun _ => .pure 0
  | define name value => exact (submit_opensNone fs T fun _ => rfl).bind fun _ => .pure 0

/-- A namespace is opened if its name is accepted. -/
theorem addSpace_opened (T : Toolchain C R) (name : String) (c : Collector C) :
    opened (addSpace T fs name c).trace =
      if (addSpace T fs name c).reply.isOk then some name else none := by
  obtain ⟨options, timeout, compiler⟩ := c
  unfold addSpace
  split
  · rfl
  · cases compiler <;> rfl

end Rules.Collector

namespace Session

variable {α κ β : Type}

/-- Whether an operation puts each file into a namespace of its own. -/
def Operation.isPerFile : Operation → Bool
  | addFileWithNamespace _ => true
  | addPaths _ spacePerFile => spacePerFile
  | _ => false

theorem request_space (E : Engine κ β) (r : Request) (s : Session κ β) :
    (request E r s).state.space = s.space := by
  obtain ⟨phase, space, sources⟩ := s
  cases phase <;> rfl

/-! ## Operations that open no namespace -/

section Toolchain

open Rules

variable {C R : Type} (T : Toolchain C R) (fs : Files)

theorem request_opensNone {r : Request} (hr : r.opens = false) :
    (request (T.engine fs) r).OpensNone := by
  refine .of_opened ?_
  rintro ⟨phase, space, sources⟩
  cases phase with
  | ingesting c => exact (Collector.ingest_opensNone fs T hr).opened_eq c
  | built b => rfl
  | buildFailed => rfl
  | closed => rfl

theorem withBackend_opensNone {x : Action (Ready R) α} (c : Call) (hx : x.OpensNone) :
    (withBackend c x : Action (Session (Collector C) (Ready R)) α).OpensNone := by
  refine .of_opened ?_
  rintro ⟨phase, space, sources⟩
  cases phase with
  | built b => exact hx.opened_eq b
  | ingesting c => rfl
  | buildFailed => rfl
  | closed => rfl

theorem scan_opensNone (data : ByteArray) : ((T.engine fs).scan data).OpensNone := by
  refine .of_opened fun b => ?_
  change opened ((Action.ofExcept ((T.scan b.timeout data b.rules).mapError .scan)).bind _ b).trace
    = none
  cases T.scan b.timeout data b.rules <;> rfl

theorem scanIfBuilt_opensNone (data : ByteArray) :
    (scanIfBuilt (T.engine fs) data).OpensNone := by
  intro s
  cases hs : s.phase with
  | ingesting c => simp [scanIfBuilt, hs, enter, Event.space?]
  | _ =>
    have h := withBackend_opensNone (C := C) (.scan data) (scan_opensNone T fs data) s
    simpa [scanIfBuilt, hs, scan] using h

theorem release_opened (c : Collector C) : opened (Collector.release c) = none := by
  unfold Collector.release
  split <;> rfl

theorem build_opensNone (announce : Bool) : (build (T.engine fs) announce).OpensNone := by
  refine .of_opened ?_
  rintro ⟨phase, space, sources⟩
  cases phase with
  | ingesting c => cases announce <;> rfl
  | built b => rfl
  | buildFailed => rfl
  | closed => rfl

theorem close_opensNone : (close (T.engine fs)).OpensNone := by
  refine .of_opened ?_
  rintro ⟨phase, space, sources⟩
  cases phase with
  | ingesting c => exact release_opened c
  | built b => rfl
  | buildFailed => rfl
  | closed => rfl

/-! ## What sessions remember -/

/-- An action after which a session remembers the namespace that was opened last. -/
abbrev Remembers (x : Action (Session κ β) α) : Prop := x.Follows (·.space) enter

theorem Remembers.space_eq {x : Action (Session κ β) α} (hx : Remembers x) (s : Session κ β) :
    (x s).state.space = (opened (x s).trace).or s.space := by
  rw [← foldl_enter]
  exact hx s

theorem Remembers.answering {x : Action (Session κ β) α} {f : α → Answer} (hx : Remembers x) :
    Remembers (answering f x) :=
  hx.bind fun _ => .pure _

theorem request_remembers {r : Request} (hr : r.opens = false) :
    Remembers (request (T.engine fs) r) :=
  (request_opensNone T fs hr).follows (request_space _ r)

theorem request_space_opened (name : String) (s : Session (Collector C) (Ready R)) :
    opened (request (T.engine fs) (.space name) s).trace =
      if (request (T.engine fs) (.space name) s).reply.isOk then some name else none := by
  obtain ⟨phase, space, sources⟩ := s
  cases phase with
  | ingesting c =>
    have hspace := Collector.addSpace_opened fs T name c
    rw [← Action.trace_map _ (fun _ => 0), ← Action.isOk_map (fun _ => 0)] at hspace
    exact hspace
  | built b => rfl
  | buildFailed => rfl
  | closed => rfl

theorem addNamespace_remembers (name : String) : Remembers (addNamespace (T.engine fs) name) := by
  intro s
  have hopened := request_space_opened T fs name s
  have hspace := request_space (T.engine fs) (.space name) s
  simp only [addNamespace, Action.bind_eq]
  rcases hr : (request (T.engine fs) (.space name) s).reply with n | e | words
  · rw [hr] at hopened
    rw [Action.bind_of_ok hr, foldl_enter, opened_append, hopened]
    rfl
  · rw [hr] at hopened
    rw [Action.bind_of_error hr, foldl_enter, hopened, hspace]
    rfl
  · rw [hr] at hopened
    rw [Action.bind_of_crash hr, foldl_enter, hopened, hspace]
    rfl

theorem count_remembers (n : Nat) : Remembers (count n : Action (Session κ β) Unit) := fun _ => rfl

theorem addFile_remembers (list : String) : Remembers (addFile (T.engine fs) list) := by
  have hfile (path : String) : Remembers (addOneFile (T.engine fs) path) :=
    (request_remembers T fs rfl).bind fun _ => count_remembers 1
  exact Action.Follows.bind (fun _ => rfl) fun paths =>
    (Action.Follows.forEach hfile paths).bind fun _ => .pure ()

theorem withBackend_remembers {x : Action (Ready R) α} (c : Call) (hx : x.OpensNone) :
    Remembers (withBackend c x : Action (Session (Collector C) (Ready R)) α) := by
  refine (withBackend_opensNone c hx).follows ?_
  rintro ⟨phase, space, sources⟩
  cases phase <;> rfl

theorem scanIfBuilt_remembers (data : ByteArray) : Remembers (scanIfBuilt (T.engine fs) data) := by
  refine (scanIfBuilt_opensNone T fs data).follows ?_
  rintro ⟨phase, space, sources⟩
  cases phase <;> rfl

theorem build_remembers (announce : Bool) : Remembers (build (T.engine fs) announce) := by
  refine (build_opensNone T fs announce).follows ?_
  rintro ⟨phase, space, sources⟩
  cases phase with
  | ingesting c => cases announce <;> rfl
  | built b => rfl
  | buildFailed => rfl
  | closed => rfl

theorem close_remembers : Remembers (close (T.engine fs)) := by
  refine (close_opensNone T fs).follows ?_
  rintro ⟨phase, space, sources⟩
  cases phase <;> rfl

/-- **A session remembers the namespace that was opened last**, unless each file gets its own. -/
theorem perform_remembers {op : Operation} (hop : op.isPerFile = false) :
    Remembers (perform (T.engine fs) op) := by
  cases op with
  | addNamespace name => exact (addNamespace_remembers T fs name).answering
  | addSource text =>
    have hsource : Remembers (addSource (T.engine fs) text) :=
      (request_remembers T fs rfl).bind fun _ => count_remembers 1
    exact hsource.answering
  | addFile list => exact (addFile_remembers T fs list).answering
  | addFileWithNamespace list => cases hop
  | addPaths paths spacePerFile =>
    obtain rfl : spacePerFile = false := hop
    have hpaths : Remembers (addPaths (T.engine fs) paths false) :=
      (request_remembers T fs rfl).bind fun n => (count_remembers n).bind fun _ _ => rfl
    exact hpaths.answering
  | ignoreModule module =>
    have hmodule : Remembers (ignoreModule (T.engine fs) module) :=
      (request_remembers T fs rfl).bind fun _ _ => rfl
    exact hmodule.answering
  | define name value =>
    have hdefine : Remembers (defineVariable (T.engine fs) name value) :=
      (request_remembers T fs rfl).bind fun _ _ => rfl
    exact hdefine.answering
  | build announce => exact (build_remembers T fs announce).answering
  | scan data => exact (withBackend_remembers (.scan data) (scan_opensNone T fs data)).answering
  | scanIfBuilt data => exact (scanIfBuilt_remembers T fs data).answering
  | ruleCount => exact (withBackend_remembers .ruleCount fun _ => rfl).answering
  | exportRules => exact (withBackend_remembers .serialize fun _ => rfl).answering
  | close => exact (close_remembers T fs).answering

/-- An action that leaves the namespace that a session remembers as it is. -/
def KeepsSpace (x : Action (Session κ β) α) : Prop := ∀ s, (x s).state.space = s.space

theorem KeepsSpace.bind {γ : Type} {x : Action (Session κ β) α}
    {f : α → Action (Session κ β) γ} (hx : KeepsSpace x) (hf : ∀ a, KeepsSpace (f a)) :
    KeepsSpace (x.bind f) := fun s => by
  rcases hr : (x s).reply with a | e | words
  · rw [Action.bind_of_ok hr]
    exact (hf a _).trans (hx s)
  · rw [Action.bind_of_error hr]
    exact hx s
  · rw [Action.bind_of_crash hr]
    exact hx s

theorem addPaths_keepsSpace (E : Engine κ β) (paths : List String) (spacePerFile : Bool) :
    KeepsSpace (addPaths E paths spacePerFile) :=
  .bind (request_space E _) fun _ => .bind (fun _ => rfl) fun _ _ => rfl

/-- **It does not remember the namespaces of single files.** -/
theorem perform_keepsSpace (E : Engine κ β) {op : Operation} (hop : op.isPerFile) :
    KeepsSpace (perform E op) := by
  cases op with
  | addFileWithNamespace list =>
    refine .bind (.bind (fun _ => rfl) fun paths => ?_) fun _ _ => rfl
    exact (addPaths_keepsSpace E paths true).bind fun _ _ => rfl
  | addPaths paths spacePerFile =>
    exact (addPaths_keepsSpace E paths spacePerFile).bind fun _ _ => rfl
  | _ => cases hop

/-! ## Where a session puts rules -/

variable {T} (N : T.Namespaces)

/-- The namespace of the next source, while there is a compiler. -/
def inUse (s : Session (Collector C) (Ready R)) : Option String :=
  match s.phase with
  | .ingesting c => c.inUse N
  | _ => none

theorem request_follows (r : Request) :
    (request (T.engine fs) r).Follows (inUse N) enter := by
  rintro ⟨phase, space, sources⟩
  cases phase with
  | ingesting c => exact Collector.ingest_follows N fs r c
  | built b => rfl
  | buildFailed => rfl
  | closed => rfl

theorem addPaths_follows (paths : List String) (spacePerFile : Bool) :
    (addPaths (T.engine fs) paths spacePerFile).Follows (inUse N) enter :=
  (request_follows fs N _).bind fun _ => .bind (fun _ => rfl) fun _ _ => rfl

theorem withBackend_follows {x : Action (Ready R) α} (c : Call) (hx : x.OpensNone) :
    (withBackend c x : Action (Session (Collector C) (Ready R)) α).Follows (inUse N) enter := by
  refine (withBackend_opensNone c hx).follows ?_
  rintro ⟨phase, space, sources⟩
  cases phase <;> rfl

/-- **The compiler of a session is in the namespace that was opened last**, however it was opened,
until it is given up. -/
theorem perform_follows {op : Operation} (hop : op.isBuild = false) (hop' : op.isClose = false) :
    (perform (T.engine fs) op).Follows (inUse N) enter := by
  have hpure {α : Type} {x : Action (Session (Collector C) (Ready R)) α} {f : α → Answer}
      (hx : x.Follows (inUse N) enter) : (answering f x).Follows (inUse N) enter :=
    hx.bind fun _ => .pure _
  cases op with
  | addNamespace name => exact hpure ((request_follows fs N _).bind fun _ _ => rfl)
  | addSource text => exact hpure ((request_follows fs N _).bind fun _ _ => rfl)
  | addFile list =>
    have hfile (path : String) : (addOneFile (T.engine fs) path).Follows (inUse N) enter :=
      (request_follows fs N _).bind fun _ _ => rfl
    exact hpure (.bind (fun _ => rfl) fun paths => (Action.Follows.forEach hfile paths).bind
      fun _ _ => rfl)
  | addFileWithNamespace list =>
    exact hpure (.bind (fun _ => rfl) fun paths => (addPaths_follows fs N paths true).bind
      fun _ _ => rfl)
  | addPaths paths spacePerFile => exact hpure (addPaths_follows fs N paths spacePerFile)
  | ignoreModule module => exact hpure ((request_follows fs N _).bind fun _ _ => rfl)
  | define name value => exact hpure ((request_follows fs N _).bind fun _ _ => rfl)
  | build announce => cases hop
  | scan data => exact hpure (withBackend_follows N _ (scan_opensNone T fs data))
  | scanIfBuilt data =>
    refine hpure ((scanIfBuilt_opensNone T fs data).follows ?_)
    rintro ⟨phase, space, sources⟩
    cases phase <;> rfl
  | ruleCount => exact hpure (withBackend_follows N _ fun _ => rfl)
  | exportRules => exact hpure (withBackend_follows N _ fun _ => rfl)
  | close => cases hop'

end Toolchain

/-! ## Runs -/

/-- Whether a turn opens a namespace. -/
def Turn.opens (t : Turn κ β) : Bool := (opened t.step.trace).isSome

/-- Whether no file got a namespace of its own in a turn. -/
def Turn.isPlain (t : Turn κ β) : Bool := !t.op.isPerFile

theorem opened_traceOf_cons (t : Turn κ β) (ts : List (Turn κ β)) :
    opened (traceOf (t :: ts)) = (opened (traceOf ts)).or (opened t.step.trace) :=
  opened_append _ _

theorem nextStatus_eq_ingesting {op : Operation} {ok : Bool} {status : Status}
    (h : nextStatus op ok status = .ingesting) :
    op.isBuild = false ∧ op.isClose = false ∧ status = .ingesting := by
  unfold nextStatus at h
  split at h
  · cases h
  · next hclose =>
    split at h
    · cases ok <;> cases h
    · next hbuild => grind

section Runs

open Rules

variable {C R : Type} {T : Toolchain C R}

/-- What a session remembers is what was opened by name. -/
theorem afterOver_space (s : Session (Collector C) (Ready R)) (ops : List (Files × Operation)) :
    (afterOver T s ops).space =
      (opened (traceOf ((turnsOver T s ops).filter Turn.isPlain))).or s.space := by
  induction ops generalizing s with
  | nil => rfl
  | cons o rest ih =>
    obtain ⟨fs, op⟩ := o
    have hafter : afterOver T s ((fs, op) :: rest) =
      afterOver T (perform (T.engine fs) op s).state rest := rfl
    rw [hafter, ih, turnsOver, List.filter_cons, Turn.isPlain]
    cases hop : op.isPerFile with
    | true => rw [perform_keepsSpace (T.engine fs) hop]; rfl
    | false =>
      rw [(perform_remembers T fs hop).space_eq, ← Option.or_assoc]
      exact congrArg (·.or s.space)
        (opened_traceOf_cons ⟨op, s, perform (T.engine fs) op s⟩ _).symm

/-- Whoever collects rules after an operation did so before, and the compiler has followed. -/
theorem perform_inUse (N : T.Namespaces) (fs : Files) (op : Operation)
    {s : Session (Collector C) (Ready R)}
    (hs : (perform (T.engine fs) op s).state.status = .ingesting) :
    s.status = .ingesting ∧
      (perform (T.engine fs) op s).state.inUse N =
        (opened (perform (T.engine fs) op s).trace).or (s.inUse N) := by
  have hnext := (perform_effect (T.engine fs) op s).status_eq
  obtain ⟨hop, hop', hstatus⟩ := nextStatus_eq_ingesting (hnext.symm.trans hs)
  refine ⟨hstatus, ?_⟩
  rw [← foldl_enter]
  exact perform_follows fs N hop hop' s

/-- The compiler is in the namespace that was opened last. -/
theorem afterOver_inUse (N : T.Namespaces) {s : Session (Collector C) (Ready R)}
    {ops : List (Files × Operation)} (hs : (afterOver T s ops).status = .ingesting) :
    s.status = .ingesting ∧
      (afterOver T s ops).inUse N = (opened (traceOf (turnsOver T s ops))).or (s.inUse N) := by
  induction ops generalizing s with
  | nil => exact ⟨hs, rfl⟩
  | cons o rest ih =>
    obtain ⟨fs, op⟩ := o
    obtain ⟨hfirst, hrest⟩ := ih hs
    obtain ⟨hstatus, hinUse⟩ := perform_inUse N fs op hfirst
    refine ⟨hstatus, ?_⟩
    have hafter : afterOver T s ((fs, op) :: rest) =
      afterOver T (perform (T.engine fs) op s).state rest := rfl
    rw [hafter, hrest, hinUse, ← Option.or_assoc]
    exact congrArg (·.or (s.inUse N))
      (opened_traceOf_cons ⟨op, s, perform (T.engine fs) op s⟩ _).symm

/-- The last turn that opens a namespace, if there is one. -/
def lastOpening (ts : List (Turn κ β)) : Option (Turn κ β) := (ts.filter Turn.opens).getLast?

theorem lastOpening_cons (t : Turn κ β) (ts : List (Turn κ β)) :
    lastOpening (t :: ts) = (lastOpening ts).or (if t.opens then some t else none) := by
  unfold lastOpening
  rw [List.filter_cons]
  split
  · rw [List.getLast?_cons]
    cases (ts.filter Turn.opens).getLast? <;> rfl
  · rw [Option.or_none]

theorem opens_of_lastOpening {ts : List (Turn κ β)} {t : Turn κ β} (h : lastOpening ts = some t) :
    t.opens :=
  (List.mem_filter.1 (List.mem_of_getLast? h)).2

/-- A session that opens nothing remembers what it did before. -/
theorem perform_space_of_opensNone {fs : Files} {op : Operation}
    {s : Session (Collector C) (Ready R)}
    (h : opened (perform (T.engine fs) op s).trace = none) :
    (perform (T.engine fs) op s).state.space = s.space := by
  cases hop : op.isPerFile with
  | true => exact perform_keepsSpace (T.engine fs) hop s
  | false => rw [(perform_remembers T fs hop).space_eq, h, Option.none_or]

/-- What the last turn that opens a namespace says about a run. -/
def Decides (t : Turn κ β) (space last : Option String) : Prop :=
  last = opened t.step.trace ∧ space = t.step.state.space ∧
    (t.op.isPerFile = false → t.step.state.space = opened t.step.trace)

/-- **The last turn that opens a namespace decides** what is open and what a session remembers. -/
theorem afterOver_lastOpening (s : Session (Collector C) (Ready R))
    (ops : List (Files × Operation)) :
    (lastOpening (turnsOver T s ops)).elim
      (opened (traceOf (turnsOver T s ops)) = none ∧ (afterOver T s ops).space = s.space)
      fun t => Decides t (afterOver T s ops).space (opened (traceOf (turnsOver T s ops))) := by
  induction ops generalizing s with
  | nil => exact ⟨rfl, rfl⟩
  | cons o rest ih =>
    obtain ⟨fs, op⟩ := o
    have hafter : afterOver T s ((fs, op) :: rest) =
      afterOver T (perform (T.engine fs) op s).state rest := rfl
    have hrest := ih (perform (T.engine fs) op s).state
    rw [hafter, turnsOver, lastOpening_cons, opened_traceOf_cons]
    cases hlast : lastOpening (turnsOver T (perform (T.engine fs) op s).state rest) with
    | some t =>
      rw [hlast] at hrest
      obtain ⟨hopened, hspace, hplain⟩ := hrest
      obtain ⟨name, hname⟩ := Option.isSome_iff_exists.1 (opens_of_lastOpening hlast)
      refine ⟨?_, hspace, hplain⟩
      rw [hopened, hname]
      rfl
    | none =>
      rw [hlast] at hrest
      obtain ⟨hopened, hspace⟩ := hrest
      rw [hopened, hspace, Option.none_or, Option.none_or]
      cases hfirst : opened (perform (T.engine fs) op s).trace with
      | none =>
        rw [Turn.opens, hfirst]
        exact ⟨rfl, perform_space_of_opensNone hfirst⟩
      | some name =>
        rw [Turn.opens, hfirst]
        refine ⟨hfirst.symm, rfl, fun hop => ?_⟩
        dsimp only
        rw [(perform_remembers T fs hop).space_eq, hfirst]
        rfl

/-- **A session knows the namespace that its compiler is in, unless files got their own last**: for
every toolchain, a new session and whatever it is asked, with whatever files, the compiler is in the
namespace that was opened last, as long as there is one; what the session remembers are the
namespaces opened by name; and the two agree if and only if the last turn that opened a namespace
did not do so for single files, or left the compiler where the session thinks it is. -/
theorem space_eq_opened_iff (N : T.Namespaces) (config : Config) (ops : List (Files × Operation)) :
    let start : Session (Collector C) (Ready R) := ofCompiler (.ofConfig config)
    let s := afterOver T start ops
    let ts := turnsOver T start ops
    (s.status = .ingesting → s.inUse N = opened (traceOf ts)) ∧
      s.space = opened (traceOf (ts.filter Turn.isPlain)) ∧
      (s.space = opened (traceOf ts) ↔
        ∀ t ∈ lastOpening ts, t.op.isPerFile → t.step.state.space = opened t.step.trace) := by
  intro start s ts
  refine ⟨fun hs => ?_, ?_, ?_⟩
  · rw [(afterOver_inUse N hs).2]
    exact Option.or_none
  · rw [afterOver_space]
    exact Option.or_none
  · have hdecides := afterOver_lastOpening (T := T) start ops
    cases hlast : lastOpening ts with
    | none =>
      rw [hlast] at hdecides
      obtain ⟨hopened, hspace⟩ := hdecides
      have hboth : s.space = opened (traceOf ts) := hspace.trans hopened.symm
      simp [hboth]
    | some t =>
      rw [hlast] at hdecides
      obtain ⟨hopened, hspace, hplain⟩ := hdecides
      rw [hopened, hspace]
      cases hop : t.op.isPerFile with
      | true => simp [hop]
      | false => simp [hop, hplain hop]

/-- A file that gets a namespace of its own is added, and the compiler is in that namespace. -/
theorem addPaths_of_file (N : T.Namespaces) (fs : Files) {path : String} {source : ByteArray}
    (hpath : T.ruleFiles fs path = .ok [path]) (hname : Text.isBlankText path = false)
    (hread : fs.read path = .ok source)
    (hsource : (T.addSource fs source (some path) (T.newSpace path (T.start {}))).1 = none) :
    let t := perform (T.engine fs) (.addPaths [path] true) (ofCompiler {})
    t.reply.isOk ∧ t.state.inUse N = some path := by
  simp [perform, answering, addPaths, request, ofCompiler, Toolchain.engine, Collector.ingest,
    Collector.addPaths, Collector.addEach, Collector.addFiles, Collector.addSpace,
    Collector.addFile, Collector.submit, Toolchain.apply, hpath, hname, hread, hsource,
    Action.bind, Action.ofExcept, Reply.ofExcept, Reply.isOk, Except.mapError, Collector.startLog,
    Action.log, Action.emit, Action.pure, count, Action.modify, inUse, Collector.inUse,
    N.current_addSource, N.current_newSpace]

end Runs

/-- A single file in a namespace of its own: the compiler is in it, and the session thinks that no
namespace was opened. -/
theorem perFile_leaves_session_behind :
    let t := perform (Rules.engine oneFile) (.addPaths ["a"] true) (ofCompiler {})
    t.reply.isOk ∧ t.state.status = .ingesting ∧ t.state.inUse Rules.namespaces = some "a" ∧
      t.state.space = none := by
  have hpath : Rules.toolchain.ruleFiles oneFile "a" = .ok ["a"] := rfl
  have hread : oneFile.read "a" = .ok "rule a { condition: true }".toUTF8 := by cbv
  have hsource : (Rules.toolchain.addSource oneFile "rule a { condition: true }".toUTF8 (some "a")
      (Rules.toolchain.newSpace "a" (Rules.toolchain.start {}))).1 = none := by
    have hnone : (((Rules.Compiler.start {}).newSpace "a").addSource oneFile
        "rule a { condition: true }".toUTF8).1.isNone = true := by
      decide +kernel
    simp only [Rules.toolchain, Option.map_eq_none_iff]
    exact Option.isNone_iff_eq_none.1 hnone
  obtain ⟨hok, hinUse⟩ :=
    addPaths_of_file Rules.namespaces oneFile hpath (by decide) hread hsource
  refine ⟨hok, ?_, hinUse, perform_keepsSpace (Rules.engine oneFile) rfl (ofCompiler {})⟩
  exact (perform_effect (Rules.engine oneFile) (.addPaths ["a"] true) (ofCompiler {})).status_eq

end Session

end RuleScan
