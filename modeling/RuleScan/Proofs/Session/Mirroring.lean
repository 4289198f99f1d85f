import RuleScan.Proofs.Session.Operation

/-!
# Sessions over engines that do the same

An engine mirrors another one if its compilers, read in some way, do what those of the other one do,
but for log lines, and its backends are those of the other one (`Engine.Mirrors`). Then sessions
over the two engines do the same, whatever they are asked (`Session.perform_mirrors`).
-/

namespace RuleScan

variable {κ ν β α γ : Type}

/-- An engine whose compilers do what those of another one do, but for log lines, and whose backends
are those of the other one. -/
structure Engine.Mirrors (E : Engine κ β) (D : Engine ν β) (read : κ → ν) : Prop where
  ingest : ∀ r c, (E.ingest r).Mirrors (D.ingest r) read id c
  build : ∀ c, E.build.Mirrors D.build read id c
  releaseCompiler : ∀ c,
    happenings (E.releaseCompiler c) = happenings (D.releaseCompiler (read c))
  scan : E.scan = D.scan
  ruleCount : E.ruleCount = D.ruleCount
  serialize : E.serialize = D.serialize
  releaseBackend : E.releaseBackend = D.releaseBackend

/-- A phase with the compiler that is read off its own. -/
def Phase.mapCompiler (read : κ → ν) : Phase κ β → Phase ν β
  | .ingesting c => .ingesting (read c)
  | .built b => .built b
  | .buildFailed => .buildFailed
  | .closed => .closed

@[simp] theorem happenings_call (c : Call) (t : List Event) :
    happenings (.call c :: t) = .call c :: happenings t := rfl

namespace Action.Mirrors

variable {σ τ : Type} {read : σ → τ}

theorem pure (a : α) (s : σ) : (Action.pure a).Mirrors (Action.pure a) read id s := ⟨rfl, rfl, rfl⟩

theorem ofExcept (r : Except Failure α) (s : σ) :
    (Action.ofExcept r).Mirrors (Action.ofExcept r) read id s :=
  ⟨(Reply.map_id _).symm, rfl, rfl⟩

theorem forEach {f : γ → Action σ α} {g : γ → Action τ α}
    (h : ∀ c s, (f c).Mirrors (g c) read id s) (l : List γ) (s : σ) :
    (Action.forEach f l).Mirrors (Action.forEach g l) read id s := by
  induction l generalizing s with
  | nil => exact pure [] s
  | cons c rest ih =>
    exact (h c s).bind fun b t _ _ => (ih t).bind fun bs u _ _ => pure (b :: bs) u

end Action.Mirrors

namespace Session

/-- A session with the compiler that is read off its own. -/
def mapCompiler (read : κ → ν) (s : Session κ β) : Session ν β :=
  { phase := s.phase.mapCompiler read, space := s.space, sources := s.sources }

/-- Actions of sessions over two kinds of compilers that do the same, but for log lines. -/
def Mirrors (read : κ → ν) (x : Action (Session κ β) α) (y : Action (Session ν β) α) : Prop :=
  ∀ s, x.Mirrors y (mapCompiler read) id s

namespace Mirrors

variable {read : κ → ν} {x : Action (Session κ β) α} {y : Action (Session ν β) α}

theorem bind {f : α → Action (Session κ β) γ} {g : α → Action (Session ν β) γ}
    (hx : Mirrors read x y) (hf : ∀ a, Mirrors read (f a) (g a)) :
    Mirrors read (x.bind f) (y.bind g) :=
  fun s => (hx s).bind fun a t _ _ => hf a t

theorem pure (a : α) : Mirrors read (.pure a : Action (Session κ β) α) (.pure a) :=
  fun s => .pure a s

theorem answering (hx : Mirrors read x y) (f : α → Answer) :
    Mirrors read (answering f x) (Session.answering f y) :=
  hx.bind fun a => pure (f a)

end Mirrors

variable {E : Engine κ β} {D : Engine ν β} {read : κ → ν}

theorem request_mirrors (h : E.Mirrors D read) (r : Request) :
    Mirrors read (request E r) (request D r) := by
  rintro ⟨phase, space, sources⟩
  cases phase with
  | ingesting c =>
    obtain ⟨hreply, hstate, hhappen⟩ := h.ingest r c
    refine ⟨hreply, ?_, congrArg (Event.call (.ingest r) :: ·) hhappen⟩
    change Session.mk (.ingesting (read (E.ingest r c).state)) space sources = _
    rw [hstate]
    rfl
  | built b => exact ⟨rfl, rfl, rfl⟩
  | buildFailed => exact ⟨rfl, rfl, rfl⟩
  | closed => exact ⟨rfl, rfl, rfl⟩

theorem count_mirrors (n : Nat) :
    Mirrors read (count n : Action (Session κ β) Unit) (count n) :=
  fun _ => ⟨rfl, rfl, rfl⟩

theorem addNamespace_mirrors (h : E.Mirrors D read) (name : String) :
    Mirrors read (addNamespace E name) (addNamespace D name) :=
  (request_mirrors h _).bind fun _ _ => ⟨rfl, rfl, rfl⟩

theorem addSource_mirrors (h : E.Mirrors D read) (text : String) :
    Mirrors read (addSource E text) (addSource D text) :=
  (request_mirrors h _).bind fun _ => count_mirrors 1

theorem addPaths_mirrors (h : E.Mirrors D read) (paths : List String) (spacePerFile : Bool) :
    Mirrors read (addPaths E paths spacePerFile) (addPaths D paths spacePerFile) :=
  (request_mirrors h _).bind fun n => (count_mirrors n).bind fun _ => .pure n

theorem addOneFile_mirrors (h : E.Mirrors D read) (path : String) :
    Mirrors read (addOneFile E path) (addOneFile D path) :=
  (request_mirrors h _).bind fun _ => count_mirrors 1

theorem addFile_mirrors (h : E.Mirrors D read) (list : String) :
    Mirrors read (addFile E list) (addFile D list) := fun s =>
  (Action.Mirrors.ofExcept _ s).bind fun paths t _ _ =>
    (Action.Mirrors.forEach (addOneFile_mirrors h) paths t).bind fun _ u _ _ => .pure () u

theorem addFileWithNamespace_mirrors (h : E.Mirrors D read) (list : String) :
    Mirrors read (addFileWithNamespace E list) (addFileWithNamespace D list) := fun s =>
  (Action.Mirrors.ofExcept _ s).bind fun paths t _ _ =>
    (addPaths_mirrors h paths true t).bind fun _ u _ _ => .pure () u

theorem ignoreModule_mirrors (h : E.Mirrors D read) (module : String) :
    Mirrors read (ignoreModule E module) (ignoreModule D module) :=
  (request_mirrors h _).bind fun _ => .pure ()

theorem defineVariable_mirrors (h : E.Mirrors D read) (name : String) (value : ExternalValue) :
    Mirrors read (defineVariable E name value) (defineVariable D name value) :=
  (request_mirrors h _).bind fun _ => .pure ()

/-- What is done with a backend has nothing to do with compilers. -/
theorem withBackend_mirrors (c : Call) {x y : Action β α} (h : x = y) :
    Mirrors read (withBackend c x : Action (Session κ β) α) (withBackend c y) := by
  subst h
  rintro ⟨phase, space, sources⟩
  cases phase with
  | ingesting c => exact ⟨rfl, rfl, rfl⟩
  | built b => exact ⟨(Reply.map_id _).symm, rfl, rfl⟩
  | buildFailed => exact ⟨rfl, rfl, rfl⟩
  | closed => exact ⟨rfl, rfl, rfl⟩

theorem scan_mirrors (h : E.Mirrors D read) (data : ByteArray) :
    Mirrors read (scan E data) (scan D data) :=
  withBackend_mirrors _ (congrFun h.scan data)

theorem scanIfBuilt_mirrors (h : E.Mirrors D read) (data : ByteArray) :
    Mirrors read (scanIfBuilt E data) (scanIfBuilt D data) := by
  rintro ⟨phase, space, sources⟩
  cases phase with
  | ingesting c => exact ⟨rfl, rfl, rfl⟩
  | built b =>
    obtain ⟨hreply, hstate, hhappen⟩ := scan_mirrors h data ⟨.built b, space, sources⟩
    exact ⟨hreply, hstate, hhappen⟩
  | buildFailed => exact ⟨rfl, rfl, rfl⟩
  | closed => exact ⟨rfl, rfl, rfl⟩

theorem install_mirrors (h : E.Mirrors D read) (announce : Bool) (b : β) :
    Mirrors read (install E announce b) (install D announce b) := by
  intro s
  cases announce with
  | false => exact ⟨rfl, rfl, rfl⟩
  | true =>
    rcases hcount : (D.ruleCount b).reply with n | e | words <;> constructor <;>
      simp [install, h.ruleCount, hcount, h.releaseBackend, mapCompiler, Phase.mapCompiler,
        Reply.map]

theorem build_mirrors (h : E.Mirrors D read) (announce : Bool) :
    Mirrors read (build E announce) (build D announce) := by
  rintro ⟨phase, space, sources⟩
  cases phase with
  | ingesting c =>
    obtain ⟨hreply, hstate, hhappen⟩ := h.build c
    have hrelease := h.releaseCompiler (E.build c).state
    rw [hstate] at hrelease
    have htrace : happenings
        (.call .build :: (E.build c).trace ++ .call .releaseCompiler ::
          E.releaseCompiler (E.build c).state) =
        happenings (.call .build :: (D.build (read c)).trace ++ .call .releaseCompiler ::
          D.releaseCompiler (D.build (read c)).state) := by
      rw [List.cons_append, List.cons_append, happenings_call, happenings_call, happenings_append,
        happenings_append, happenings_call, happenings_call, hhappen, hrelease]
    rw [Reply.map_id] at hreply
    rcases hbuild : (D.build (read c)).reply with b | e | words <;> rw [hbuild] at hreply
    · obtain ⟨hinstalled, hleft, hdone⟩ :=
        install_mirrors h announce b ⟨.buildFailed, space, sources⟩
      constructor <;> simp only [build, mapCompiler, Phase.mapCompiler, hbuild, hreply]
      · exact hinstalled
      · exact hleft
      · rw [happenings_append _ (install E announce b _).trace, htrace, hdone]
        exact (happenings_append _ _).symm
    · constructor <;> simp only [build, mapCompiler, Phase.mapCompiler, hbuild, hreply, Reply.map,
        happenings_append, htrace]
    · constructor <;> simp only [build, mapCompiler, Phase.mapCompiler, hbuild, hreply, Reply.map,
        htrace]
  | built b => exact ⟨rfl, rfl, rfl⟩
  | buildFailed => exact ⟨rfl, rfl, rfl⟩
  | closed => exact ⟨rfl, rfl, rfl⟩

theorem close_mirrors (h : E.Mirrors D read) : Mirrors read (close E) (close D) := by
  rintro ⟨phase, space, sources⟩
  cases phase with
  | ingesting c =>
    exact ⟨rfl, rfl, congrArg (Event.call .releaseCompiler :: ·) (h.releaseCompiler c)⟩
  | built b =>
    refine ⟨rfl, rfl, ?_⟩
    change happenings (_ :: _ :: E.releaseBackend b) = happenings (_ :: _ :: D.releaseBackend b)
    rw [h.releaseBackend]
    rfl
  | buildFailed => exact ⟨rfl, rfl, rfl⟩
  | closed => exact ⟨rfl, rfl, rfl⟩

/-- **Whatever sessions over the two engines are asked**, they do the same. -/
theorem perform_mirrors (h : E.Mirrors D read) (op : Operation) :
    Mirrors read (perform E op) (perform D op) := by
  cases op with
  | addNamespace name => exact (addNamespace_mirrors h name).answering _
  | addSource text => exact (addSource_mirrors h text).answering _
  | addFile list => exact (addFile_mirrors h list).answering _
  | addFileWithNamespace list => exact (addFileWithNamespace_mirrors h list).answering _
  | addPaths paths spacePerFile => exact (addPaths_mirrors h paths spacePerFile).answering _
  | ignoreModule module => exact (ignoreModule_mirrors h module).answering _
  | define name value => exact (defineVariable_mirrors h name value).answering _
  | build announce => exact (build_mirrors h announce).answering _
  | scan data => exact (scan_mirrors h data).answering _
  | scanIfBuilt data => exact (scanIfBuilt_mirrors h data).answering _
  | ruleCount => exact (withBackend_mirrors _ h.ruleCount).answering _
  | exportRules => exact (withBackend_mirrors _ h.serialize).answering _
  | close => exact (close_mirrors h).answering _

end Session

end RuleScan
