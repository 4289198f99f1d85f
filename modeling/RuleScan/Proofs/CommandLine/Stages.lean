import RuleScan.Proofs.CommandLine.Job

/-!
# The stages of a run

The arguments of a run say which stages it goes through, and in which order (`stages`). Each stage
takes what those before it have made, its `Bench`, and adds to it (`Stage.job`); it finds the files
as they then are. A run is nothing but this, followed by the printing (`job_staged`): only the cache
is ever written, so that the engine, which reads files, is the same in all stages before.

What is gone through stage by stage stops at the first stage that fails (`goThrough_cases`).
-/

namespace RuleScan

/-- A sample with another buffer on a channel. -/
def Sample.set (s : Sample) (data : Option ByteArray) : Channel → Sample
  | .content => { s with content := data }
  | .comment => { s with comment := data }
  | .metadata => { s with metadata := data }

namespace CommandLine

open Rules

variable {C R M : Type}

/-! ## Stages -/

/-- The stages that a run may go through. -/
inductive Stage
  | config
  | cache (path : String)
  /-- Whether any rules are given. -/
  | rulesGiven
  | ignored (module : String)
  | definition (text : String)
  | space (name : String)
  | paths
  | build
  | save (path : String)
  | plugins (path : String)
  | buffer (c : Channel) (path : String)
  | scan
  deriving DecidableEq

/-- The path of the buffer of a channel. -/
def Arguments.bufferPath? (a : Arguments) : Channel → Option String
  | .content => a.content
  | .comment => a.comments
  | .metadata => a.metadata

/-- The stages in which rules are collected and built. -/
def buildStages (a : Arguments) : List Stage :=
  a.ignored.map .ignored ++ (a.definitions.map .definition ++
    (a.space.toList.map .space ++ [.paths, .build]))

/-- The stages in which rules are got ready, from a cache or from sources. -/
def ruleStages (a : Arguments) : List Stage :=
  match a.loadCache with
  | some path => [.cache path]
  | none => .rulesGiven :: buildStages a

/-- The stage in which rules from sources are saved. -/
def saveStages (a : Arguments) : List Stage :=
  match a.loadCache with
  | some _ => []
  | none => a.saveCache.toList.map .save

/-- The stages in which buffers are read. -/
def bufferStages (a : Arguments) (cs : List Channel) : List Stage :=
  cs.flatMap fun c => (a.bufferPath? c).toList.map (.buffer c)

/-- The stages once the rules are ready. -/
def scanStages (a : Arguments) : List Stage :=
  a.plugins.toList.map .plugins ++ (bufferStages a Channel.ordered ++ [.scan])

/-- The stages of a run, in their order. -/
def stages (a : Arguments) : List Stage :=
  .config :: (ruleStages a ++ (saveStages a ++ scanStages a))

/-! ## What is done in a stage -/

/-- A scanner without rules, as a configuration says. -/
def newScanner (config : Config) : RunScanner C R :=
  .ofSession config (.ofPace config.pace) (.ofCompiler (.ofConfig config))

/-- What the stages have made so far. -/
structure Bench (C R : Type) where
  config : Config := {}
  scanner : RunScanner C R := newScanner config
  /-- The number of files with rules. -/
  count : Nat := 0
  sample : Sample := {}
  outcome : Outcome := {}

/-- Changes the scanner, with the engine over the files as they are. -/
def Bench.work (b : Bench C R) (T : Toolchain C R)
    (x : RunEngine C R → RunScanner C R → Job (RunScanner C R)) : Job (Bench C R) := do
  let scanner ← x (T.engine (← get).files) b.scanner
  return { b with scanner }

/-- What is logged once rules are built. -/
def builtLog (a : Arguments) (count : Nat) : Event :=
  .log .info ("Rules compiled | Files: " ++ decimal count ++ " | Path as namespace: "
    ++ boolText a.spacePerFile)

/-- What is logged once a sample is scanned. -/
def scannedLog (o : Outcome) : Event :=
  .log .info ("Scan finished | Results: " ++ decimal o.results.length
    ++ " | Plugin failures: " ++ decimal o.failures.length)

/-- What is done in a stage. -/
def Stage.job (T : Toolchain C R) (K : Cache.Codec) (S : Searcher M) (a : Arguments)
    (b : Bench C R) : Stage → Job (Bench C R)
  | .config => do
    let config ← loadConfig a
    return { b with config, scanner := newScanner config }
  | .cache path => do
    let scanner ← onFiles (.noCache path) (Scanner.ofCache T K b.config path)
    return { b with scanner }
  | .rulesGiven => if a.rules.isEmpty then throw .noRules else pure b
  | .ignored module => b.work T fun E => change (Scanner.onSession (Session.ignoreModule E module))
  | .definition text => b.work T fun E => defineAll E [text]
  | .space name => b.work T fun E => openSpace E (some name)
  | .paths => do
    let E := T.engine (← get).files
    let (count, scanner) ←
      onScanner (Scanner.onSession (Session.addPaths E a.rules a.spacePerFile)) b.scanner
    return { b with count, scanner }
  | .build => do
    let b ← b.work T fun E => change (Scanner.onSession (Session.build E true))
    note [builtLog a b.count]
    return b
  | .save path => b.work T fun E => saveRules E K (some path)
  | .plugins path => do
    let plugins ← loadPlugins S path
    let scanner ← change (Scanner.onRegistry (Registry.registerAll plugins)) b.scanner
    return { b with scanner }
  | .buffer c path => do
    let data ← readBuffer (some path)
    return { b with sample := b.sample.set data c }
  | .scan => do
    let E := T.engine (← get).files
    let (outcome, scanner) ← onScanner (Scanner.scanDetailed E Pacer.strategy b.sample) b.scanner
    note [scannedLog outcome]
    note (scanner.session.drop E)
    return { b with outcome, scanner }

variable (T : Toolchain C R) (K : Cache.Codec) (S : Searcher M) (a : Arguments)

/-- Goes through some stages, one after the other. -/
def goThrough (l : List Stage) (b : Bench C R) : Job (Bench C R) :=
  l.foldlM (fun b s => s.job T K S a b) b

theorem goThrough_cons (s : Stage) (rest : List Stage) (b : Bench C R) :
    goThrough T K S a (s :: rest) b = s.job T K S a b >>= goThrough T K S a rest :=
  List.foldlM_cons ..

theorem goThrough_singleton (s : Stage) (b : Bench C R) :
    goThrough T K S a [s] b = s.job T K S a b := by
  rw [goThrough_cons]
  exact bind_pure _

theorem goThrough_append (l m : List Stage) (b : Bench C R) :
    goThrough T K S a (l ++ m) b = goThrough T K S a l b >>= goThrough T K S a m :=
  List.foldlM_append ..

/-- **The first stage that fails** ends what is gone through: the stages before it were passed, and
it finds what they left. -/
theorem goThrough_cases (l : List Stage) (b : Bench C R) (d : Desk) :
    (∃ b' e, Answers (goThrough T K S a l b) d b' e) ∨
    ∃ passed s later b' d' fault e, l = passed ++ s :: later ∧
      Answers (goThrough T K S a passed b) d b' d' ∧ Fails (s.job T K S a b') d' fault e ∧
      Fails (goThrough T K S a l b) d fault e := by
  induction l generalizing b d with
  | nil => exact .inl ⟨b, d, rfl⟩
  | cons s rest ih =>
    simp only [goThrough_cons]
    rcases answers_or_fails (s.job T K S a b) d with ⟨b₁, d₁, h⟩ | ⟨fault, e, h⟩
    · rcases ih b₁ d₁ with
        ⟨b', e, hrest⟩ | ⟨passed, s', later, b', d', fault, e, rfl, hpassed, hs, hrest⟩
      · exact .inl ⟨b', e, answers_bind.2 ⟨b₁, d₁, h, hrest⟩⟩
      · refine .inr ⟨s :: passed, s', later, b', d', fault, e, rfl, ?_, hs, ?_⟩
        · rw [goThrough_cons]
          exact answers_bind.2 ⟨b₁, d₁, h, hpassed⟩
        · exact fails_bind.2 (.inr ⟨b₁, d₁, h, hrest⟩)
    · exact .inr ⟨[], s, rest, b, d, fault, e, rfl, rfl, h, fails_bind.2 (.inl h)⟩

/-! ## The parts of a run as stages -/

/-- A bench with a scanner, and nothing to scan yet. -/
structure Bench.Holds (b : Bench C R) (s : RunScanner C R) : Prop where
  scanner : b.scanner = s
  sample : b.sample = {}

section

variable {T K S a} {d : Desk} {b : Bench C R} {s : RunScanner C R}

theorem same_work (hb : b.Holds s) (x : RunEngine C R → RunScanner C R → Job (RunScanner C R)) :
    Same d (x (T.engine d.files) s) (b.work T x) fun s b' => b'.Holds s ∧ b'.count = b.count := by
  obtain ⟨rfl, hsample⟩ := hb
  refine .get_right ((Same.refl (x (T.engine d.files) b.scanner) d).map_right ?_)
  rintro s _ rfl
  exact ⟨⟨rfl, hsample⟩, rfl⟩

theorem change_forEach {α γ : Type} (f : γ → Action (RunScanner C R) α) (c : γ) (rest : List γ)
    (s : RunScanner C R) :
    change (Action.forEach f (c :: rest)) s =
      change (f c) s >>= change (Action.forEach f rest) := by
  refine funext fun d => ?_
  change (change _ s).run d = (change (f c) s >>= change _).run d
  rw [run_bind, run_change, run_change, Action.forEach]
  rcases hc : (f c s).reply with r | e | words
  · rw [Action.bind_of_ok hc]
    simp only [run_change, Action.reply_map, Action.state_map, Action.trace_map, List.append_assoc]
    rcases (Action.forEach f rest (f c s).state).reply with _ | _ | _ <;> rfl
  · rw [Action.bind_of_error hc]
  · rw [Action.bind_of_crash hc]

variable {fs : Files}

theorem ignored_same (modules : List String) (hb : b.Holds s) (hfs : d.files = fs) :
    Same d
      (change (Action.forEach (fun m => Scanner.onSession (Session.ignoreModule (T.engine fs) m))
        modules) s)
      (goThrough T K S a (modules.map .ignored) b) fun s b => b.Holds s := by
  induction modules generalizing d s b with
  | nil =>
    exact .answers (answers_change.2 ⟨⟨[], rfl⟩, rfl, by rw [Action.forEach, Action.pure,
      List.append_nil]⟩) rfl hb
  | cons m rest ih =>
    rw [change_forEach, List.map_cons, goThrough_cons]
    subst hfs
    refine (same_work hb fun E => change (Scanner.onSession (Session.ignoreModule E m))).bind
      fun s b e hs _ hb => ih hb.1 ?_
    exact (Still.change _ _).answers hs

theorem defineAll_cons (E : RunEngine C R) (text : String) (rest : List String)
    (s : RunScanner C R) :
    defineAll E (text :: rest) s = defineAll E [text] s >>= defineAll E rest := by
  rw [defineAll, defineAll]
  rcases splitDefinition? text with _ | ⟨name, value⟩
  · rfl
  · simp only [defineAll, bind_assoc, pure_bind]

theorem defineAll_still (E : RunEngine C R) (texts : List String) (s : RunScanner C R) :
    Still (defineAll E texts s) := by
  induction texts generalizing s with
  | nil => exact .pure s
  | cons text rest ih =>
    rw [defineAll]
    split
    next => exact .throw _
    next => exact (Still.change _ _).bind fun s => ih s

theorem definitions_same (texts : List String) (hb : b.Holds s) (hfs : d.files = fs) :
    Same d (defineAll (T.engine fs) texts s) (goThrough T K S a (texts.map .definition) b)
      fun s b => b.Holds s := by
  induction texts generalizing d s b with
  | nil => exact .pure hb
  | cons text rest ih =>
    rw [defineAll_cons, List.map_cons, goThrough_cons]
    subst hfs
    refine (same_work hb fun E => defineAll E [text]).bind fun s b e hs _ hb => ih hb.1 ?_
    exact (defineAll_still _ _ _).answers hs

theorem openSpace_still (E : RunEngine C R) (name : Option String) (s : RunScanner C R) :
    Still (openSpace E name s) := by
  cases name with
  | none => exact .pure s
  | some name => exact .change _ _

/-- A stage that may be left out. -/
theorem optional_same (x : Option String → RunScanner C R → Job (RunScanner C R))
    (stage : String → Stage) (hnone : ∀ s, x none s = pure s) (hb : b.Holds s)
    (hsome : ∀ name, Same d (x (some name) s) ((stage name).job T K S a b)
      fun s b' => b'.Holds s ∧ b'.count = b.count)
    (name : Option String) :
    Same d (x name s) (goThrough T K S a (name.toList.map stage) b) fun s b => b.Holds s := by
  cases name with
  | none =>
    rw [hnone]
    exact .pure hb
  | some name =>
    rw [Option.toList_some, List.map_singleton, goThrough_singleton]
    exact (hsome name).mono fun _ _ => And.left

theorem paths_same (hb : b.Holds s) (hfs : d.files = fs) :
    Same d
      (onScanner (Scanner.onSession (Session.addPaths (T.engine fs) a.rules a.spacePerFile)) s)
      (Stage.paths.job T K S a b) fun r b => b.Holds r.2 ∧ b.count = r.1 := by
  obtain ⟨rfl, hsample⟩ := hb
  subst hfs
  refine .get_right ((Same.refl _ d).map_right ?_)
  rintro r _ rfl
  exact ⟨⟨rfl, hsample⟩, rfl⟩

theorem build_same (hb : b.Holds s) (hfs : d.files = fs) :
    Same d
      (do
        let s ← change (Scanner.onSession (Session.build (T.engine fs) true)) s
        note [builtLog a b.count]
        return s)
      (Stage.build.job T K S a b) fun s b => b.Holds s := by
  subst hfs
  refine (same_work hb fun E => change (Scanner.onSession (Session.build E true))).bind
    fun s b' e _ _ hb => ?_
  rw [hb.2]
  exact (Same.refl (note _) e).bind fun _ _ _ _ _ _ => .pure hb.1

theorem buildRules_still (E : RunEngine C R) (a : Arguments) (s : RunScanner C R) :
    Still (buildRules E a s) := by
  refine (Still.change _ _).bind fun s => (defineAll_still _ _ _).bind fun s => ?_
  refine (openSpace_still _ _ _).bind fun s => (Still.onScanner _ _).bind fun r => ?_
  exact (Still.change _ _).bind fun s => (Still.note _).bind fun _ => .pure s

/-- Rules are collected and built stage by stage. -/
theorem buildRules_same (hb : b.Holds s) (hfs : d.files = fs) :
    Same d (buildRules (T.engine fs) a s) (goThrough T K S a (buildStages a) b)
      fun s b => b.Holds s := by
  rw [buildStages, goThrough_append]
  refine (ignored_same a.ignored hb hfs).bind fun s b e hs _ hb => ?_
  have hfs := ((Still.change _ _).answers hs).trans hfs
  rw [goThrough_append]
  refine (definitions_same a.definitions hb hfs).bind fun s b e hs _ hb => ?_
  have hfs := ((defineAll_still _ _ _).answers hs).trans hfs
  rw [goThrough_append]
  refine (optional_same (openSpace (T.engine fs)) .space (fun _ => rfl) hb (fun name => ?_)
    a.space).bind fun s b e hs _ hb => ?_
  · subst hfs
    exact same_work hb fun E => openSpace E (some name)
  have hfs := ((openSpace_still _ _ _).answers hs).trans hfs
  rw [goThrough_cons]
  refine (paths_same hb hfs).bind fun r b e hr _ hb => ?_
  obtain ⟨hb, hcount⟩ := hb
  have hfs := ((Still.onScanner _ _).answers hr).trans hfs
  rw [goThrough_singleton]
  have hbuild : Same e _ (Stage.build.job T K S a b) _ := build_same hb hfs
  rw [hcount] at hbuild
  exact hbuild

/-- The rules of a run are got ready, and saved, stage by stage. -/
theorem prepareScanner_same (config : Config) (hb : b.Holds (newScanner config))
    (hconfig : b.config = config) :
    Same d (prepareScanner T K a config)
      (goThrough T K S a (ruleStages a ++ saveStages a) b) fun s b => b.Holds s := by
  rw [ruleStages, saveStages, prepareScanner]
  rcases a.loadCache with _ | path
  · rw [List.cons_append, goThrough_cons]
    dsimp only [Stage.job]
    rcases a.rules.isEmpty with _ | _
    · rw [if_neg Bool.false_ne_true, if_neg Bool.false_ne_true, pure_bind, goThrough_append]
      refine .get_left ((buildRules_same hb rfl).bind fun s b e hs _ hb => ?_)
      have hfs := (buildRules_still _ _ _).answers hs
      refine optional_same (saveRules _ K) .save (fun _ => rfl) hb (fun path => ?_) _
      rw [← hfs]
      exact same_work hb fun E => saveRules E K (some path)
    · exact .fails rfl rfl
  · rw [List.append_nil, goThrough_singleton]
    subst hconfig
    exact (Same.refl _ d).map_right fun s _ h => ⟨h.symm, hb.sample⟩

theorem readBuffer_same (path : Option String) (c : Channel) (hb : b.sample.set none c = b.sample) :
    Same d (readBuffer path) (goThrough T K S a (path.toList.map (.buffer c)) b)
      fun data b' => b' = { b with sample := b.sample.set data c } := by
  cases path with
  | none => exact .pure (by rw [hb])
  | some path =>
    rw [Option.toList_some, List.map_singleton, goThrough_singleton]
    exact (Same.refl (readBuffer (some path)) d).map_right fun _ _ h => by rw [h]

/-- The buffers are read stage by stage. -/
theorem readSample_same (hb : b.Holds s) :
    Same d (readSample a) (goThrough T K S a (bufferStages a Channel.ordered) b)
      fun sample b' => b'.scanner = s ∧ b'.sample = sample := by
  obtain ⟨rfl, hsample⟩ := hb
  have hlist : bufferStages a Channel.ordered = a.content.toList.map (.buffer .content) ++
      (a.comments.toList.map (.buffer .comment) ++ a.metadata.toList.map (.buffer .metadata)) := by
    simp [bufferStages, Channel.ordered, Arguments.bufferPath?]
  rw [hlist, goThrough_append]
  refine (readBuffer_same a.content .content (by rw [hsample]; rfl)).bind ?_
  rintro content _ e₁ - - rfl
  rw [goThrough_append]
  refine (readBuffer_same a.comments .comment (by rw [hsample]; rfl)).bind ?_
  rintro comment _ e₂ - - rfl
  refine (readBuffer_same a.metadata .metadata (by rw [hsample]; rfl)).map_left ?_
  rintro metadata _ rfl
  exact ⟨rfl, by rw [hsample]; rfl⟩

/-- What is done once the rules are ready is done stage by stage. -/
theorem scanAndPrint_same (hb : b.Holds s) :
    Same d (scanAndPrint T S a s)
      (goThrough T K S a (scanStages a) b >>= fun b => pure (outcomeText a.pretty b.outcome))
      Eq := by
  rw [scanStages, goThrough_append, bind_assoc]
  have hplugins : Same d (addPlugins S a s) (goThrough T K S a (a.plugins.toList.map .plugins) b)
      fun s b => b.Holds s := by
    obtain ⟨rfl, hsample⟩ := hb
    rw [addPlugins]
    rcases a.plugins with _ | path
    · exact .pure ⟨rfl, hsample⟩
    · rw [Option.toList_some, List.map_singleton, goThrough_singleton]
      refine (Same.refl (loadPlugins S path) d).bind ?_
      rintro plugins _ e - - rfl
      exact (Same.refl _ e).map_right fun _ _ h => ⟨h.symm, hsample⟩
  refine hplugins.bind fun s b e _ _ hb => ?_
  rw [goThrough_append, bind_assoc]
  refine (readSample_same hb).bind ?_
  rintro sample b e - - ⟨rfl, rfl⟩
  rw [goThrough_singleton]
  simp only [Stage.job, bind_assoc, pure_bind]
  exact Same.refl _ e

end

/-- **A run is staged**: it goes through its stages, each with what those before it have left, and
prints the outcome at the end. -/
theorem job_staged (d : Desk) :
    (job T K S a).run d =
      (goThrough T K S a (stages a) {} >>= fun b =>
        pure (outcomeText a.pretty b.outcome)).run d := by
  refine Same.run_eq ?_
  rw [stages, goThrough_cons, bind_assoc]
  refine ((Same.refl (loadConfig a) d).map_right (q := fun config (b : Bench C R) =>
    b.Holds (newScanner config) ∧ b.config = config) ?_).bind fun config b e _ _ hb => ?_
  · rintro config _ rfl
    exact ⟨⟨rfl, rfl⟩, rfl⟩
  rw [← List.append_assoc, goThrough_append, bind_assoc]
  exact (prepareScanner_same config hb.1 hb.2).bind fun s b e _ _ hb => scanAndPrint_same hb

end CommandLine

end RuleScan
