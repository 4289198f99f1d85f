import RuleScan.Proofs.Cache.Restored
import RuleScan.Proofs.CommandLine.Job

/-!
# Runs with a cache

A run that saves its rules builds them in a scanner that is set up as the configuration says
(`SetUp`, kept by all that is done to collect and build), and changes no file but the cache. A later
run that loads the cache has the same configuration, a scanner like that of the first run
(`ofCache_of_saveCache`), and the same files; from there on the two do the same
(`scanAndPrint_mimics`). So they print the same (`job_again`).
-/

namespace RuleScan.CommandLine

open Rules

variable {C R M : Type}

/-! ## The configuration -/

/-- The configuration in what is read at a path. -/
def configOf (path : String) (text : Except FileFault String) : Except Failure Config :=
  match text with
  | .error e => .error (.config (.unreadable path e))
  | .ok text => (Json.decodeText Config.schema.decoder text).mapError fun e =>
      .config (.invalid path e)

theorem load_does (path : String) (fs : Files) :
    (Config.load path).Does fs (.ofExcept (configOf path (fs.readText path))) fs [] := by
  have htext := Action.Does.ofExcept
    ((fs.readText path).mapError fun e => Failure.config (.unreadable path e)) fs
  rcases hread : fs.readText path with e | text
  · rw [hread] at htext
    refine (Action.Does.get fs).after ?_
    rw [hread]
    exact htext.bind_error
  · rw [hread] at htext
    refine (Action.Does.get fs).after ?_
    rw [hread]
    refine htext.after ?_
    have hdecode := Action.Does.ofExcept ((Json.decodeText Config.schema.decoder text).mapError
      fun e => Failure.config (.invalid path e)) fs
    rw [configOf]
    rcases hconfig : Json.decodeText Config.schema.decoder text with e | config
    · rw [hconfig] at hdecode
      exact hdecode.bind_error
    · rw [hconfig] at hdecode
      exact hdecode.after ((Action.Does.log _ _ fs).after (.pure config fs))

/-- A configuration that was loaded once is loaded again wherever the file can still be read. -/
theorem loadConfig_again {a b : Arguments} {d e : Desk} {config : Config}
    (h : Answers (loadConfig a) d config e) (hconfig : b.config = a.config)
    (hdelay : b.delayMillis = a.delayMillis) (d' : Desk)
    (hread : ∀ path, a.config = some path → ∀ data, d.files.read path = .ok data →
      d'.files.read path = .ok data) :
    e.files = d.files ∧ ∃ e', Answers (loadConfig b) d' config e' ∧ e'.files = d'.files := by
  obtain ⟨raw, d₁, hraw, hdelayed⟩ := answers_bind.1 h
  obtain ⟨rfl, rfl⟩ := answers_pure.1 hdelayed
  have hagain : d₁.files = d.files ∧
      ∃ e', Answers (readConfig b.config) d' raw e' ∧ e'.files = d'.files := by
    rw [hconfig]
    rcases hpath : a.config with _ | path
    · rw [hpath] at hraw
      obtain ⟨rfl, rfl⟩ := answers_pure.1 hraw
      exact ⟨rfl, d', answers_pure.2 ⟨rfl, rfl⟩, rfl⟩
    · rw [hpath] at hraw
      obtain ⟨hreply, rfl⟩ := answers_onFiles.1 hraw
      have hload := load_does path d.files
      have hload' := load_does path d'.files
      have hsame : d'.files.readText path = d.files.readText path := by
        rw [hload.reply_eq] at hreply
        rcases hfile : d.files.read path with e | data
        · have htext : d.files.readText path = .error e := by
            rw [Files.readText, hfile]
            rfl
          rw [htext] at hreply
          cases hreply
        · rw [Files.readText, Files.readText, hfile, hread path hpath data hfile]
      refine ⟨hload.state_eq, _, answers_onFiles.2 ⟨?_, rfl⟩, hload'.state_eq⟩
      rw [hload'.reply_eq, hsame, ← hload.reply_eq, hreply]
  obtain ⟨hfiles, e', hraw', hfiles'⟩ := hagain
  refine ⟨hfiles, e', answers_bind.2 ⟨raw, e', hraw', answers_pure.2 ⟨?_, rfl⟩⟩, hfiles'⟩
  rw [hdelay]

/-! ## Fresh scanners -/

/-- A scanner that is set up as a configuration says, whatever was done with its session. -/
structure SetUp (config : Config) (s : RunScanner C R) : Prop where
  timeout : s.session.phase.TimeoutIs config.timeout
  weights : s.weights = config.weights
  onPluginFailure : s.onPluginFailure = config.onPluginFailure
  registry : s.registry = {}

variable {α : Type}

theorem onSession_keeps (config : Config) {x : Action (RunSession C R) α}
    (hx : Session.KeepsTimeout x) :
    Action.Keeps (SetUp config) (Scanner.onSession x : Action (RunScanner C R) α) :=
  (hx config.timeout).zoom (fun _ h => h.timeout)
    fun _ _ h ht => ⟨ht, h.weights, h.onPluginFailure, h.registry⟩

variable {config : Config} (T : Toolchain C R) (fs : Files)

theorem defineAll_leaves (definitions : List String) {s : RunScanner C R} (hs : SetUp config s) :
    Leaves (defineAll (T.engine fs) definitions s) (SetUp config) := by
  induction definitions generalizing s with
  | nil => exact .pure hs
  | cons given rest ih =>
    rw [defineAll]
    split
    next => exact .throw _
    next name value h =>
      have hdefine := Session.defineVariable_keepsTimeout T fs name (.parse value)
      exact (Leaves.change (onSession_keeps config hdefine) hs).bind fun s hs => ih hs

theorem openSpace_leaves (name : Option String) {s : RunScanner C R} (hs : SetUp config s) :
    Leaves (openSpace (T.engine fs) name s) (SetUp config) := by
  cases name with
  | none => exact .pure hs
  | some name =>
    exact .change (onSession_keeps config (Session.addNamespace_keepsTimeout T fs name)) hs

theorem buildRules_leaves (a : Arguments) {s : RunScanner C R} (hs : SetUp config s) :
    Leaves (buildRules (T.engine fs) a s) (SetUp config) := by
  have hignore (module : String) :=
    onSession_keeps config (Session.ignoreModule_keepsTimeout T fs module)
  refine (Leaves.change (Action.Keeps.forEach hignore a.ignored) hs).bind fun s hs => ?_
  refine (defineAll_leaves T fs a.definitions hs).bind fun s hs => ?_
  refine (openSpace_leaves T fs a.space hs).bind fun s hs => ?_
  have hpaths := Session.addPaths_keepsTimeout T fs a.rules a.spacePerFile
  refine (Leaves.onScanner (onSession_keeps config hpaths) hs).bind fun r hr => ?_
  have hbuild := Session.build_keepsTimeout T fs true
  refine (Leaves.change (onSession_keeps config hbuild) hr).bind fun s hs => ?_
  exact (Leaves.note _).bind fun _ _ => .pure hs

/-- A fresh scanner whose rules were saved. -/
theorem freshScanner_saved {K : Cache.Codec} {a : Arguments} {path : String}
    (hsave : a.saveCache = some path) {d e : Desk} {s : RunScanner C R}
    (h : Answers (freshScanner (T.engine fs) K a config) d s e) :
    SetUp config s ∧ (∃ u, (Scanner.saveCache (T.engine fs) K path (d.files, s)).reply = .ok u) ∧
      e.files = (Scanner.saveCache (T.engine fs) K path (d.files, s)).state.1 := by
  obtain ⟨built, d₁, hbuilt, hsaved⟩ := answers_bind.1 h
  have hstart : SetUp config (.ofSession config (.ofPace config.pace)
      (.ofCompiler (.ofConfig config)) : RunScanner C R) := ⟨rfl, rfl, rfl, rfl⟩
  obtain ⟨hfiles, hsetUp⟩ := buildRules_leaves T fs a hstart d built d₁ hbuilt
  rw [hsave, saveRules] at hsaved
  obtain ⟨kept, d₂, hkept, hrest⟩ := answers_bind.1 hsaved
  obtain ⟨_, _, hnote, hlast⟩ := answers_bind.1 hrest
  obtain ⟨rfl, rfl⟩ := answers_pure.1 hlast
  rw [← answers_note.1 hnote]
  obtain ⟨⟨u, hreply⟩, hstate, -⟩ := answers_changeBoth.1 hkept
  rw [hfiles] at hreply hstate
  obtain ⟨_, _, saved, -, -, -, hsame⟩ := Scanner.written_of_saveCache hreply
  obtain ⟨-, rfl⟩ := Prod.mk.inj (hstate.symm.trans hsame)
  exact ⟨hsetUp, ⟨u, hreply⟩, by rw [hstate]⟩

/-! ## The same scan -/

/-- Arguments that ask for the same scan, of rules from wherever they may be. -/
structure SameScan (a b : Arguments) : Prop where
  config : b.config = a.config
  delayMillis : b.delayMillis = a.delayMillis
  plugins : b.plugins = a.plugins
  content : b.content = a.content
  comments : b.comments = a.comments
  metadata : b.metadata = a.metadata
  pretty : b.pretty = a.pretty

theorem SameScan.refl (a : Arguments) : SameScan a a := ⟨rfl, rfl, rfl, rfl, rfl, rfl, rfl⟩

theorem loadPlugins_mimics (S : Searcher M) (path : String) :
    Mimics (loadPlugins S path) (loadPlugins S path) Eq := by
  refine Mimics.get.bind fun d d' hfiles => ?_
  rw [hfiles]
  rcases d.files.readText path with e | text
  · exact .throw _ _
  · dsimp only
    rcases Json.decodeText (Json.list Definition.schema.decoder) text with e | definitions
    · exact .throw _ _
    · exact .answer _ _ _

theorem readBuffer_mimics (path : Option String) :
    Mimics (readBuffer path) (readBuffer path) Eq := by
  rcases path with _ | path
  · exact .pure rfl
  · refine Mimics.get.bind fun d d' hfiles => ?_
    rw [hfiles]
    rcases d.files.read path with e | data
    · exact .throw _ _
    · exact .pure rfl

theorem readSample_mimics {a b : Arguments} (h : SameScan a b) :
    Mimics (readSample a) (readSample b) Eq := by
  rw [readSample, readSample, h.content, h.comments, h.metadata]
  refine (readBuffer_mimics a.content).bind ?_
  rintro content _ rfl
  refine (readBuffer_mimics a.comments).bind ?_
  rintro comment _ rfl
  refine (readBuffer_mimics a.metadata).bind ?_
  rintro metadata _ rfl
  exact .pure rfl

variable {T} {S : Searcher M} {s s' : RunScanner C R}

theorem addPlugins_mimics {a b : Arguments} (h : SameScan a b) (hs : s.Alike T s') :
    Mimics (addPlugins S a s) (addPlugins S b s') (Scanner.Alike T) := by
  rw [addPlugins, addPlugins, h.plugins]
  rcases a.plugins with _ | path
  · exact .pure hs
  · refine (loadPlugins_mimics S path).bind ?_
    rintro plugins _ rfl
    intro d d' t e hfiles ht
    obtain ⟨-, rfl, rfl⟩ := answers_change.1 ht
    refine ⟨rfl, _, _, answers_change.2 ⟨⟨(), rfl⟩, rfl, rfl⟩, ?_, hfiles⟩
    exact ⟨hs.rules, rfl, hs.weights, hs.onPluginFailure⟩

/-- **Like scanners print the same.** -/
theorem scanAndPrint_mimics {a b : Arguments} (h : SameScan a b) (hs : s.Alike T s') :
    Mimics (scanAndPrint T S a s) (scanAndPrint T S b s') Eq := by
  refine (addPlugins_mimics h hs).bind fun s s' hs => ?_
  refine (readSample_mimics h).bind ?_
  rintro sample _ rfl
  refine Mimics.get.bind fun d d' hfiles => ?_
  rw [hfiles]
  have hscan : Mimics (onScanner (Scanner.scanDetailed (T.engine d.files) Pacer.strategy sample) s)
      (onScanner (Scanner.scanDetailed (T.engine d.files) Pacer.strategy sample) s')
      fun p q => q.1 = p.1 := by
    rintro d₁ d₁' ⟨outcome, t⟩ e hfiles ht
    obtain ⟨hreply, rfl, rfl⟩ := answers_onScanner.1 ht
    have hsame := (hs.scanDetailed d.files d.files Pacer.strategy Pacer.strategy sample).1
    rw [hsame] at hreply
    exact ⟨rfl, ⟨outcome, _⟩, _, answers_onScanner.2 ⟨hreply, rfl, rfl⟩, rfl, hfiles⟩
  refine hscan.bind ?_
  rintro ⟨outcome, t⟩ ⟨_, t'⟩ rfl
  refine (Mimics.note _ _).bind fun _ _ _ => (Mimics.note _ _).bind fun _ _ _ => ?_
  rw [h.pretty]
  exact .pure rfl

/-! ## Runs -/

/-- What a run that succeeds prints. -/
theorem runWith_of_answers {K : Cache.Codec} {words : List String} {files : Files} {a : Arguments}
    (hwords : Arguments.read words = .ok a) {text : String} {e : Desk}
    (h : Answers (job T K S a) { files } text e) :
    runWith T K S words files =
      { code := 0, output := text, files := e.files, trace := e.trace } := by
  rw [runWith, hwords]
  dsimp only
  rw [h]

/-- What a run that fails reports. -/
theorem runWith_of_fails {K : Cache.Codec} {words : List String} {files : Files} {a : Arguments}
    (hwords : Arguments.read words = .ok a) {fault : RunFault} {e : Desk}
    (h : Fails (job T K S a) { files } fault e) :
    runWith T K S words files =
      { code := 1, errors := fault.report, files := e.files, trace := e.trace } := by
  rw [runWith, hwords]
  dsimp only
  rw [h]

/-- A run that succeeds prints something. -/
theorem answers_of_runWith {K : Cache.Codec} {words : List String} {files : Files} {a : Arguments}
    (hwords : Arguments.read words = .ok a) (h : (runWith T K S words files).code = 0) :
    ∃ text e, Answers (job T K S a) { files } text e := by
  rw [runWith, hwords] at h
  rcases hrun : (job T K S a).run { files } with ⟨fault | text, e⟩
  · simp only [hrun] at h
    cases h
  · exact ⟨text, e, hrun⟩

/-- **A run with the cache of another one prints the same.** -/
theorem job_again (hrestores : T.Restores) {K : Cache.Codec} {a b : Arguments} {path : String}
    (hfresh : a.loadCache = none) (hsave : a.saveCache = some path)
    (hload : b.loadCache = some path) (hscan : SameScan a b) {files : Files} {text : String}
    {e : Desk} (h : Answers (job T K S a) { files } text e)
    (hconfig : ∀ config, a.config = some config → ¬ e.files.SameFile config path)
    (hcodec : ∀ bytes, e.files.read path = .ok (K.encode bytes) →
      K.unpack (K.pack bytes) = .ok bytes) :
    ∃ e', Answers (job T K S b) { files := e.files } text e' := by
  obtain ⟨config, d₁, hloaded, hrest⟩ := answers_bind.1 h
  obtain ⟨s, d₂, hprepared, hprinted⟩ := answers_bind.1 hrest
  have hfiles : d₁.files = files :=
    (loadConfig_again hloaded rfl rfl { files } fun _ _ _ hread => hread).1
  rw [prepareScanner, hfresh] at hprepared
  dsimp only at hprepared
  split at hprepared
  · exact absurd hprepared not_answers_throw
  obtain ⟨desk, _, hdesk, hprepared⟩ := answers_bind.1 hprepared
  obtain ⟨rfl, rfl⟩ := answers_get.1 hdesk
  obtain ⟨hsetUp, ⟨u, hsaved⟩, hleft⟩ := freshScanner_saved T d₁.files hsave hprepared
  rw [hfiles] at hsaved hleft
  -- the cache is in the files when the scan starts, and these are still the files at the end
  have hend : e.files = d₂.files :=
    (scanAndPrint_mimics (.refl a) (Scanner.alike_self hsaved) d₂ d₂ text e rfl hprinted).1
  rw [hend] at hconfig hcodec ⊢
  have hread (config : String) (hpath : a.config = some config) (data : ByteArray)
      (hdata : files.read config = .ok data) : d₂.files.read config = .ok data := by
    have hother := hconfig config hpath
    rw [hleft] at hother ⊢
    exact Scanner.read_after_saveCache hsaved hdata hother
  obtain ⟨-, d₁', hloaded', hfiles'⟩ := loadConfig_again hloaded hscan.config hscan.delayMillis
    { files := d₂.files } hread
  obtain ⟨restored, hrestored, -, hregistry, hlike⟩ := Scanner.ofCache_of_saveCache hrestores
    hsetUp.timeout hsetUp.weights hsetUp.onPluginFailure hsaved (by rw [hleft]) hcodec
  rw [hsetUp.registry, ← hregistry] at hlike
  obtain ⟨d₂', hprepared', hfiles₂'⟩ : ∃ d₂',
      Answers (prepareScanner T K b config) d₁' restored d₂' ∧ d₂'.files = d₂.files := by
    rw [prepareScanner, hload]
    refine ⟨_, answers_onFiles.2 ⟨?_, rfl⟩, ?_⟩
    · rw [hfiles', hrestored.reply_eq]
    · rw [hfiles', hrestored.state_eq]
  obtain ⟨-, _, e', hprinted', rfl, -⟩ :=
    scanAndPrint_mimics hscan hlike d₂ d₂' text e hfiles₂' hprinted
  exact ⟨e', answers_bind.2 ⟨config, d₁', hloaded', answers_bind.2 ⟨_, _, hprepared', hprinted'⟩⟩⟩

/-- **A cached run equals a fresh run.** Let a toolchain restore rules that scan like those that
were turned into bytes. Whatever a native scanner was asked with whatever files, if it can be saved,
the scanner that is made of the cache with the same configuration is built, and with the same
plugins both give the same replies to all scans, one after the other. And if a command line that
saves its rules succeeds, and its configuration is not in the cache file, then every command line
that loads the cache and asks for the same scan prints the same. The codec must have back the bytes
in the cache file. -/
theorem cached_equals_fresh (hrestores : T.Restores) (K : Cache.Codec) (S : Searcher M) :
    (∀ {π : Type} (P : Strategy π) (config : Config) (ops : List (Files × Session.Operation))
        (s : Scanner (Collector C) (Ready R) π) (path : String) (fs fs₂ : Files),
      s.session = Session.afterOver T (.ofCompiler (.ofConfig config)) ops →
      s.weights = config.weights → s.onPluginFailure = config.onPluginFailure →
      (Scanner.saveCache (T.engine fs) K path (fs, s)).reply.isOk →
      fs₂.read path = (Scanner.saveCache (T.engine fs) K path (fs, s)).state.1.read path →
      (∀ bytes, fs₂.read path = .ok (K.encode bytes) → K.unpack (K.pack bytes) = .ok bytes) →
      ∃ restored, (Scanner.ofCache T K config path fs₂).reply = .ok restored ∧
        restored.session.status = .built ∧
        ∀ (now now' : Files) (qs : List Scanner.Query),
          (Action.steps (Scanner.ask (T.engine now) P) s qs).map (·.reply) =
            (Action.steps (Scanner.ask (T.engine now') Pacer.strategy)
              { restored with registry := s.registry } qs).map (·.reply)) ∧
    ∀ (words words' : List String) (a b : Arguments) (path : String) (files : Files),
      Arguments.read words = .ok a → a.loadCache = none → a.saveCache = some path →
      Arguments.read words' = .ok b → b.loadCache = some path → SameScan a b →
      let first := runWith T K S words files
      let second := runWith T K S words' first.files
      first.code = 0 →
      (∀ config, a.config = some config → ¬ first.files.SameFile config path) →
      (∀ bytes, first.files.read path = .ok (K.encode bytes) →
        K.unpack (K.pack bytes) = .ok bytes) →
      second.code = 0 ∧ second.output = first.output := by
  constructor
  · intro π P config ops s path fs fs₂ hsession hweights hpolicy hsave hsame hcodec
    have htimeout : s.session.phase.TimeoutIs config.timeout := by
      rw [hsession]
      refine Session.afterOver_timeout T ?_ ops
      rfl
    obtain ⟨u, hsaved⟩ : ∃ u, (Scanner.saveCache (T.engine fs) K path (fs, s)).reply = .ok u := by
      rcases hreply : (Scanner.saveCache (T.engine fs) K path (fs, s)).reply with u | e | words
      · exact ⟨u, rfl⟩
      · rw [hreply] at hsave
        cases hsave
      · rw [hreply] at hsave
        cases hsave
    obtain ⟨restored, hrestored, hbuilt, -, hlike⟩ := Scanner.ofCache_of_saveCache hrestores
      htimeout hweights hpolicy hsaved hsame hcodec
    refine ⟨restored, hrestored.reply_eq, hbuilt, fun now now' qs => ?_⟩
    exact hlike.steps now now' P Pacer.strategy qs
  · intro words words' a b path files hwords hfresh hsave hwords' hload hscan first second hcode
      hconfig hcodec
    obtain ⟨text, e, hfirst⟩ := answers_of_runWith hwords hcode
    have hrun : first = { code := 0, output := text, files := e.files, trace := e.trace } :=
      runWith_of_answers hwords hfirst
    rw [hrun] at hconfig hcodec
    obtain ⟨e', hsecond⟩ :=
      job_again hrestores hfresh hsave hload hscan hfirst hconfig hcodec
    have hrun' : second = { code := 0, output := text, files := e'.files, trace := e'.trace } := by
      have hagain := runWith_of_answers hwords' hsecond
      rwa [show e.files = first.files by rw [hrun]] at hagain
    rw [hrun', hrun]
    exact ⟨rfl, rfl⟩

/-- Files with a rule and a buffer to scan. -/
def ruleAndBuffer : Files :=
  { root := .dir [("r", .file "rule a { condition: true }".toUTF8), ("x", .file ⟨#[1, 2, 3]⟩)]
    cwd := [] }

/-- What builds the rule in these files. -/
def ruleOperations : List (Files × Session.Operation) :=
  [(ruleAndBuffer, .addPaths ["r"] false), (ruleAndBuffer, .build false)]

/-- A scanner with the rule in these files. -/
def ruleScanner : RunScanner Compiler RuleSet :=
  .ofSession {} (.ofPace ({} : Config).pace)
    (Session.afterOver toolchain (.ofCompiler (.ofConfig {})) ruleOperations)

/-- The cache of this scanner, and that of a run with these files. -/
theorem cached_ruleAndBuffer_equals_fresh :
    (∃ restored,
      (Scanner.ofCache toolchain Cache.blocks {} "c"
        (Scanner.saveCache (toolchain.engine ruleAndBuffer) Cache.blocks "c"
          (ruleAndBuffer, ruleScanner)).state.1).reply = .ok restored ∧
      restored.session.status = .built) ∧
    let first := runWith toolchain Cache.blocks searcher
      ["--rules", "r", "--save-cache", "c", "--content", "x"] ruleAndBuffer
    let second := runWith toolchain Cache.blocks searcher
      ["--load-cache", "c", "--content", "x"] first.files
    second.code = 0 ∧ second.output = first.output := by
  obtain ⟨hscanner, hrun⟩ := cached_equals_fresh toolchain_restores Cache.blocks searcher
  constructor
  · obtain ⟨restored, hreply, hbuilt, -⟩ := hscanner Pacer.strategy {} ruleOperations
      ruleScanner "c" ruleAndBuffer _ (by rw [ruleScanner, Scanner.ofSession]) rfl rfl
      (by decide +kernel) rfl fun bytes hread => Cache.Codec.blocks_unpack (by decide +kernel) hread
    exact ⟨restored, hreply, hbuilt⟩
  · refine hrun _ _ { rules := ["r"], saveCache := some "c", content := some "x" }
      { loadCache := some "c", content := some "x" } "c" ruleAndBuffer (by decide +kernel) rfl rfl
      (by decide +kernel) rfl ⟨rfl, rfl, rfl, rfl, rfl, rfl, rfl⟩ (by decide +kernel) ?_ ?_
    · intro config h
      cases h
    · exact fun bytes hread => Cache.Codec.blocks_unpack (by decide +kernel) hread

end RuleScan.CommandLine
