import RuleScan.Proofs.CommandLine.Cached
import RuleScan.Proofs.CommandLine.Stages

/-!
# The course of a run

What a stage makes of the bench is said once for all stages (`Makes`, `makes_of_answers`), and that
all but one of them leave the files (`Stage.job_still`); what a run comes to follows by going
through its stages. A run passes its stages in order up to the first one that fails. It prints the
outcome of its scan if none does, and the fault alone otherwise; no plugin is in use but those of a
file whose definitions are all valid; and the only file that it writes is the cache, which stays
also where a later stage fails. Main statement: `run_course`.
-/

namespace RuleScan.CommandLine

open Rules

variable {C R M : Type}

/-! ## Plugins -/

/-- The plugin of a valid definition. -/
def Yields (S : Searcher M) (d : Definition) (p : Plugin) : Prop :=
  ∃ q, PatternPlugin.ofDefinition S d = .ok q ∧ q.toPlugin S = p

/-- The plugins of definitions that are all valid. -/
theorem pluginsOf_eq_ok {S : Searcher M} {ds : List Definition} {ps : List Plugin} :
    pluginsOf S ds = .ok ps ↔ List.Forall₂ (Yields S) ds ps := by
  induction ds generalizing ps with
  | nil => simp [pluginsOf, eq_comm]
  | cons d rest ih =>
    rw [pluginsOf, List.forall₂_cons_left_iff]
    rcases hd : PatternPlugin.ofDefinition S d with e | q
    · simp [Yields, hd, bind, Except.bind]
    · rcases hrest : pluginsOf S rest with e | qs
      · simp [← ih, hrest, bind, Except.bind]
      · simp [← ih, hrest, hd, Yields, bind, Except.bind, eq_comm]

/-- The plugins that are defined in a file. -/
def PluginsAt (S : Searcher M) (files : Files) (path : String) (plugins : List Plugin) : Prop :=
  ∃ text definitions, files.readText path = .ok text ∧
    Json.decodeText (Json.list Definition.schema.decoder) text = .ok definitions ∧
    List.Forall₂ (Yields S) definitions plugins

theorem pluginsAt_of_answers {S : Searcher M} {path : String} {d e : Desk} {plugins : List Plugin}
    (h : Answers (loadPlugins S path) d plugins e) : PluginsAt S d.files path plugins ∧ e = d := by
  obtain ⟨d', _, hget, h⟩ := answers_bind.1 h
  obtain ⟨rfl, rfl⟩ := answers_get.1 hget
  rcases htext : d.files.readText path with fault | text
  · rw [htext] at h
    exact absurd h not_answers_throw
  · rw [htext] at h
    dsimp only at h
    rcases hread : Json.decodeText (Json.list Definition.schema.decoder) text with
      fault | definitions
    · rw [hread] at h
      exact absurd h not_answers_throw
    · rw [hread] at h
      obtain ⟨hplugins, rfl⟩ := answers_answer.1 h
      refine ⟨⟨text, definitions, htext, hread, pluginsOf_eq_ok.1 ?_⟩, rfl⟩
      rcases hof : pluginsOf S definitions with fault | found
      · rw [hof] at hplugins
        cases hplugins
      · rw [hof] at hplugins
        cases hplugins
        rfl

/-! ## What a stage makes of a bench -/

/-- Whether a stage has to do with the session alone. -/
def Stage.onSession : Stage → Bool
  | .ignored _ | .definition _ | .space _ | .paths | .build | .save _ => true
  | _ => false

/-- What a stage that is passed makes of a bench, with the files that it finds. -/
inductive Makes (T : Toolchain C R) (S : Searcher M) (files : Files) (b : Bench C R) :
    Stage → Bench C R → Prop
  | config (config : Config) :
    Makes T S files b .config { b with config, scanner := newScanner config }
  | cache {path : String} {s : RunScanner C R} (h : s.registry = {}) :
    Makes T S files b (.cache path) { b with scanner := s }
  | rulesGiven : Makes T S files b .rulesGiven b
  | session {s : Stage} (h : s.onSession) (session : RunSession C R) (count : Nat) :
    Makes T S files b s { b with scanner := { b.scanner with session }, count }
  | plugins {path : String} {plugins : List Plugin} (h : PluginsAt S files path plugins) :
    Makes T S files b (.plugins path)
      { b with scanner := { b.scanner with registry := { plugins } } }
  | buffer {c : Channel} {path : String} {data : ByteArray} (h : files.read path = .ok data) :
    Makes T S files b (.buffer c path) { b with sample := b.sample.set (some data) c }
  | scan {outcome : Outcome}
      (h : (Scanner.scanDetailed (T.engine files) Pacer.strategy b.sample b.scanner).reply =
        .ok outcome) :
    Makes T S files b .scan { b with
      outcome
      scanner := (Scanner.scanDetailed (T.engine files) Pacer.strategy b.sample b.scanner).state }

variable {T : Toolchain C R} {K : Cache.Codec} {S : Searcher M} {a : Arguments}
  {b b' : Bench C R} {d e : Desk}

theorem answers_work {x : RunEngine C R → RunScanner C R → Job (RunScanner C R)} :
    Answers (b.work T x) d b' e ↔
      ∃ s, Answers (x (T.engine d.files) b.scanner) d s e ∧ b' = { b with scanner := s } := by
  simp only [Bench.work, answers_bind, answers_get, answers_pure]
  constructor
  · rintro ⟨_, _, ⟨rfl, rfl⟩, s, _, hs, rfl, rfl⟩
    exact ⟨s, hs, rfl⟩
  · rintro ⟨s, hs, rfl⟩
    exact ⟨d, d, ⟨rfl, rfl⟩, s, e, hs, rfl, rfl⟩

/-- A change of the session leaves all else in a scanner. -/
theorem change_onSession {α : Type} {x : Action (RunSession C R) α} {s s' : RunScanner C R}
    (h : Answers (change (Scanner.onSession x) s) d s' e) :
    ∃ session, s' = { s with session } := by
  obtain ⟨-, rfl, -⟩ := answers_change.1 h
  exact ⟨_, rfl⟩

theorem registry_ofCache {config : Config} {path : String} {files : Files} {s : RunScanner C R}
    (h : (Scanner.ofCache T K config path files).reply = .ok s) : s.registry = {} := by
  have hreply : (Scanner.ofCache T K config path files).reply = _ := Action.reply_map ..
  rw [hreply, Reply.map_eq_ok] at h
  obtain ⟨rules, -, rfl⟩ := h
  rfl

/-- A cache that is saved holds the rules of the scanner, which are built. -/
theorem saveRules_answers {path : String} {s s' : RunScanner C R}
    (h : Answers (saveRules (T.engine d.files) K (some path) s) d s' e) :
    s' = s ∧ ∃ ready bytes, s.session.phase = .built ready ∧ T.toBytes ready.rules = .ok bytes ∧
      Cache.Written d.files e.files path (K.encode bytes) := by
  obtain ⟨kept, d', hkept, h⟩ := answers_bind.1 h
  obtain ⟨_, _, hnote, h⟩ := answers_bind.1 h
  obtain ⟨rfl, rfl⟩ := answers_pure.1 h
  rw [← answers_note.1 hnote]
  obtain ⟨⟨u, hreply⟩, hstate, -⟩ := answers_changeBoth.1 hkept
  obtain ⟨ready, bytes, saved, hbuilt, hbytes, hwritten, hsaved⟩ :=
    Scanner.written_of_saveCache hreply
  obtain ⟨rfl, rfl⟩ := Prod.mk.inj (hstate.symm.trans hsaved)
  exact ⟨rfl, ready, bytes, hbuilt, hbytes, hwritten⟩

theorem makes_of_answers {s : Stage} (h : Answers (s.job T K S a b) d b' e) :
    Makes T S d.files b s b' := by
  cases s with
  | config =>
    obtain ⟨config, _, -, h⟩ := answers_bind.1 h
    obtain ⟨rfl, -⟩ := answers_pure.1 h
    exact .config config
  | cache path =>
    obtain ⟨s, _, hs, h⟩ := answers_bind.1 h
    obtain ⟨rfl, -⟩ := answers_pure.1 h
    exact .cache (registry_ofCache (answers_onFiles.1 hs).1)
  | rulesGiven =>
    dsimp only [Stage.job] at h
    split at h
    · exact absurd h not_answers_throw
    · obtain ⟨rfl, -⟩ := answers_pure.1 h
      exact .rulesGiven
  | ignored module =>
    rw [Stage.job] at h
    obtain ⟨s, hs, rfl⟩ := answers_work.1 h
    obtain ⟨session, rfl⟩ := change_onSession hs
    exact .session rfl session b.count
  | definition text =>
    rw [Stage.job] at h
    obtain ⟨s, hs, rfl⟩ := answers_work.1 h
    rw [defineAll] at hs
    split at hs
    next => exact absurd hs not_answers_throw
    next =>
      obtain ⟨s', _, hchange, hlast⟩ := answers_bind.1 hs
      obtain ⟨rfl, -⟩ := answers_pure.1 hlast
      obtain ⟨session, rfl⟩ := change_onSession hchange
      exact .session rfl session b.count
  | space name =>
    rw [Stage.job] at h
    obtain ⟨s, hs, rfl⟩ := answers_work.1 h
    obtain ⟨session, rfl⟩ := change_onSession hs
    exact .session rfl session b.count
  | paths =>
    obtain ⟨_, _, hget, h⟩ := answers_bind.1 h
    obtain ⟨rfl, rfl⟩ := answers_get.1 hget
    obtain ⟨⟨count, s⟩, _, hs, h⟩ := answers_bind.1 h
    obtain ⟨rfl, -⟩ := answers_pure.1 h
    obtain ⟨-, rfl, -⟩ := answers_onScanner.1 hs
    exact .session rfl _ count
  | build =>
    obtain ⟨_, _, hb, h⟩ := answers_bind.1 h
    obtain ⟨_, _, -, h⟩ := answers_bind.1 h
    obtain ⟨rfl, -⟩ := answers_pure.1 h
    obtain ⟨s, hs, rfl⟩ := answers_work.1 hb
    obtain ⟨session, rfl⟩ := change_onSession hs
    exact .session rfl session b.count
  | save path =>
    rw [Stage.job] at h
    obtain ⟨s, hs, rfl⟩ := answers_work.1 h
    obtain ⟨rfl, -⟩ := saveRules_answers hs
    exact .session rfl b.scanner.session b.count
  | plugins path =>
    obtain ⟨plugins, _, hplugins, h⟩ := answers_bind.1 h
    obtain ⟨s, _, hs, h⟩ := answers_bind.1 h
    obtain ⟨rfl, -⟩ := answers_pure.1 h
    obtain ⟨-, rfl, -⟩ := answers_change.1 hs
    exact .plugins (pluginsAt_of_answers hplugins).1
  | buffer c path =>
    obtain ⟨data?, _, hdata, h⟩ := answers_bind.1 h
    obtain ⟨rfl, -⟩ := answers_pure.1 h
    obtain ⟨_, _, hget, hdata⟩ := answers_bind.1 hdata
    obtain ⟨rfl, rfl⟩ := answers_get.1 hget
    rcases hread : d.files.read path with fault | data
    · rw [hread] at hdata
      exact absurd hdata not_answers_throw
    · rw [hread] at hdata
      obtain ⟨rfl, -⟩ := answers_pure.1 hdata
      exact .buffer hread
  | scan =>
    obtain ⟨_, _, hget, h⟩ := answers_bind.1 h
    obtain ⟨rfl, rfl⟩ := answers_get.1 hget
    obtain ⟨⟨outcome, s⟩, _, hs, h⟩ := answers_bind.1 h
    obtain ⟨_, _, -, h⟩ := answers_bind.1 h
    obtain ⟨_, _, -, h⟩ := answers_bind.1 h
    obtain ⟨rfl, -⟩ := answers_pure.1 h
    obtain ⟨hreply, rfl, -⟩ := answers_onScanner.1 hs
    exact .scan hreply

/-! ## What a stage leaves of the files -/

theorem load_state (path : String) (files : Files) : (Config.load path files).state = files :=
  (load_does path files).state_eq

theorem ofCache_state (config : Config) (path : String) (files : Files) :
    (Scanner.ofCache T K config path files).state = files := by
  have hquiet : Action.Keeps (· = files) (K.loadQuietly path) :=
    Action.Keeps.get.bind fun _ => (Action.Keeps.ofExcept _).bind fun _ => .ofExcept _
  have hload : Action.Keeps (· = files) (K.load path) :=
    hquiet.bind fun _ => Action.Keeps.get.bind fun _ => (Action.Keeps.log _ _).bind fun _ => .pure _
  have hrestore : Action.Keeps (· = files) (T.restoreFrom K config.timeout path) :=
    hload.bind fun _ => (Action.Keeps.ofExcept _).bind fun _ =>
      (Action.Keeps.log _ _).bind fun _ => .pure _
  exact (hrestore.bind fun _ => .pure _) files rfl

theorem work_still {x : RunEngine C R → RunScanner C R → Job (RunScanner C R)}
    (hx : ∀ E s, Still (x E s)) : Still (b.work T x) :=
  Still.get.bind fun _ => (hx _ _).bind fun _ => .pure _

theorem loadPlugins_still (S : Searcher M) (path : String) : Still (loadPlugins S path) := by
  refine Still.get.bind fun d => ?_
  rcases d.files.readText path with fault | text
  · exact .throw _
  · dsimp only
    rcases Json.decodeText (Json.list Definition.schema.decoder) text with fault | definitions
    · exact .throw _
    · exact .answer _ _

theorem readBuffer_still (path : String) : Still (readBuffer (some path)) := by
  refine Still.get.bind fun d => ?_
  rcases d.files.read path with fault | data
  · exact .throw _
  · exact .pure _

/-- **Only one stage changes the files**, that in which the rules are saved. -/
theorem Stage.job_still {s : Stage} (hs : ∀ path, s ≠ .save path) : Still (s.job T K S a b) := by
  cases s with
  | config =>
    have hread : Still (readConfig a.config) := by
      rcases a.config with _ | path
      · exact .pure _
      · exact .onFiles _ (load_state path)
    exact (hread.bind fun _ => .pure _).bind fun _ => .pure _
  | cache path => exact (Still.onFiles _ (ofCache_state _ path)).bind fun _ => .pure _
  | rulesGiven =>
    dsimp only [Stage.job]
    split
    · exact .throw _
    · exact .pure _
  | ignored module => exact work_still fun _ _ => .change _ _
  | definition text => exact work_still fun _ _ => defineAll_still _ _ _
  | space name => exact work_still fun _ _ => openSpace_still _ _ _
  | paths => exact Still.get.bind fun _ => (Still.onScanner _ _).bind fun _ => .pure _
  | build =>
    exact (work_still fun _ _ => .change _ _).bind fun _ => (Still.note _).bind fun _ => .pure _
  | save path => exact absurd rfl (hs path)
  | plugins path =>
    exact (loadPlugins_still S path).bind fun _ => (Still.change _ _).bind fun _ => .pure _
  | buffer c path => exact (readBuffer_still path).bind fun _ => .pure _
  | scan =>
    exact Still.get.bind fun _ => (Still.onScanner _ _).bind fun _ =>
      (Still.note _).bind fun _ => (Still.note _).bind fun _ => .pure _

theorem goThrough_still {l : List Stage} (hl : ∀ path, .save path ∉ l) (b : Bench C R) :
    Still (goThrough T K S a l b) := by
  induction l generalizing b with
  | nil => exact .pure b
  | cons s rest ih =>
    rw [goThrough_cons]
    refine (Stage.job_still fun path hs => hl path ?_).bind fun b => ih (fun path h => ?_) b
    · exact hs ▸ List.mem_cons_self
    · exact hl path (List.mem_cons_of_mem _ h)

/-- Where the rules cannot be saved, some directories are made at most. -/
theorem save_fails {path : String} {fault : RunFault}
    (h : Fails (Stage.job T K S a b (.save path)) d fault e) : d.files.Grows e.files := by
  have hsave : Fails (saveRules (T.engine d.files) K (some path) b.scanner) d fault e := by
    rcases fails_bind.1 h with h | ⟨_, _, hget, h⟩
    · cases h
    · obtain ⟨rfl, rfl⟩ := answers_get.1 hget
      rcases fails_bind.1 h with h | ⟨_, _, -, h⟩
      · exact h
      · cases h
  rcases fails_bind.1 hsave with h | ⟨_, _, -, h⟩
  · rw [Fails, run_changeBoth] at h
    rcases Scanner.saveCache_cases K path d.files d.files b.scanner with
      ⟨_, _, _, -, -, -, hreply, -⟩ | ⟨halt, -, hgrows⟩
    · rw [hreply] at h
      cases h
    · rw [← (Prod.mk.inj h).2]
      exact hgrows
  · cases h

/-! ## Going through stages -/

/-- What every stage in a list keeps is kept when they are gone through. -/
theorem goThrough_keeps {p : Bench C R → Prop} {l : List Stage}
    (hl : ∀ s ∈ l, ∀ files b b', p b → Makes T S files b s b' → p b')
    (h : Answers (goThrough T K S a l b) d b' e) (hb : p b) : p b' := by
  induction l generalizing b d with
  | nil =>
    obtain ⟨rfl, -⟩ := answers_pure.1 h
    exact hb
  | cons s rest ih =>
    rw [goThrough_cons] at h
    obtain ⟨b₁, d₁, hs, hrest⟩ := answers_bind.1 h
    refine ih (fun s hs => hl s (List.mem_cons_of_mem _ hs)) hrest ?_
    exact hl s List.mem_cons_self d.files b b₁ hb (makes_of_answers hs)

/-- A stage among those that are gone through finds what the ones before it leave. -/
theorem goThrough_split {before rest : List Stage} {s : Stage}
    (h : Answers (goThrough T K S a (before ++ s :: rest) b) d b' e) :
    ∃ b₀ d₀ b₁ d₁, Answers (goThrough T K S a before b) d b₀ d₀ ∧
      Answers (s.job T K S a b₀) d₀ b₁ d₁ ∧ Answers (goThrough T K S a rest b₁) d₁ b' e := by
  rw [goThrough_append, answers_bind] at h
  obtain ⟨b₀, d₀, hbefore, h⟩ := h
  rw [goThrough_cons, answers_bind] at h
  obtain ⟨b₁, d₁, hs, hrest⟩ := h
  exact ⟨b₀, d₀, b₁, d₁, hbefore, hs, hrest⟩

theorem registry_of_scan (files : Files) (s : RunScanner C R) (sample : Sample) :
    (Scanner.scanDetailed (T.engine files) Pacer.strategy sample s).state.registry =
      s.registry := by
  obtain ⟨p, hdoes⟩ := Scanner.scanDetailed_does (T.engine files) Pacer.strategy sample s
  rw [hdoes.state_eq]
  rfl

/-- Rules that are built stay through a scan. -/
theorem phase_of_scan (files : Files) {s : RunScanner C R} {ready : Ready R}
    (h : s.session.phase = .built ready) (sample : Sample) :
    (Scanner.scanDetailed (T.engine files) Pacer.strategy sample s).state.session.phase =
      .built ready := by
  obtain ⟨p, hdoes⟩ := Scanner.scanDetailed_does (T.engine files) Pacer.strategy sample s
  rw [hdoes.state_eq, h]
  exact phaseAfter_built T files ready _

/-! ## The buffers of a sample -/

theorem buffer?_set (s : Sample) (data : Option ByteArray) (c c' : Channel) :
    (s.set data c).buffer? c' = if c' = c then data else s.buffer? c' := by
  cases c <;> cases c' <;> rfl

/-- Each channel gets the buffer that is read at its path, if there is one. -/
theorem bufferStages_read {cs : List Channel} (hcs : cs.Nodup)
    (h : Answers (goThrough T K S a (bufferStages a cs) b) d b' e) :
    (∀ c ∈ cs, b.sample.buffer? c = none →
      (b'.sample.buffer? c).map .ok = (a.bufferPath? c).map d.files.read) ∧
    ∀ c, c ∉ cs → b'.sample.buffer? c = b.sample.buffer? c := by
  induction cs generalizing b d with
  | nil =>
    obtain ⟨rfl, -⟩ := answers_pure.1 h
    exact ⟨fun c hc => absurd hc List.not_mem_nil, fun _ _ => rfl⟩
  | cons c rest ih =>
    obtain ⟨hc, hrest⟩ := List.nodup_cons.1 hcs
    rw [bufferStages, List.flatMap_cons, goThrough_append] at h
    obtain ⟨b₁, d₁, hfirst, h⟩ := answers_bind.1 h
    obtain ⟨hread, hother⟩ := ih hrest h
    -- the first stage reads the buffer of its own channel and leaves the others
    obtain ⟨hfiles, hbuffer, hleft⟩ : d₁.files = d.files ∧
        (b.sample.buffer? c = none →
          (b₁.sample.buffer? c).map .ok = (a.bufferPath? c).map d.files.read) ∧
        ∀ c', c' ≠ c → b₁.sample.buffer? c' = b.sample.buffer? c' := by
      rcases hpath : a.bufferPath? c with _ | path
      · rw [hpath] at hfirst
        obtain ⟨rfl, rfl⟩ := answers_pure.1 hfirst
        exact ⟨rfl, fun hnone => by rw [hnone]; rfl, fun _ _ => rfl⟩
      · rw [hpath, Option.toList_some, List.map_singleton, goThrough_singleton] at hfirst
        refine ⟨(Stage.job_still (fun _ => by simp)).answers hfirst, ?_⟩
        cases makes_of_answers hfirst with
        | session hsession => cases hsession
        | buffer hdata =>
          refine ⟨fun _ => ?_, fun c' hc' => ?_⟩
          · rw [buffer?_set, if_pos rfl, Option.map_some, Option.map_some, hdata]
          · rw [buffer?_set, if_neg hc']
    refine ⟨fun c' hc' hnone => ?_, fun c' hc' => ?_⟩
    · by_cases heq : c' = c
      · subst heq
        rw [hother c' hc, hbuffer hnone]
      · rw [← hfiles]
        refine hread c' ((List.mem_cons.1 hc').resolve_left heq) ?_
        rw [hleft c' heq, hnone]
    · rw [List.mem_cons, not_or] at hc'
      rw [hother c' hc'.2, hleft c' hc'.1]

/-! ## The order of the stages -/

/-- A list that is cut behind one of its elements. -/
theorem cut_behind {α : Type} {x : α} {l m before after : List α}
    (h : l ++ x :: m = before ++ after) (hx : x ∈ before) (hl : x ∉ l) :
    ∃ rest, before = l ++ x :: rest ∧ m = rest ++ after := by
  rcases List.append_eq_append_iff.1 h with ⟨rest, hbefore, hrest⟩ | ⟨rest, rfl, -⟩
  · cases rest with
    | nil =>
      rw [hbefore, List.append_nil] at hx
      exact absurd hx hl
    | cons y rest =>
      obtain ⟨rfl, hm⟩ := List.cons.inj hrest
      exact ⟨rest, hbefore, hm⟩
  · exact absurd (List.mem_append_left _ hx) hl

theorem mem_saveStages {s : Stage} :
    s ∈ saveStages a ↔ ∃ path, s = .save path ∧ a.loadCache = none ∧ a.saveCache = some path := by
  rw [saveStages]
  rcases a.loadCache with _ | path
  · simp [eq_comm, and_comm]
  · simp

theorem save_notMem_ruleStages (path : String) : .save path ∉ ruleStages a := by
  rw [ruleStages]
  rcases a.loadCache with _ | path <;> simp [buildStages]

/-- Whether a stage has to do with the rules. -/
def Stage.isForRules : Stage → Bool
  | .plugins _ | .buffer _ _ | .scan => false
  | _ => true

theorem isForRules_of_mem {s : Stage} (h : s ∈ .config :: (ruleStages a ++ saveStages a)) :
    s.isForRules := by
  rcases List.mem_cons.1 h with rfl | h
  · rfl
  rcases List.mem_append.1 h with h | h
  · rw [ruleStages] at h
    rcases hload : a.loadCache with _ | path
    · rw [hload] at h
      simp only [buildStages, List.mem_cons, List.mem_append, List.mem_map] at h
      rcases h with rfl | ⟨_, _, rfl⟩ | ⟨_, _, rfl⟩ | ⟨_, _, rfl⟩ | rfl | rfl | h
      all_goals first | rfl | cases h
    · rw [hload] at h
      rw [List.mem_singleton.1 h]
      rfl
  · obtain ⟨path, rfl, -⟩ := mem_saveStages.1 h
    rfl

theorem mem_bufferStages {s : Stage} {cs : List Channel} (h : s ∈ bufferStages a cs) :
    ∃ c path, s = .buffer c path := by
  obtain ⟨c, -, hs⟩ := List.mem_flatMap.1 h
  obtain ⟨path, -, rfl⟩ := List.mem_map.1 hs
  exact ⟨c, path, rfl⟩

/-- What is done once the plugins are there. -/
theorem mem_afterPlugins {s : Stage} (h : s ∈ bufferStages a Channel.ordered ++ [.scan]) :
    (∃ c path, s = .buffer c path) ∨ s = .scan :=
  (List.mem_append.1 h).imp mem_bufferStages List.mem_singleton.1

theorem mem_scanStages {s : Stage} (h : s ∈ scanStages a) :
    (∃ path, s = .plugins path) ∨ (∃ c path, s = .buffer c path) ∨ s = .scan := by
  refine (List.mem_append.1 h).imp (fun hs => ?_) mem_afterPlugins
  obtain ⟨path, -, rfl⟩ := List.mem_map.1 hs
  exact ⟨path, rfl⟩

/-- Rules are saved behind all stages that get them ready. -/
theorem save_cut {path : String} {passed later : List Stage} (h : stages a = passed ++ later)
    (hsave : .save path ∈ passed) :
    (a.loadCache = none ∧ a.saveCache = some path) ∧
      ∃ rest, passed = .config :: ruleStages a ++ .save path :: rest ∧
        scanStages a = rest ++ later := by
  have hscan : .save path ∉ scanStages a := fun hmem => by
    rcases mem_scanStages hmem with ⟨_, h⟩ | ⟨_, _, h⟩ | h <;> cases h
  have hrules : .save path ∉ .config :: ruleStages a := by
    simp [save_notMem_ruleStages]
  have hmem : .save path ∈ stages a := h ▸ List.mem_append_left _ hsave
  have hasked : a.loadCache = none ∧ a.saveCache = some path := by
    rw [stages, ← List.cons_append] at hmem
    have hin := ((List.mem_append.1 hmem).resolve_left hrules)
    obtain ⟨_, hpath, hasked⟩ := mem_saveStages.1 ((List.mem_append.1 hin).resolve_right hscan)
    cases hpath
    exact hasked
  refine ⟨hasked, cut_behind ?_ hsave hrules⟩
  rw [← h, stages, saveStages, hasked.1, hasked.2]
  rfl

/-- Plugins are loaded behind all that is done for the rules. -/
theorem plugins_cut {path : String} {passed later : List Stage} (h : stages a = passed ++ later)
    (hplugins : .plugins path ∈ passed) :
    ∃ rest, passed = .config :: (ruleStages a ++ saveStages a) ++ .plugins path :: rest ∧
      bufferStages a Channel.ordered ++ [.scan] = rest ++ later := by
  have hrest : .plugins path ∉ bufferStages a Channel.ordered ++ [.scan] := fun hmem => by
    rcases mem_afterPlugins hmem with ⟨_, _, h⟩ | h <;> cases h
  have hrules : .plugins path ∉ .config :: (ruleStages a ++ saveStages a) := fun hmem => by
    cases isForRules_of_mem hmem
  have hmem : .plugins path ∈ stages a := h ▸ List.mem_append_left _ hplugins
  have hpath : a.plugins = some path := by
    rw [stages, ← List.append_assoc, ← List.cons_append, scanStages] at hmem
    have hin := (List.mem_append.1 hmem).resolve_left hrules
    simpa using (List.mem_append.1 hin).resolve_right hrest
  refine cut_behind ?_ hplugins hrules
  rw [← h, stages, scanStages, hpath, ← List.append_assoc, ← List.cons_append]
  rfl

/-! ## Runs -/

/-- How a run ends that has passed some stages, with others to come: with its text, or where the
next stage fails with the report of the fault alone. -/
inductive Ends (T : Toolchain C R) (K : Cache.Codec) (S : Searcher M) (a : Arguments)
    (b : Bench C R) (d : Desk) : List Stage → Exit → Prop
  | printed : Ends T K S a b d []
    { code := 0, output := outcomeText a.pretty b.outcome, files := d.files, trace := d.trace }
  | stopped {s : Stage} {later : List Stage} {fault : RunFault} {e : Desk}
    (h : Fails (s.job T K S a b) d fault e) : Ends T K S a b d (s :: later)
      { code := 1, output := "", errors := fault.report, files := e.files, trace := e.trace }

/-- The files are left by the end of a run, unless it ends in the saving of the rules. -/
theorem Ends.files_eq {later : List Stage} {exit : Exit} (h : Ends T K S a b d later exit)
    (hnext : ∀ path, later.head? ≠ some (.save path)) : exit.files = d.files := by
  cases h with
  | printed => rfl
  | stopped h => exact (Stage.job_still fun path hs => hnext path (congrArg some hs)).fails h

/-- Nor are they changed once no rules are to be saved any more. -/
theorem Ends.files_after {rest later : List Stage} {exit : Exit} {b₁ : Bench C R} {d₁ : Desk}
    (h : Ends T K S a b d later exit) (hrest : Answers (goThrough T K S a rest b₁) d₁ b d)
    (hnone : ∀ path, .save path ∉ rest ++ later) : exit.files = d₁.files := by
  rw [h.files_eq, (goThrough_still (fun path hs => ?_) b₁).answers hrest]
  · exact hnone path (List.mem_append_left _ hs)
  · exact fun path hnext => hnone path (List.mem_append_right _ (List.mem_of_mem_head? hnext))

theorem Ends.grows {later : List Stage} {exit : Exit} (h : Ends T K S a b d later exit) :
    d.files.Grows exit.files := by
  cases h with
  | printed => exact .refl _
  | @stopped s _ _ _ h =>
    by_cases hs : ∃ path, s = .save path
    · obtain ⟨path, rfl⟩ := hs
      exact save_fails h
    · rw [(Stage.job_still (not_exists.1 hs)).fails h]
      exact .refl _

/-- The course of a run with some arguments: the stages that it has passed and those that were to
come, what the former have made, and how it ended. -/
structure Course (T : Toolchain C R) (K : Cache.Codec) (S : Searcher M) (a : Arguments)
    (files : Files) (exit : Exit) (passed later : List Stage) (b : Bench C R) (d : Desk) :
    Prop where
  order : stages a = passed ++ later
  passes : Answers (goThrough T K S a passed {}) { files } b d
  ends : Ends T K S a b d later exit
  /-- What is printed is what a scan finds in the buffers at the paths that are given. -/
  scanned : later = [] → ∃ before ready e, passed = before ++ [.scan] ∧
    Answers (goThrough T K S a before {}) { files } ready e ∧
    (Scanner.scanDetailed (T.engine exit.files) Pacer.strategy ready.sample ready.scanner).reply =
      .ok b.outcome ∧
    ∀ c, (ready.sample.buffer? c).map .ok = (a.bufferPath? c).map exit.files.read
  unplugged : (∀ path, .plugins path ∉ passed) → b.scanner.registry = {}
  /-- The plugins are those of a file with nothing but valid definitions. -/
  plugged : ∀ path, .plugins path ∈ passed →
    PluginsAt S exit.files path b.scanner.registry.plugins
  /-- The cache holds the rules that are scanned with, and nothing else is written. -/
  saved : ∀ path, .save path ∈ passed → ∃ ready bytes place,
    b.scanner.session.phase = .built ready ∧ T.toBytes ready.rules = .ok bytes ∧
    Cache.Written files exit.files path (K.encode bytes) ∧
    exit.files.locate path = .ok (place, .file (K.encode bytes)) ∧
    files.Gains exit.files place (K.encode bytes)
  savedWhen : ∀ path, .save path ∈ passed ↔ a.loadCache = none ∧ a.saveCache = some path ∧
    .config :: ruleStages a ++ [.save path] <+: passed
  /-- Where the cache cannot be written, some directories are made at most. -/
  unsaved : (∀ path, .save path ∉ passed) → files.Grows exit.files ∧
    ((∀ path, later.head? ≠ some (.save path)) → exit.files = files)

section

variable {files : Files} {exit : Exit} {passed later : List Stage}

theorem registry_of_unplugged (hpasses : Answers (goThrough T K S a passed {}) { files } b d)
    (hnone : ∀ path, .plugins path ∉ passed) : b.scanner.registry = {} := by
  refine goThrough_keeps (p := fun b => b.scanner.registry = {}) ?_ hpasses rfl
  intro s hs files b b' hb hmakes
  cases hmakes with
  | config => rfl
  | cache h => exact h
  | rulesGiven => exact hb
  | session => exact hb
  | @plugins path => exact absurd hs (hnone path)
  | buffer => exact hb
  | scan => rw [registry_of_scan, hb]

theorem plugins_of_plugged (horder : stages a = passed ++ later)
    (hpasses : Answers (goThrough T K S a passed {}) { files } b d)
    (hends : Ends T K S a b d later exit) {path : String} (hplugins : .plugins path ∈ passed) :
    PluginsAt S exit.files path b.scanner.registry.plugins := by
  obtain ⟨rest, rfl, hrest⟩ := plugins_cut horder hplugins
  obtain ⟨b₀, d₀, b₁, d₁, -, hloaded, hpasses⟩ := goThrough_split hpasses
  have hfiles : exit.files = d₀.files := by
    rw [hends.files_after hpasses, (Stage.job_still (fun _ => by simp)).answers hloaded]
    intro path hs
    rcases mem_afterPlugins (hrest ▸ hs) with ⟨_, _, h⟩ | h <;> cases h
  have hstays : b.scanner.registry = b₁.scanner.registry := by
    refine goThrough_keeps (p := fun b => b.scanner.registry = b₁.scanner.registry) ?_ hpasses rfl
    intro s hs files b b' hb hmakes
    rcases mem_afterPlugins (hrest ▸ List.mem_append_left later hs) with ⟨c, path, rfl⟩ | rfl
    · cases hmakes with
      | session h => cases h
      | buffer => exact hb
    · cases hmakes with
      | session h => cases h
      | scan => rw [registry_of_scan, hb]
  rw [hfiles, hstays]
  cases makes_of_answers hloaded with
  | session h => cases h
  | plugins h => exact h

theorem written_of_saved (horder : stages a = passed ++ later)
    (hpasses : Answers (goThrough T K S a passed {}) { files } b d)
    (hends : Ends T K S a b d later exit) {path : String} (hsave : .save path ∈ passed) :
    ∃ ready bytes, b.scanner.session.phase = .built ready ∧ T.toBytes ready.rules = .ok bytes ∧
      Cache.Written files exit.files path (K.encode bytes) := by
  obtain ⟨-, rest, rfl, hrest⟩ := save_cut horder hsave
  obtain ⟨b₀, d₀, b₁, d₁, hready, hsaved, hpasses⟩ := goThrough_split hpasses
  have hbefore : d₀.files = files := by
    refine (goThrough_still (fun path hs => ?_) _).answers hready
    exact save_notMem_ruleStages path (List.mem_of_ne_of_mem (by simp) hs)
  have hafter : exit.files = d₁.files := by
    refine hends.files_after hpasses fun path hs => ?_
    rcases mem_scanStages (hrest ▸ hs) with ⟨_, h⟩ | ⟨_, _, h⟩ | h <;> cases h
  rw [Stage.job] at hsaved
  obtain ⟨s, hrules, rfl⟩ := answers_work.1 hsaved
  obtain ⟨rfl, ready, bytes, hbuilt, hbytes, hwritten⟩ := saveRules_answers hrules
  refine ⟨ready, bytes, ?_, hbytes, by rwa [hafter, ← hbefore]⟩
  refine goThrough_keeps (p := fun b => b.scanner.session.phase = .built ready) ?_ hpasses hbuilt
  intro s hs files b b' hb hmakes
  -- the rules stay built while plugins and buffers are read, and in the scan
  rcases mem_scanStages (hrest ▸ List.mem_append_left later hs) with
    ⟨path, rfl⟩ | ⟨c, path, rfl⟩ | rfl
  · cases hmakes with
    | session h => cases h
    | plugins => exact hb
  · cases hmakes with
    | session h => cases h
    | buffer => exact hb
  · cases hmakes with
    | session h => cases h
    | scan => exact phase_of_scan files hb b.sample

theorem sample_of_passed (hpasses : Answers (goThrough T K S a passed {}) { files } b d)
    (hnone : ∀ c path, .buffer c path ∉ passed) : b.sample = {} := by
  refine goThrough_keeps (p := fun b => b.sample = {}) ?_ hpasses rfl
  intro s hs files b b' hb hmakes
  cases hmakes with
  | @buffer c path => exact absurd hs (hnone c path)
  | _ => exact hb

/-- What is scanned, if all stages are passed. -/
theorem scan_of_passed (hpasses : Answers (goThrough T K S a (stages a) {}) { files } b d) :
    ∃ before ready e, stages a = before ++ [.scan] ∧
      Answers (goThrough T K S a before {}) { files } ready e ∧
      (Scanner.scanDetailed (T.engine d.files) Pacer.strategy ready.sample ready.scanner).reply =
        .ok b.outcome ∧
      ∀ c, (ready.sample.buffer? c).map .ok = (a.bufferPath? c).map d.files.read := by
  have hlist : stages a = (.config :: (ruleStages a ++ saveStages a) ++
      a.plugins.toList.map .plugins) ++ bufferStages a Channel.ordered ++ [.scan] := by
    simp [stages, scanStages]
  rw [hlist, goThrough_append, answers_bind] at hpasses
  obtain ⟨ready, e, hready, hscan⟩ := hpasses
  refine ⟨_, ready, e, hlist, hready, ?_⟩
  rw [goThrough_singleton] at hscan
  have hfiles : d.files = e.files := (Stage.job_still (fun _ => by simp)).answers hscan
  rw [goThrough_append, answers_bind] at hready
  obtain ⟨b₀, d₀, hbefore, hbuffers⟩ := hready
  have hsample : b₀.sample = {} := by
    refine sample_of_passed hbefore fun c path hmem => ?_
    rcases List.mem_append.1 hmem with hmem | hmem
    · cases isForRules_of_mem hmem
    · obtain ⟨_, _, h⟩ := List.mem_map.1 hmem
      cases h
  have hsame : e.files = d₀.files := (goThrough_still (fun path hs => by
    obtain ⟨c, path, h⟩ := mem_bufferStages hs
    cases h) b₀).answers hbuffers
  refine ⟨?_, fun c => ?_⟩
  · rw [hfiles]
    cases makes_of_answers hscan with
    | session h => cases h
    | scan h => exact h
  · rw [hfiles, hsame]
    refine (bufferStages_read (by decide) hbuffers).1 c ?_ ?_
    · cases c <;> decide
    · rw [hsample]
      cases c <;> rfl

/-- The course of a run follows from how it goes through its stages. -/
theorem course_of_ends (horder : stages a = passed ++ later)
    (hpasses : Answers (goThrough T K S a passed {}) { files } b d)
    (hends : Ends T K S a b d later exit) : Course T K S a files exit passed later b d where
  order := horder
  passes := hpasses
  ends := hends
  scanned hlast := by
    subst hlast
    rw [List.append_nil] at horder
    subst horder
    rw [hends.files_eq (fun path h => by cases h)]
    exact scan_of_passed hpasses
  unplugged := registry_of_unplugged hpasses
  plugged _ := plugins_of_plugged horder hpasses hends
  saved path hsave := by
    obtain ⟨ready, bytes, hbuilt, hbytes, hwritten⟩ := written_of_saved horder hpasses hends hsave
    obtain ⟨place, hplace, hgains⟩ := hwritten.gains
    exact ⟨ready, bytes, place, hbuilt, hbytes, hwritten, hplace, hgains⟩
  savedWhen path := by
    constructor
    · intro hsave
      obtain ⟨⟨hload, hpath⟩, rest, rfl, -⟩ := save_cut horder hsave
      exact ⟨hload, hpath, rest, by simp⟩
    · rintro ⟨-, -, hprefix⟩
      exact hprefix.subset (by simp)
  unsaved hnone := by
    have hfiles : d.files = files := (goThrough_still hnone _).answers hpasses
    rw [← hfiles]
    exact ⟨hends.grows, hends.files_eq⟩

end

/-- **A run is staged, and fails cleanly.** Whatever the arguments and the files are, the stages are
passed in their order up to the first one that fails. Its fault is reported, no later stage has left
anything, and nothing is printed; if none fails, what is printed is the outcome of the scan of the
buffers. Plugins are in use only from a file whose definitions are all valid. The cache is written
just if none is loaded, one is asked for and all stages up to its saving are passed, whatever comes
later; apart from the directories above it, nothing else is. -/
theorem run_course (T : Toolchain C R) (K : Cache.Codec) (S : Searcher M) {words : List String}
    {a : Arguments} (hwords : Arguments.read words = .ok a) (files : Files) :
    ∃ passed later b d, Course T K S a files (runWith T K S words files) passed later b d := by
  have hrun := job_staged T K S a { files }
  rcases goThrough_cases T K S a (stages a) {} { files } with
    ⟨b, d, hpasses⟩ | ⟨passed, s, later, b, d, fault, e, horder, hpasses, hs, hfails⟩
  · have hanswers : Answers (job T K S a) { files } (outcomeText a.pretty b.outcome) d :=
      hrun.trans (answers_bind.2 ⟨b, d, hpasses, rfl⟩)
    refine ⟨stages a, [], b, d, course_of_ends (List.append_nil _).symm hpasses ?_⟩
    rw [runWith_of_answers hwords hanswers]
    exact .printed
  · have hfault : Fails (job T K S a) { files } fault e := hrun.trans (fails_bind.2 (.inl hfails))
    refine ⟨passed, s :: later, b, d, course_of_ends horder hpasses ?_⟩
    rw [runWith_of_fails hwords hfault]
    exact .stopped hs

/-- A run whose buffer is missing: it has saved its rules all the same, and prints nothing. -/
theorem cache_stays_without_buffer :
    let words := ["--rules", "r", "--save-cache", "d/c", "--content", "missing"]
    let a : Arguments := { rules := ["r"], saveCache := some "d/c", content := some "missing" }
    let exit := runWith toolchain Cache.blocks searcher words ruleAndBuffer
    Arguments.read words = .ok a ∧
    (∃ passed later b d,
      Course toolchain Cache.blocks searcher a ruleAndBuffer exit passed later b d) ∧
    exit.code = 1 ∧ exit.output = "" ∧
    exit.errors = (RunFault.unreadable "missing" .notFound).report ∧
    (exit.files.read "d/c").isOk := by
  have hwords : Arguments.read ["--rules", "r", "--save-cache", "d/c", "--content", "missing"] =
      .ok { rules := ["r"], saveCache := some "d/c", content := some "missing" } := by
    decide +kernel
  refine ⟨hwords, run_course toolchain Cache.blocks searcher hwords ruleAndBuffer, ?_⟩
  decide +kernel

/-- A cache below a file is not written, although it is asked for and the rules are built. And where
no rules are given this is reported, whatever is wrong with the definitions. -/
theorem cache_below_file_and_no_rules :
    (let words := ["--rules", "r", "--save-cache", "x/c"]
      let a : Arguments := { rules := ["r"], saveCache := some "x/c" }
      let exit := run words ruleAndBuffer
      Arguments.read words = .ok a ∧
      ((goThrough toolchain Cache.blocks searcher a (.config :: ruleStages a) {}).run
        { files := ruleAndBuffer }).1.isOk ∧
      exit.code = 1 ∧ ¬ (exit.files.read "x/c").isOk) ∧
    let words := ["--define", "bad"]
    Arguments.read words = .ok { definitions := ["bad"] } ∧
      (run words ruleAndBuffer).errors = RunFault.noRules.report ∧
      (run words ruleAndBuffer).errors ≠ (RunFault.badDefinition "bad").report := by
  decide +kernel

end RuleScan.CommandLine
