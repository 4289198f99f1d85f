import RuleScan.Proofs.Cache.Store
import RuleScan.Proofs.Scan.Bracket
import RuleScan.Proofs.Session.Timeout

/-!
# Scanners from the cache

A toolchain restores rules if those that it has back from bytes find the same
(`Toolchain.Restores`). A scanner that is made from the cache of another one, with the same
configuration, then holds rules like those of the other one (`ofCache_of_saveCache`). Scanners with
like rules answer alike, whatever they are asked to scan one after the other, since rules are not
changed by scans (`Alike.steps`).
-/

namespace RuleScan

open Rules

namespace Rules

variable {C R : Type}

/-- Rules that find the same, and are as many. -/
structure Toolchain.Alike (T : Toolchain C R) (a b : R) : Prop where
  scan : ∀ timeout data, T.scan timeout data a = T.scan timeout data b
  size : T.size a = T.size b

/-- Rules are had back from the bytes that they are turned into, as far as one can see. -/
def Toolchain.Restores (T : Toolchain C R) : Prop :=
  ∀ rules bytes, T.toBytes rules = .ok bytes →
    ∃ restored, T.ofBytes bytes = .ok restored ∧ T.Alike rules restored

theorem toolchain_restores : toolchain.Restores := by
  intro rules bytes h
  obtain rfl : rules.toBytes = bytes := by simpa [toolchain] using h
  refine ⟨rules, ?_, fun _ _ => rfl, rfl⟩
  simp [toolchain, RuleSet.ofBytes_toBytes, Except.mapError]

end Rules

/-! ## Scans with built rules -/

section Built

variable {C R γ : Type} (T : Toolchain C R) (fs : Files)

theorem consult_built (data : ByteArray) (b : Ready R) :
    (Phase.built b).consult (T.engine fs) data = (((T.engine fs).scan data b).reply, .built b) := by
  rw [Phase.consult, Session.scan_state]

theorem visits_built (b : Ready R) (buffers : List (γ × ByteArray)) :
    visits (T.engine fs) (.built b) buffers =
      buffers.map fun p => ⟨p.1, p.2, ((T.engine fs).scan p.2 b).reply⟩ := by
  induction buffers with
  | nil => rfl
  | cons p rest ih =>
    rw [visits, consult_built, ih, Phase.visit, consult_built, List.map_cons]

theorem phaseAfter_built (b : Ready R) (vs : List (Visit γ)) :
    phaseAfter (T.engine fs) (.built b) vs = .built b := by
  induction vs with
  | nil => rfl
  | cons v rest ih =>
    rw [phaseAfter, List.foldl_cons, consult_built]
    exact ih

end Built

namespace Scanner

variable {C R π π' : Type}

/-- Something to scan. -/
inductive Query
  | sample (s : Sample)
  | buffers (l : List ByteArray)

/-- Scans what is asked for. -/
def ask {κ β : Type} (E : Engine κ β) (P : Strategy π) :
    Query → Action (Scanner κ β π) (Outcome ⊕ List (Option Findings))
  | .sample s => (scanDetailed E P s).bind fun o => .pure (.inl o)
  | .buffers l => (scanBatch E P l).bind fun found => .pure (.inr found)

/-- Scanners with built rules that are alike, and with the same plugins, weights and policy. How
they are paced does not matter. -/
structure Alike (T : Toolchain C R) (s : Scanner (Collector C) (Ready R) π)
    (s' : Scanner (Collector C) (Ready R) π') : Prop where
  rules : ∃ b b', s.session.phase = .built b ∧ s'.session.phase = .built b' ∧
    b.timeout = b'.timeout ∧ T.Alike b.rules b'.rules
  registry : s.registry = s'.registry
  weights : s.weights = s'.weights
  onPluginFailure : s.onPluginFailure = s'.onPluginFailure

variable {T : Toolchain C R} {s : Scanner (Collector C) (Ready R) π}
  {s' : Scanner (Collector C) (Ready R) π'}

/-- Rules that are alike answer a scan alike. -/
theorem scan_reply_alike {b b' : Ready R} (htime : b.timeout = b'.timeout)
    (h : T.Alike b.rules b'.rules) (fs fs' : Files) (data : ByteArray) :
    ((T.engine fs).scan data b).reply = ((T.engine fs').scan data b').reply := by
  have hreply (fs : Files) (b : Ready R) : ((T.engine fs).scan data b).reply =
      (Reply.ofExcept ((T.scan b.timeout data b.rules).mapError Failure.scan)).map
        (·.nonEmpty?) :=
    ((Action.Does.get b).after ((Action.Does.ofExcept _ b).map _)).reply_eq
  rw [hreply, hreply, htime, h.scan]

variable (fs fs' : Files) (P : Strategy π) (P' : Strategy π')

/-- **A sample** is scanned alike by like scanners. -/
theorem Alike.scanDetailed (h : Alike T s s') (sample : Sample) :
    (scanDetailed (T.engine fs) P sample s).reply =
        (Scanner.scanDetailed (T.engine fs') P' sample s').reply ∧
      Alike T (scanDetailed (T.engine fs) P sample s).state
        (Scanner.scanDetailed (T.engine fs') P' sample s').state := by
  obtain ⟨⟨b, b', hb, hb', htime, hrules⟩, hregistry, hweights, hpolicy⟩ := h
  obtain ⟨p, hdoes⟩ := scanDetailed_does (T.engine fs) P sample s
  obtain ⟨p', hdoes'⟩ := scanDetailed_does (T.engine fs') P' sample s'
  rw [hb, phaseAfter_built, visits_built] at hdoes
  rw [hb', phaseAfter_built, visits_built] at hdoes'
  rw [hdoes.reply_eq, hdoes'.reply_eq, hdoes.state_eq, hdoes'.state_eq]
  simp only [scan_reply_alike htime hrules fs fs', hregistry, hweights, hpolicy]
  exact ⟨trivial, ⟨b, b', rfl, rfl, htime, hrules⟩, hregistry, hweights, hpolicy⟩

/-- **Buffers** are scanned alike by like scanners. -/
theorem Alike.scanBatch (h : Alike T s s') (l : List ByteArray) :
    (scanBatch (T.engine fs) P l s).reply = (Scanner.scanBatch (T.engine fs') P' l s').reply ∧
      Alike T (scanBatch (T.engine fs) P l s).state
        (Scanner.scanBatch (T.engine fs') P' l s').state := by
  obtain ⟨⟨b, b', hb, hb', htime, hrules⟩, hregistry, hweights, hpolicy⟩ := h
  obtain ⟨p, hdoes⟩ := scanBatch_does (T.engine fs) P l s
  obtain ⟨p', hdoes'⟩ := scanBatch_does (T.engine fs') P' l s'
  rw [hb, phaseAfter_built, visits_built] at hdoes
  rw [hb', phaseAfter_built, visits_built] at hdoes'
  rw [hdoes.reply_eq, hdoes'.reply_eq, hdoes.state_eq, hdoes'.state_eq]
  simp only [scan_reply_alike htime hrules fs fs']
  exact ⟨trivial, ⟨b, b', rfl, rfl, htime, hrules⟩, hregistry, hweights, hpolicy⟩

theorem Alike.ask (h : Alike T s s') (q : Query) :
    (ask (T.engine fs) P q s).reply = (Scanner.ask (T.engine fs') P' q s').reply ∧
      Alike T (ask (T.engine fs) P q s).state (Scanner.ask (T.engine fs') P' q s').state := by
  cases q with
  | sample sample =>
    obtain ⟨hreply, hstate⟩ := h.scanDetailed fs fs' P P' sample
    rw [Scanner.ask, Scanner.ask, Action.reply_map, Action.reply_map, Action.state_map,
      Action.state_map, hreply]
    exact ⟨rfl, hstate⟩
  | buffers l =>
    obtain ⟨hreply, hstate⟩ := h.scanBatch fs fs' P P' l
    rw [Scanner.ask, Scanner.ask, Action.reply_map, Action.reply_map, Action.state_map,
      Action.state_map, hreply]
    exact ⟨rfl, hstate⟩

/-- **Many scans**, one after the other, with like scanners. -/
theorem Alike.steps (h : Alike T s s') (qs : List Query) :
    (Action.steps (Scanner.ask (T.engine fs) P) s qs).map (·.reply) =
      (Action.steps (Scanner.ask (T.engine fs') P') s' qs).map (·.reply) := by
  induction qs generalizing s s' with
  | nil => rfl
  | cons q rest ih =>
    obtain ⟨hreply, hstate⟩ := h.ask fs fs' P P' q
    rw [Action.steps, Action.steps, List.map_cons, List.map_cons, hreply, ih hstate]

/-! ## Saving and restoring -/

section

variable {κ β : Type} {E : Engine κ β} {s : Scanner κ β π}

/-- A scanner with bytes to save saves them. -/
theorem saveCache_of_export (K : Cache.Codec) (path : String) (fs : Files) {bytes : ByteArray}
    (h : (Session.exportRules E s.session).reply = .ok bytes) :
    (saveCache E K path (fs, s)).reply = (K.save path bytes fs).reply ∧
      (saveCache E K path (fs, s)).state =
        ((K.save path bytes fs).state,
          { s with session := (Session.exportRules E s.session).state }) := by
  have hexport : (Action.zoom Prod.snd (fun (both : Files × Scanner κ β π) s => (both.1, s))
      (onSession (Session.exportRules E)) (fs, s)).reply = .ok bytes := h
  have hall := Action.bind_of_ok (f := fun bytes =>
    .zoom Prod.fst (fun both fs => (fs, both.2)) (K.save path bytes)) hexport
  exact ⟨congrArg Step.reply hall, congrArg Step.state hall⟩

end

/-- Rules that were turned into bytes are built, and stay as they are. -/
theorem exportRules_of_ok {fs : Files} {bytes : ByteArray}
    {session : Session (Collector C) (Ready R)}
    (h : (Session.exportRules (T.engine fs) session).reply = .ok bytes) :
    ∃ b, session.phase = .built b ∧ T.toBytes b.rules = .ok bytes ∧
      (Session.exportRules (T.engine fs) session).state = session := by
  obtain ⟨phase, space, sources⟩ := session
  cases phase with
  | ingesting c => cases h
  | built b =>
    refine ⟨b, rfl, ?_, rfl⟩
    change Reply.ofExcept ((T.toBytes b.rules).mapError _) = .ok bytes at h
    rcases hbytes : T.toBytes b.rules with words | found
    · rw [hbytes] at h
      cases h
    · rw [hbytes] at h
      cases h
      rfl
  | buildFailed => cases h
  | closed => cases h

/-- **Saving** a scanner: its rules are built and written, or some directories are made at most. -/
theorem saveCache_cases (K : Cache.Codec) (path : String) (fs fs' : Files)
    (s : Scanner (Collector C) (Ready R) π) :
    (∃ b bytes saved, s.session.phase = .built b ∧ T.toBytes b.rules = .ok bytes ∧
      Cache.Written fs saved path (K.encode bytes) ∧
      (saveCache (T.engine fs') K path (fs, s)).reply = .ok () ∧
      (saveCache (T.engine fs') K path (fs, s)).state = (saved, s)) ∨
    ∃ h : Halt, (saveCache (T.engine fs') K path (fs, s)).reply = h.reply ∧
      fs.Grows (saveCache (T.engine fs') K path (fs, s)).state.1 := by
  rcases Reply.ok_or_halt (Session.exportRules (T.engine fs') s.session).reply with
    ⟨bytes, hexport⟩ | ⟨h, hexport⟩
  · obtain ⟨b, hb, hbytes, hsession⟩ := exportRules_of_ok hexport
    obtain ⟨hreply, hstate⟩ := saveCache_of_export K path fs hexport
    rw [hsession] at hstate
    rw [hreply, hstate]
    rcases K.save_cases path bytes fs with
      ⟨saved, hmade, hwrite, hdoes⟩ | ⟨e, left, hdoes, hgrows, -⟩
    · refine .inl ⟨b, bytes, saved, hb, hbytes, ⟨hmade, hwrite⟩, hdoes.reply_eq, ?_⟩
      rw [hdoes.state_eq]
    · refine .inr ⟨.failure (.file e), hdoes.reply_eq, ?_⟩
      rw [hdoes.state_eq]
      exact hgrows
  · have hdoes : (Action.zoom Prod.snd
        (fun (both : Files × Scanner (Collector C) (Ready R) π) s => (both.1, s))
        (onSession (Session.exportRules (T.engine fs')))).Does (fs, s) h.reply
          (fs, { s with session := (Session.exportRules (T.engine fs') s.session).state })
          (calls (Session.exportRules (T.engine fs') s.session).trace) :=
      ⟨hexport, rfl, rfl⟩
    have hall := hdoes.bind_halt (f := fun bytes =>
      .zoom Prod.fst (fun both fs => (fs, both.2)) (K.save path bytes))
    refine .inr ⟨h, hall.reply_eq, ?_⟩
    have hstate : (saveCache (T.engine fs') K path (fs, s)).state.1 = fs :=
      congrArg Prod.fst hall.state_eq
    rw [hstate]
    exact .refl fs

/-- Where a scanner was saved its rules are built, and they are in the cache. -/
theorem written_of_saveCache {K : Cache.Codec} {path : String} {fs fs' : Files} {u : Unit}
    (h : (saveCache (T.engine fs') K path (fs, s)).reply = .ok u) :
    ∃ b bytes saved, s.session.phase = .built b ∧ T.toBytes b.rules = .ok bytes ∧
      Cache.Written fs saved path (K.encode bytes) ∧
      (saveCache (T.engine fs') K path (fs, s)).state = (saved, s) := by
  rcases saveCache_cases K path fs fs' s with
    ⟨b, bytes, saved, hb, hbytes, hwritten, -, hstate⟩ | ⟨halt, hreply, -⟩
  · exact ⟨b, bytes, saved, hb, hbytes, hwritten, hstate⟩
  · rw [hreply] at h
    cases halt <;> cases h

/-- A scanner that was saved is like itself. -/
theorem alike_self {K : Cache.Codec} {path : String} {fs fs' : Files} {u : Unit}
    (h : (saveCache (T.engine fs') K path (fs, s)).reply = .ok u) : Alike T s s := by
  obtain ⟨b, -, -, hb, -⟩ := written_of_saveCache h
  exact ⟨⟨b, b, hb, hb, rfl, fun _ _ => rfl, rfl⟩, rfl, rfl, rfl⟩

/-- Other files are read as before after a scanner was saved. -/
theorem read_after_saveCache {K : Cache.Codec} {path other : String} {fs fs' : Files} {u : Unit}
    {data : ByteArray} (h : (saveCache (T.engine fs') K path (fs, s)).reply = .ok u)
    (hread : fs.read other = .ok data)
    (hother : ¬ (saveCache (T.engine fs') K path (fs, s)).state.1.SameFile other path) :
    (saveCache (T.engine fs') K path (fs, s)).state.1.read other = .ok data := by
  obtain ⟨_, _, saved, -, -, hwritten, hstate⟩ := written_of_saveCache h
  rw [hstate] at hother ⊢
  have hgrown := (Cache.parents_grows fs path).read hread
  exact Files.read_of_write_other hwritten.wrote hgrown hother

/-- What is loaded and turned into rules again makes a scanner. -/
theorem ofCache_of_read {K : Cache.Codec} {path : String} {fs : Files} {bytes : ByteArray}
    {rules : R} {config : Config} (hread : fs.read path = .ok (K.encode bytes))
    (hcodec : K.unpack (K.pack bytes) = .ok bytes) (hrules : T.ofBytes bytes = .ok rules) :
    (ofCache T K config path).Does fs
      (.ok (.ofSession config (.ofPace config.pace) (.ofBackend ⟨rules, config.timeout⟩)))
      fs [] := by
  have hquiet : (K.loadQuietly path).Does fs (.ok bytes) fs [] := by
    refine (Action.Does.get fs).after ?_
    rw [hread]
    have hdecode := Action.Does.ofExcept ((K.decode (K.encode bytes)).mapError Failure.cache) fs
    rw [K.decode_encode hcodec] at hdecode
    refine (Action.Does.ofExcept (.ok (K.encode bytes)) fs).after ?_
    rw [K.decode_encode hcodec]
    exact hdecode
  have hload : (K.load path).Does fs (.ok bytes) fs [] :=
    hquiet.after ((Action.Does.get fs).after ((Action.Does.log _ _ fs).after (.pure bytes fs)))
  have hrestore : T.restore config.timeout bytes = .ok ⟨rules, config.timeout⟩ := by
    rw [Toolchain.restore, hrules]
  have hready :
      (T.restoreFrom K config.timeout path).Does fs (.ok ⟨rules, config.timeout⟩) fs [] := by
    refine hload.after ?_
    rw [hrestore]
    exact (Action.Does.ofExcept (.ok (Ready.mk rules config.timeout)) fs).after
      ((Action.Does.log _ _ fs).after (.pure _ fs))
  exact hready.after (.pure _ fs)

/-- **A scanner from the cache of another one**: it is made, its rules are built, and with the same
plugins it is like the other one. -/
theorem ofCache_of_saveCache (hrestores : T.Restores) {K : Cache.Codec} {path : String}
    {config : Config} {fs fs' fs₂ : Files} {u : Unit}
    (htimeout : s.session.phase.TimeoutIs config.timeout) (hweights : s.weights = config.weights)
    (hpolicy : s.onPluginFailure = config.onPluginFailure)
    (hsave : (saveCache (T.engine fs') K path (fs, s)).reply = .ok u)
    (hsame : fs₂.read path = (saveCache (T.engine fs') K path (fs, s)).state.1.read path)
    (hcodec : ∀ bytes, fs₂.read path = .ok (K.encode bytes) → K.unpack (K.pack bytes) = .ok bytes) :
    ∃ restored, (ofCache T K config path).Does fs₂ (.ok restored) fs₂ [] ∧
      restored.session.status = .built ∧ restored.registry = {} ∧
      Alike T s { restored with registry := s.registry } := by
  obtain ⟨b, bytes, saved, hb, hbytes, hwritten, hstate⟩ := written_of_saveCache hsave
  have hread : fs₂.read path = .ok (K.encode bytes) := by
    rw [hsame, hstate]
    exact Files.read_of_write hwritten.wrote
  obtain ⟨rules, hrules, halike⟩ := hrestores b.rules bytes hbytes
  refine ⟨_, ofCache_of_read hread (hcodec bytes hread) hrules, rfl, rfl, ?_⟩
  refine ⟨⟨b, ⟨rules, config.timeout⟩, hb, rfl, ?_, halike⟩, rfl, hweights, hpolicy⟩
  rw [hb] at htimeout
  exact htimeout

end Scanner

end RuleScan
