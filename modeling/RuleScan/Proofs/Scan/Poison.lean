import RuleScan.Guarded
import RuleScan.Proofs.Scan.Visits
import RuleScan.Proofs.Session.Operation
import RuleScan.Scripted

/-!
# Nobody notices a poisoned lock

A scanner takes the lock of its session anew for each call, and none of its calls can tell whether
the lock is poisoned. So a guarded scanner does what one does without a lock, and the lock is
poisoned by what crashed (`Guarded.through`). This is shown for the combinators of actions, then for
a channel, for some channels by induction, and for whole scans (`perform_eq`).

The main result, `goes_on_as_bare`, is about a caller that goes on after failures and crashes: the
steps that it sees of a guarded scanner are those of the session alone, and a scan at any point does
what it does over the session that was left there.
-/

namespace RuleScan

variable {κ β π σ α γ ω : Type}

namespace Guarded

/-! ## Crashes that reach the lock -/

/-- What an action on a scanner does if there is a lock, which a crash poisons. -/
def through (x : Action (Scanner κ β π) α) : Action (Guarded κ β π) α := fun g =>
  let r := x g.scanner
  ⟨r.reply, ⟨r.state, g.poisoned || r.reply.isCrash⟩, r.trace⟩

theorem through_pure (a : α) : (through (.pure a) : Action (Guarded κ β π) α) = .pure a := by
  funext g
  exact Step.ext rfl (congrArg (Guarded.mk g.scanner) (Bool.or_false _)) rfl

theorem through_bind (x : Action (Scanner κ β π) α) (f : α → Action (Scanner κ β π) γ) :
    through (x.bind f) = (through x).bind fun a => through (f a) := by
  funext g
  rcases h : (x g.scanner).reply with a | e | words
  · have hx : (through x g).reply = .ok a := h
    rw [Action.bind_of_ok hx]
    simp only [through, Action.bind_of_ok h, h, Reply.isCrash, Bool.or_false]
  · have hx : (through x g).reply = .error e := h
    rw [Action.bind_of_error hx]
    simp only [through, Action.bind_of_error h, h, Reply.isCrash]
  · have hx : (through x g).reply = .crash words := h
    rw [Action.bind_of_crash hx]
    simp only [through, Action.bind_of_crash h, h, Reply.isCrash]

theorem through_forEach (f : γ → Action (Scanner κ β π) α) (l : List γ) :
    through (.forEach f l) = .forEach (fun c => through (f c)) l := by
  induction l with
  | nil => exact through_pure []
  | cons c rest ih => simp only [Action.forEach, through_bind, through_pure, ih]

theorem through_always (x : Action (Scanner κ β π) α) {last : Action (Scanner κ β π) Unit}
    (hlast : ∀ s, (last s).reply.isCrash = false) :
    through (x.always last) = (through x).always (through last) := by
  funext g
  simp only [through, Action.always, hlast, Bool.or_false]

theorem onSession_eq (x : Action (Session κ β) α) :
    (onSession x : Action (Guarded κ β π) α) = through (Scanner.onSession x) := by
  funext ⟨s, poisoned⟩
  cases poisoned <;> rfl

/-- What does not take the lock must not crash. -/
theorem aside_eq {x : Action (Scanner κ β π) α} (hcrash : ∀ s, (x s).reply.isCrash = false)
    (hsession : ∀ s, (x s).state.session = s.session) : aside x = through x := by
  funext g
  have hstate : { (x g.scanner).state with session := g.scanner.session } =
      (x g.scanner).state := by
    rw [← hsession]
  refine Step.ext rfl ?_ rfl
  simp only [aside, through, Action.zoom, hcrash, Bool.or_false, hstate]

/-! ## Scans -/

variable (E : Engine κ β) (P : Strategy π)

theorem pause_eq (token : Nat) :
    (aside (Scanner.pause P token) : Action (Guarded κ β π) Unit) =
      through (Scanner.pause P token) :=
  aside_eq (fun _ => rfl) fun _ => rfl

/-- Plugins do not crash a scan. -/
theorem askPlugins_eq (token : Nat) (c : Channel) (data : ByteArray) (found : Option Findings) :
    (aside (Scanner.askPlugins token c data found) : Action (Guarded κ β π) Outcome) =
      through (Scanner.askPlugins token c data found) := by
  refine aside_eq (fun s => ?_) fun s => ?_
  · rw [(Scanner.askPlugins_does token c data found s).reply_eq, Visit.reply]
    cases s.onPluginFailure with
    | skip => rfl
    | abort =>
      dsimp only [Visit.halt?]
      cases s.registry.plugins.findSome? (·.failure? data) <;> rfl
  · rw [(Scanner.askPlugins_does token c data found s).state_eq]

theorem scanRules_eq (data : ByteArray) :
    (scanRules E data : Action (Guarded κ β π) _) = through (Scanner.scanRules E data) :=
  onSession_eq _

theorem scanChannel_eq (token : Nat) (c : Channel) (data : ByteArray) :
    scanChannel E P token c data = through (Scanner.scanChannel E P token c data) := by
  simp only [scanChannel, Scanner.scanChannel, Action.bind_eq, through_bind, pause_eq,
    scanRules_eq, askPlugins_eq]

theorem scanChannels_eq (token : Nat) (buffers : List (Channel × ByteArray)) :
    scanChannels E P token buffers = through (Scanner.scanChannels E P token buffers) := by
  induction buffers with
  | nil => exact (through_pure _).symm
  | cons b rest ih =>
    simp only [scanChannels, Scanner.scanChannels, Action.bind_eq, Action.pure_eq, through_bind,
      through_pure, scanChannel_eq, ih]

theorem withBatch_eq (body : Nat → Action (Scanner κ β π) α) :
    withBatch P (fun token => through (body token)) = through (Scanner.withBatch P body) := by
  have hzoom {δ : Type} (x : Action π δ) (hx : ∀ p, (x p).reply.isCrash = false) :
      (.zoom (·.scanner.pacing)
          (fun g pacing => { g with scanner := { g.scanner with pacing } }) x :
        Action (Guarded κ β π) δ) =
      through (.zoom (·.pacing) (fun s pacing => { s with pacing }) x) := by
    have haside := aside_eq (x := (.zoom (·.pacing) (fun s pacing => { s with pacing }) x :
      Action (Scanner κ β π) δ)) (fun s => hx s.pacing) fun _ => rfl
    exact haside
  have hbegin := hzoom P.beginBatch fun _ => rfl
  have hfinish (token : Nat) := hzoom (P.finishBatch token) fun _ => rfl
  simp only [withBatch, Scanner.withBatch, Strategy.withBatch, Action.bind_eq, through_bind,
    hbegin, hfinish]
  congr 1
  funext token
  exact (through_always _ fun _ => rfl).symm

theorem scanDetailed_eq (sample : Sample) :
    scanDetailed E P sample = through (Scanner.scanDetailed E P sample) := by
  simp only [scanDetailed, Scanner.scanDetailed, scanChannels_eq, withBatch_eq]

theorem scan_eq (sample : Sample) : scan E P sample = through (Scanner.scan E P sample) := by
  simp only [scan, Scanner.scan, Action.bind_eq, Action.pure_eq, through_bind, through_pure,
    scanDetailed_eq]

theorem scanBatch_eq (buffers : List ByteArray) :
    scanBatch E P buffers = through (Scanner.scanBatch E P buffers) := by
  simp only [scanBatch, Scanner.scanBatch, Action.bind_eq, pause_eq, scanRules_eq, ← through_bind,
    ← through_forEach, withBatch_eq]

end Guarded

/-! ## What callers ask for -/

/-- What a scanner passes on to its session. -/
inductive Forwarded
  | status
  | operation (op : Session.Operation)

/-- What the session answers to it. -/
inductive Told
  | status (status : Status)
  | answer (a : Session.Answer)

/-- Answers what a scanner passes on. -/
def Session.forward (E : Engine κ β) : Forwarded → Action (Session κ β) Told
  | .status => Action.get.bind fun s => .pure (.status s.status)
  | .operation op => (perform E op).bind fun a => .pure (.answer a)

namespace Scanner

/-- What can be asked of a scanner. -/
inductive Operation
  | forward (f : Forwarded)
  | scan (sample : Sample)
  | scanDetailed (sample : Sample)
  | scanBatch (buffers : List ByteArray)

/-- What a scanner answers. -/
inductive Answer
  | told (t : Told)
  | results (rs : List WeightedFindings)
  | outcome (o : Outcome)
  | founds (fs : List (Option Findings))

/-- Carries out an operation. -/
def perform (E : Engine κ β) (P : Strategy π) : Operation → Action (Scanner κ β π) Answer
  | .forward f => (onSession (Session.forward E f)).bind fun t => .pure (.told t)
  | .scan sample => (scan E P sample).bind fun rs => .pure (.results rs)
  | .scanDetailed sample => (scanDetailed E P sample).bind fun o => .pure (.outcome o)
  | .scanBatch buffers => (scanBatch E P buffers).bind fun fs => .pure (.founds fs)

/-- What is passed on makes the steps of the session, which is all that it changes. -/
theorem steps_onSession (f : ω → Action (Session κ β) α) (ops : List ω) (s : Scanner κ β π) :
    (Action.steps (fun op => onSession (f op)) s ops).map Step.seen =
        (Action.steps f s.session ops).map Step.seen ∧
      Action.final (fun op => onSession (f op)) s ops =
        { s with session := Action.final f s.session ops } := by
  induction ops generalizing s with
  | nil => exact ⟨rfl, rfl⟩
  | cons op rest ih =>
    obtain ⟨hseen, hfinal⟩ := ih (onSession (f op) s).state
    exact ⟨congrArg ((f op s.session).seen :: ·) hseen, hfinal⟩

end Scanner

namespace Guarded

variable (E : Engine κ β) (P : Strategy π)

/-- Passes something on to the session, behind its lock. -/
def forward (f : Forwarded) : Action (Guarded κ β π) Told := onSession (Session.forward E f)

/-- Carries out an operation. -/
def perform : Scanner.Operation → Action (Guarded κ β π) Scanner.Answer
  | .forward f => (forward E f).bind fun t => .pure (.told t)
  | .scan sample => (scan E P sample).bind fun rs => .pure (.results rs)
  | .scanDetailed sample => (scanDetailed E P sample).bind fun o => .pure (.outcome o)
  | .scanBatch buffers => (scanBatch E P buffers).bind fun fs => .pure (.founds fs)

/-- **One operation** does what it does without a lock, and poisons the lock if it crashes. -/
theorem perform_eq (op : Scanner.Operation) :
    perform E P op = through (Scanner.perform E P op) := by
  cases op with
  | forward f =>
    simp only [perform, Scanner.perform, forward, onSession_eq, through_bind, through_pure]
  | scan sample => simp only [perform, Scanner.perform, scan_eq, through_bind, through_pure]
  | scanDetailed sample =>
    simp only [perform, Scanner.perform, scanDetailed_eq, through_bind, through_pure]
  | scanBatch buffers =>
    simp only [perform, Scanner.perform, scanBatch_eq, through_bind, through_pure]

/-! ## Runs -/

/-- Some steps behind a lock: what is seen of them, the scanner that they leave, and its lock, which
is poisoned once it was or if one of them crashed. -/
theorem steps_through (f : ω → Action (Scanner κ β π) α) (ops : List ω) (g : Guarded κ β π) :
    (Action.steps (fun op => through (f op)) g ops).map Step.seen =
        (Action.steps f g.scanner ops).map Step.seen ∧
      Action.final (fun op => through (f op)) g ops =
        ⟨Action.final f g.scanner ops,
          g.poisoned || (Action.steps f g.scanner ops).any (·.reply.isCrash)⟩ := by
  induction ops generalizing g with
  | nil => exact ⟨rfl, congrArg (Guarded.mk g.scanner) (Bool.or_false _).symm⟩
  | cons op rest ih =>
    obtain ⟨hseen, hfinal⟩ := ih (through (f op) g).state
    refine ⟨congrArg ((f op g.scanner).seen :: ·) hseen, hfinal.trans ?_⟩
    exact congrArg (Guarded.mk _) (Bool.or_assoc ..)

/-- How a guarded scanner that is asked for things of its session goes on. -/
structure GoesOn (g : Guarded κ β π) (ops : List Forwarded) : Prop where
  /-- A caller sees what it sees of the session alone. -/
  steps_eq : (Action.steps (forward E) g ops).map Step.seen =
    (Action.steps (Session.forward E) g.scanner.session ops).map Step.seen
  scanner_eq : (Action.final (forward E) g ops).scanner =
    { g.scanner with session := Action.final (Session.forward E) g.scanner.session ops }
  /-- What crashed has poisoned the lock. -/
  poisoned_eq : (Action.final (forward E) g ops).poisoned =
    (g.poisoned ||
      (Action.steps (Session.forward E) g.scanner.session ops).any (·.reply.isCrash))
  /-- A scan then does what it does over the session that was left. -/
  scan_eq : ∀ sample, (scan E P sample (Action.final (forward E) g ops)).seen =
    (Scanner.scan E P sample
      { g.scanner with session := Action.final (Session.forward E) g.scanner.session ops }).seen
  scanDetailed_eq : ∀ sample, (scanDetailed E P sample (Action.final (forward E) g ops)).seen =
    (Scanner.scanDetailed E P sample
      { g.scanner with session := Action.final (Session.forward E) g.scanner.session ops }).seen
  scanBatch_eq : ∀ buffers, (scanBatch E P buffers (Action.final (forward E) g ops)).seen =
    (Scanner.scanBatch E P buffers
      { g.scanner with session := Action.final (Session.forward E) g.scanner.session ops }).seen

theorem crashes_of_seen {σ τ : Type} {l : List (Step σ α)} {l' : List (Step τ α)}
    (h : l.map Step.seen = l'.map Step.seen) :
    l.any (·.reply.isCrash) = l'.any (·.reply.isCrash) := by
  have hany {υ : Type} (l : List (Step υ α)) :
      l.any (·.reply.isCrash) = (l.map Step.seen).any (·.1.isCrash) := by
    rw [List.any_map]
    rfl
  rw [hany, hany, h]

theorem goesOn (g : Guarded κ β π) (ops : List Forwarded) : GoesOn E P g ops := by
  have hforward : forward E = fun f =>
      (through (Scanner.onSession (Session.forward E f)) : Action (Guarded κ β π) Told) :=
    funext fun f => onSession_eq _
  obtain ⟨hseen, hfinal⟩ :=
    steps_through (fun f => Scanner.onSession (Session.forward E f)) ops g
  obtain ⟨hsession, hleft⟩ := Scanner.steps_onSession (Session.forward E) ops g.scanner
  rw [crashes_of_seen hsession, hleft] at hfinal
  rw [← hforward] at hseen hfinal
  refine ⟨hseen.trans hsession, ?_, ?_, fun sample => ?_, fun sample => ?_, fun buffers => ?_⟩
  · rw [hfinal]
  · rw [hfinal]
  · rw [hfinal, scan_eq]
    rfl
  · rw [hfinal, scanDetailed_eq]
    rfl
  · rw [hfinal, scanBatch_eq]
    rfl

/-- **A poisoned lock goes unnoticed**: for every engine and strategy, every guarded scanner, its
lock poisoned or not, and every caller that goes on after failures and crashes, what the scanner
passes on to its session does what it does to the session alone; a scan after that does what it does
over the session that was left; and so does a run in which scans come in between. -/
theorem goes_on_as_bare (g : Guarded κ β π) :
    (∀ ops : List Forwarded, GoesOn E P g ops) ∧
      ∀ ops : List Scanner.Operation,
        (Action.steps (perform E P) g ops).map Step.seen =
            (Action.steps (Scanner.perform E P) g.scanner ops).map Step.seen ∧
          (Action.final (perform E P) g ops).scanner =
            Action.final (Scanner.perform E P) g.scanner ops := by
  refine ⟨fun ops => goesOn E P g ops, fun ops => ?_⟩
  have hperform : perform E P = fun op => through (Scanner.perform E P op) :=
    funext fun op => perform_eq E P op
  obtain ⟨hseen, hfinal⟩ := steps_through (Scanner.perform E P) ops g
  rw [hperform]
  exact ⟨hseen, congrArg Guarded.scanner hfinal⟩

/-- A build that crashes poisons the lock, and the status is told all the same. -/
example :
    let g : Guarded Scripted.Compiler Scripted.Backend Pacer :=
      { scanner := { session := .ofCompiler { ending := .crash }, pacing := .unthrottled 0 } }
    let left := Action.final (forward Scripted.engine) g [.operation (.build false)]
    left.poisoned = true ∧
      (forward Scripted.engine .status left).reply = .ok (.status .buildFailed) := ⟨rfl, rfl⟩

end Guarded

end RuleScan
