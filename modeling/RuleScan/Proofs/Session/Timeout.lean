import RuleScan.Proofs.Rules.Sequential
import RuleScan.Proofs.Session.SourceCount

/-!
# The time that scans may take

A session over the compilers of a toolchain keeps the bound on the time of a scan that it was set up
with, whatever it is asked: a compiler hands it on to the rules that it builds, and nothing changes
it later (`perform_keepsTimeout`, `afterOver_timeout`).
-/

namespace RuleScan

open Rules

variable {C R α γ : Type}

/-- Whether a phase has some bound on the time of a scan, as far as it has any. -/
def Phase.TimeoutIs (t : Option Duration) : Phase (Collector C) (Ready R) → Prop
  | .ingesting c => c.timeout = t
  | .built b => b.timeout = t
  | .buildFailed => True
  | .closed => True

namespace Session

/-- An action that keeps the bound on the time of a scan. -/
def KeepsTimeout (x : Action (Session (Collector C) (Ready R)) α) : Prop :=
  ∀ t, Action.Keeps (fun s => s.phase.TimeoutIs t) x

variable (T : Toolchain C R) (fs : Files)

theorem request_keepsTimeout (r : Request) : KeepsTimeout (request (T.engine fs) r) := by
  rintro t ⟨phase, space, sources⟩ h
  cases phase with
  | ingesting c =>
    have hsettings := Collector.ingest_settings T fs r c
    rw [List.foldl_fixed] at hsettings
    exact (congrArg Prod.snd hsettings).trans h
  | built b => exact h
  | buildFailed => exact h
  | closed => exact h

theorem count_keepsTimeout (n : Nat) :
    KeepsTimeout (count n : Action (Session (Collector C) (Ready R)) Unit) := fun _ _ h => h

theorem KeepsTimeout.bind {x : Action (Session (Collector C) (Ready R)) α}
    {f : α → Action (Session (Collector C) (Ready R)) γ} (hx : KeepsTimeout x)
    (hf : ∀ a, KeepsTimeout (f a)) : KeepsTimeout (x.bind f) :=
  fun t => (hx t).bind fun a => hf a t

theorem KeepsTimeout.answering {x : Action (Session (Collector C) (Ready R)) α}
    {f : α → Answer} (hx : KeepsTimeout x) : KeepsTimeout (answering f x) :=
  hx.bind fun _ _ => .pure _

theorem addNamespace_keepsTimeout (name : String) :
    KeepsTimeout (addNamespace (T.engine fs) name) :=
  (request_keepsTimeout T fs _).bind fun _ _ => .modify fun _ h => h

theorem addPaths_keepsTimeout (paths : List String) (spacePerFile : Bool) :
    KeepsTimeout (addPaths (T.engine fs) paths spacePerFile) :=
  (request_keepsTimeout T fs _).bind fun n => (count_keepsTimeout n).bind fun _ _ => .pure _

theorem addOneFile_keepsTimeout (path : String) : KeepsTimeout (addOneFile (T.engine fs) path) :=
  (request_keepsTimeout T fs _).bind fun _ => count_keepsTimeout 1

theorem addFile_keepsTimeout (list : String) : KeepsTimeout (addFile (T.engine fs) list) := by
  intro t
  refine Action.Keeps.bind (.ofExcept _) fun paths => ?_
  exact (Action.Keeps.forEach (fun path => addOneFile_keepsTimeout T fs path t) paths).bind
    fun _ => .pure _

theorem addFileWithNamespace_keepsTimeout (list : String) :
    KeepsTimeout (addFileWithNamespace (T.engine fs) list) := by
  intro t
  refine Action.Keeps.bind (.ofExcept _) fun paths => ?_
  exact (addPaths_keepsTimeout T fs paths true t).bind fun _ => .pure _

theorem ignoreModule_keepsTimeout (module : String) :
    KeepsTimeout (ignoreModule (T.engine fs) module) :=
  (request_keepsTimeout T fs _).bind fun _ _ => .pure _

theorem defineVariable_keepsTimeout (name : String) (value : ExternalValue) :
    KeepsTimeout (defineVariable (T.engine fs) name value) :=
  (request_keepsTimeout T fs _).bind fun _ _ => .pure _

/-- Rules are never changed by what is done with them. -/
theorem withBackend_keepsTimeout (c : Call) {x : Action (Ready R) α} (hx : ∀ b, (x b).state = b) :
    KeepsTimeout (withBackend c x : Action (Session (Collector C) (Ready R)) α) := by
  rintro t ⟨phase, space, sources⟩ h
  cases phase with
  | ingesting c => exact h
  | built b =>
    have hstate : (withBackend c x ⟨.built b, space, sources⟩ :
        Step (Session (Collector C) (Ready R)) α).state.phase = .built b :=
      congrArg Phase.built (hx b)
    rw [hstate]
    exact h
  | buildFailed => exact h
  | closed => exact h

theorem scan_state (data : ByteArray) (b : Ready R) : ((T.engine fs).scan data b).state = b := by
  have h := (Action.Does.get b).bind (f := fun b =>
    (Action.ofExcept ((T.scan b.timeout data b.rules).mapError Failure.scan)).bind fun found =>
      .pure found.nonEmpty?) ((Action.Does.ofExcept _ b).map _)
  exact h.state_eq

theorem ruleCount_state (b : Ready R) : ((T.engine fs).ruleCount b).state = b := rfl

theorem serialize_state (b : Ready R) : ((T.engine fs).serialize b).state = b := rfl

theorem build_keepsTimeout (announce : Bool) : KeepsTimeout (build (T.engine fs) announce) := by
  rintro t ⟨phase, space, sources⟩ h
  cases phase with
  | ingesting c => cases announce <;> exact h
  | built b => exact h
  | buildFailed => exact h
  | closed => exact h

theorem close_keepsTimeout : KeepsTimeout (close (T.engine fs)) := by
  rintro t ⟨phase, space, sources⟩ h
  cases phase <;> trivial

theorem scanIfBuilt_keepsTimeout (data : ByteArray) :
    KeepsTimeout (scanIfBuilt (T.engine fs) data) := by
  intro t s h
  have hscan := withBackend_keepsTimeout (.scan data) (scan_state T fs data) t s h
  obtain ⟨phase, space, sources⟩ := s
  cases phase with
  | ingesting c => exact h
  | built b => exact hscan
  | buildFailed => exact hscan
  | closed => exact hscan

/-- **Whatever a session is asked**, it keeps the bound on the time of a scan. -/
theorem perform_keepsTimeout (op : Operation) : KeepsTimeout (perform (T.engine fs) op) := by
  cases op with
  | addNamespace name => exact (addNamespace_keepsTimeout T fs name).answering
  | addSource text =>
    exact ((request_keepsTimeout T fs _).bind fun _ => count_keepsTimeout 1).answering
  | addFile list => exact (addFile_keepsTimeout T fs list).answering
  | addFileWithNamespace list => exact (addFileWithNamespace_keepsTimeout T fs list).answering
  | addPaths paths spacePerFile => exact (addPaths_keepsTimeout T fs paths spacePerFile).answering
  | ignoreModule module => exact (ignoreModule_keepsTimeout T fs module).answering
  | define name value => exact (defineVariable_keepsTimeout T fs name value).answering
  | build announce => exact (build_keepsTimeout T fs announce).answering
  | scan data => exact (withBackend_keepsTimeout (.scan data) (scan_state T fs data)).answering
  | scanIfBuilt data => exact (scanIfBuilt_keepsTimeout T fs data).answering
  | ruleCount => exact (withBackend_keepsTimeout .ruleCount (ruleCount_state T fs)).answering
  | exportRules => exact (withBackend_keepsTimeout .serialize (serialize_state T fs)).answering
  | close => exact (close_keepsTimeout T fs).answering

/-- The bound after a run of operations. -/
theorem afterOver_timeout {t : Option Duration} {s : Session (Collector C) (Ready R)}
    (h : s.phase.TimeoutIs t) (ops : List (Files × Operation)) :
    (afterOver T s ops).phase.TimeoutIs t := by
  induction ops generalizing s with
  | nil => exact h
  | cons o rest ih => exact ih (perform_keepsTimeout T o.1 o.2 t s h)

end Session

end RuleScan
