import RuleScan.Proofs.Rules.Submission
import RuleScan.Proofs.Session.Mirroring
import RuleScan.Proofs.Session.SourceCount

/-!
# The engine of a compiler at hand

A collector starts its compiler with the first change. The engine whose compilers work from the
start (`Toolchain.atHand`) does the same but for log lines (`engine_mirrors`). Where compilers are
as before after they refused something (`Toolchain.Steady`), a request for a single change that
fails leaves such an engine as it was (`Steady.atHand`).
-/

namespace RuleScan

/-- An engine whose compilers are as before after they rejected something, unless that was about
many files. -/
def Engine.Steady {κ β : Type} (E : Engine κ β) : Prop :=
  ∀ r c e, r.isBulk = false → (E.ingest r c).reply = .error e → (E.ingest r c).state = c

namespace Rules

variable {C R : Type}

/-- A compiler that works from the start, and the settings that it was started with. -/
structure Hand (C : Type) where
  options : CompileOptions
  /-- The time that a scan with the rules may take. -/
  timeout : Option Duration
  compiler : C

/-- A collector with its compiler at hand. -/
def Collector.inHand (T : Toolchain C R) (c : Collector C) : Hand C :=
  ⟨c.options, c.timeout, c.hand T⟩

namespace Toolchain

variable (T : Toolchain C R) (fs : Files)

theorem make_silent (change : Change) : (T.make fs change).Silent := fun _ => rfl

theorem makeAll_silent (changes : List (Except Failure Change)) :
    (Request.makeAll (T.make fs) changes).Silent := by
  induction changes with
  | nil => exact .pure ()
  | cons change rest ih =>
    rcases change with e | change
    · exact .fail e
    · exact (T.make_silent fs change).bind fun _ => ih

theorem close_silent (r : Request) : (Request.close T fs r : Action C Nat).Silent := fun _ => by
  cases r <;> rfl

/-- The engine whose compilers work from the start. -/
def atHand : Engine (Hand C) (Ready R) where
  ingest r := .zoom Hand.compiler (fun h k => { h with compiler := k }) (T.direct fs r)
  build h :=
    ⟨.ok { rules := T.build h.compiler, timeout := h.timeout },
      { h with compiler := T.start h.options }, []⟩
  releaseCompiler _ := []
  scan := (T.engine fs).scan
  ruleCount := (T.engine fs).ruleCount
  serialize := (T.engine fs).serialize
  releaseBackend := (T.engine fs).releaseBackend
  ingest_silent r h := (T.makeAll_silent fs _).bind (fun _ => close_silent T fs r) h.compiler
  build_silent _ := rfl
  releaseCompiler_silent _ := rfl
  scan_silent := (T.engine fs).scan_silent
  ruleCount_silent := (T.engine fs).ruleCount_silent
  serialize_silent := (T.engine fs).serialize_silent
  releaseBackend_silent := (T.engine fs).releaseBackend_silent

/-- **When a compiler is started makes no difference.** -/
theorem engine_mirrors : (T.engine fs).Mirrors (T.atHand fs) (Collector.inHand T) where
  ingest r c := by
    obtain ⟨hreply, hstate, hhappen⟩ := Collector.ingest_direct T fs r c
    have hsettings := Collector.ingest_settings T fs r c
    rw [List.foldl_fixed] at hsettings
    obtain ⟨hoptions, htimeout⟩ := Prod.mk.inj hsettings
    have hhand : Collector.inHand T (Collector.ingest T fs r c).state =
        ⟨c.options, c.timeout, (T.direct fs r (c.hand T)).state⟩ := by
      rw [Collector.inHand, hoptions, htimeout, hstate]
    exact ⟨hreply, hhand, hhappen⟩
  build c := ⟨rfl, rfl, rfl⟩
  releaseCompiler c := by
    change happenings (Collector.release c) = []
    unfold Collector.release
    split <;> rfl
  scan := rfl
  ruleCount := rfl
  serialize := rfl
  releaseBackend := rfl

/-! ## Refusals -/

/-- Compilers that are as before after they refused something; only variables and sources can be
refused. -/
structure Steady : Prop where
  define : ∀ name value k words, (T.define name value k).1 = some words →
    (T.define name value k).2 = k
  addSource : ∀ fs bytes origin k words, (T.addSource fs bytes origin k).1 = some words →
    (T.addSource fs bytes origin k).2 = k

variable {T}

theorem Steady.apply (h : T.Steady) {change : Change} {k k' : C} {words : String}
    (hrefused : T.apply fs change k = (some words, k')) : k' = k := by
  cases change with
  | space name => cases hrefused
  | ignoreModule module => cases hrefused
  | define name value =>
    have hsteady := h.define name value k words
    rw [Toolchain.apply] at hrefused
    rw [hrefused] at hsteady
    exact hsteady rfl
  | source bytes origin =>
    have hsteady := h.addSource fs bytes origin k words
    rw [Toolchain.apply] at hrefused
    rw [hrefused] at hsteady
    exact hsteady rfl

theorem changes_length {r : Request} (hr : r.isBulk = false) : (r.changes T fs).length = 1 := by
  cases r with
  | paths paths spacePerFile => cases hr
  | _ => rfl

/-- Where only one change was planned, a failure means that it was not made or was refused. -/
theorem Submits.of_single {planned : List (Except Failure Change)} {k k' : C} {e : Failure}
    {made : List (Change × Option String)} (h : T.Submits fs planned k (some e) made k')
    (hone : planned.length = 1) :
    (made = [] ∧ k' = k) ∨
      ∃ change words, made = [(change, some words)] ∧ T.apply fs change k = (some words, k') := by
  have hfirst {done : List Change} {stopped : Except Failure Change}
      {rest : List (Except Failure Change)} (hplanned : planned = done.map .ok ++ stopped :: rest) :
      done = [] := by
    rw [hplanned, List.length_append, List.length_map, List.length_cons] at hone
    exact List.eq_nil_of_length_eq_zero (by omega)
  cases h with
  | unmade hplanned haccepts =>
    obtain rfl := hfirst hplanned
    cases haccepts
    exact .inl ⟨rfl, rfl⟩
  | refused hplanned haccepts hrefused =>
    obtain rfl := hfirst hplanned
    cases haccepts
    exact .inr ⟨_, _, rfl, hrefused⟩

/-- **A single change that fails** is not accepted, and leaves the compiler as it was. -/
theorem Steady.direct (h : T.Steady) {r : Request} (hr : r.isBulk = false) {k : C} {e : Failure}
    (hfails : (T.direct fs r k).reply = .error e) :
    (T.direct fs r k).state = k ∧
      (handed (T.direct fs r k).trace).filter (·.2.isNone) = [] := by
  obtain ⟨failure, hsubmits, hreply⟩ := T.direct_submits fs r k
  rw [hfails] at hreply
  cases failure with
  | none => cases hreply
  | some e =>
    obtain ⟨hmade, hstate⟩ | ⟨change, words, hmade, hrefused⟩ :=
      hsubmits.of_single fs (changes_length fs hr)
    · exact ⟨hstate, by rw [hmade]; rfl⟩
    · exact ⟨h.apply fs hrefused, by rw [hmade]; rfl⟩

theorem Steady.atHand (h : T.Steady) : (T.atHand fs).Steady := fun r c e hr hfails => by
  have hstate := (h.direct fs hr (k := c.compiler) hfails).1
  change { c with compiler := (T.direct fs r c.compiler).state } = c
  rw [hstate]

/-- The toolchain whose compilers take back what they did for something that they refused. -/
def careful (T : Toolchain C R) : Toolchain C R :=
  { T with
    define name value k :=
      let r := T.define name value k
      (r.1, if r.1.isSome then k else r.2)
    addSource fs bytes origin k :=
      let r := T.addSource fs bytes origin k
      (r.1, if r.1.isSome then k else r.2) }

theorem careful_steady (T : Toolchain C R) : T.careful.Steady where
  define _ _ _ words h := if_pos (Option.isSome_iff_exists.2 ⟨words, h⟩)
  addSource _ _ _ _ words h := if_pos (Option.isSome_iff_exists.2 ⟨words, h⟩)

end Toolchain

end Rules

end RuleScan
