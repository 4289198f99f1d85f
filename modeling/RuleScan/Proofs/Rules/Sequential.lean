import Mathlib.Data.List.Basic
import RuleScan.Proofs.Action
import RuleScan.Rules.Worker

/-!
# Requests with a compiler at hand

A request comes to some changes, which are made one after the other until one of them cannot be made
or is refused (`Request.carryOut`). A collector does just that (`Collector.ingest_eq`), whether its
compiler works already or has to be started: its replies and its compiler are those of a compiler
that was started at once, with the same options (`Collector.ingest_direct`).
-/

namespace RuleScan

open Rules

variable {C R σ : Type}

namespace Request

variable (T : Toolchain C R) (fs : Files)

/-- Makes some changes, up to the first one that cannot be made or is refused. -/
def makeAll (make : Change → Action σ Unit) : List (Except Failure Change) → Action σ Unit
  | [] => .pure ()
  | .error e :: _ => .fail e
  | .ok change :: rest => (make change).bind fun _ => makeAll make rest

/-- Closes a request. -/
def close (r : Request) : Action σ Nat := fun s => ⟨.ok (r.closing T fs).1, s, (r.closing T fs).2⟩

/-- Makes the changes of a request and closes it. -/
def carryOut (make : Change → Action σ Unit) (r : Request) : Action σ Nat :=
  (makeAll make (r.changes T fs)).bind fun _ => close T fs r

theorem makeAll_append (make : Change → Action σ Unit) (l m : List (Except Failure Change)) :
    makeAll make (l ++ m) = (makeAll make l).bind fun _ => makeAll make m := by
  induction l with
  | nil => rfl
  | cons change rest ih =>
    rcases change with e | change
    · rfl
    · rw [List.cons_append, makeAll, makeAll, ih, Action.bind_assoc]

theorem makeAll_singleton (make : Change → Action σ Unit) (change : Change) :
    makeAll make [.ok change] = make change :=
  Action.bind_pure _

end Request

namespace Rules

open Request (makeAll carryOut makeAll_append makeAll_singleton)

variable (T : Toolchain C R) (fs : Files)

namespace Collector

/-! ## Collectors -/

theorem addSpace_eq (name : String) :
    addSpace T fs name = makeAll (submit T fs) [Request.spaceChange name] := by
  unfold addSpace Request.spaceChange
  split
  · rfl
  · exact (makeAll_singleton _ _).symm

theorem addFile_eq (path : String) :
    addFile T fs path = makeAll (submit T fs) [Request.fileChange fs path] := by
  unfold addFile Request.fileChange
  cases fs.read path with
  | error e => rfl
  | ok source =>
    have hone := makeAll_singleton (submit T fs) (.source source (some path))
    exact hone.symm

theorem addFiles_eq (spacePerFile : Bool) (files : List String) :
    addFiles T fs spacePerFile files =
      makeAll (submit T fs) (Request.filesChanges fs spacePerFile files) := by
  induction files with
  | nil => rfl
  | cons path rest ih =>
    have hchanges : Request.filesChanges fs spacePerFile (path :: rest) =
        (if spacePerFile then [Request.spaceChange path] else []) ++
          ([Request.fileChange fs path] ++ Request.filesChanges fs spacePerFile rest) :=
      List.append_assoc ..
    rw [hchanges, makeAll_append, makeAll_append, ← addFile_eq, ← ih]
    cases spacePerFile with
    | false => rfl
    | true =>
      rw [if_pos rfl, ← addSpace_eq]
      rfl

theorem addEach_eq (spacePerFile : Bool) (paths : List String) :
    addEach T fs spacePerFile paths =
      (makeAll (submit T fs) (paths.flatMap (Request.pathChanges T fs spacePerFile))).bind
        fun _ => .pure (paths.flatMap (Request.filesOf T fs)).length := by
  induction paths with
  | nil => rfl
  | cons path rest ih =>
    rw [addEach, List.flatMap_cons, makeAll_append, ih, Action.bind_assoc]
    cases hfiles : T.ruleFiles fs path with
    | error fault =>
      rw [Request.pathChanges, hfiles]
      rfl
    | ok files =>
      rw [Request.pathChanges, hfiles, List.flatMap_cons, List.length_append, Request.filesOf,
        hfiles]
      dsimp only
      rw [← addFiles_eq]
      simp only [Action.bind_eq, Action.pure_eq, Action.bind_assoc, Action.pure_bind]
      rfl

/-- **A collector carries requests out**, one change after the other. -/
theorem ingest_eq (r : Request) : ingest T fs r = carryOut T fs (submit T fs) r := by
  have hone {make : Change → Action (Collector C) Unit} {x : Action (Collector C) Unit}
      {change : Except Failure Change} (h : x = makeAll make [change]) :
      (x.bind fun _ => .pure 0) = (makeAll make [change]).bind fun _ s => ⟨.ok 0, s, []⟩ := by
    rw [h]
    rfl
  have hsubmit (change : Change) := (makeAll_singleton (submit T fs) change).symm
  cases r with
  | space name => exact hone (addSpace_eq T fs name)
  | source text => exact hone (hsubmit (.source text.toUTF8 none))
  | file path => exact hone (addFile_eq T fs path)
  | paths roots spacePerFile =>
    change (addEach T fs spacePerFile roots).bind _ = _
    rw [addEach_eq, Action.bind_assoc]
    rfl
  | ignoreModule module => exact hone (hsubmit (.ignoreModule module))
  | define name value => exact hone (hsubmit (.define name value))

end Collector

/-! ## Compilers at hand -/

/-- The reply to a change that was refused in some words, or was not. -/
def replyOf : Option String → Reply Unit
  | none => .ok ()
  | some words => .error (.compile (.refused words))

namespace Toolchain

/-- Makes a change with a compiler at hand. -/
def make (change : Change) : Action C Unit := fun c =>
  let (refusal, c) := T.apply fs change c
  ⟨replyOf refusal, c, [.change change refusal]⟩

/-- Takes a request with a compiler at hand. -/
def direct (r : Request) : Action C Nat := Request.carryOut T fs (T.make fs) r

end Toolchain

namespace Collector

/-- The compiler of a collector, started if it does not work yet. -/
def hand (c : Collector C) : C := c.compiler.getD (T.start c.options)

/-- A change, whether or not the compiler works already. -/
theorem submit_eq (change : Change) (c : Collector C) :
    submit T fs change c =
      ⟨replyOf (T.apply fs change (hand T c)).1,
        { c with compiler := some (T.apply fs change (hand T c)).2 },
        (if c.compiler.isSome then [] else [startLog c.options])
          ++ [.change change (T.apply fs change (hand T c)).1]⟩ := by
  obtain ⟨options, timeout, compiler⟩ := c
  cases compiler <;> rfl

theorem submit_direct (change : Change) (c : Collector C) :
    (submit T fs change).Mirrors (T.make fs change) (hand T) id c := by
  have h := submit_eq T fs change c
  refine ⟨?_, ?_, ?_⟩
  · rw [h, Reply.map_id]
    rfl
  · rw [h]
    rfl
  · rw [h]
    cases c.compiler <;> rfl

theorem makeAll_direct (changes : List (Except Failure Change)) (c : Collector C) :
    (makeAll (submit T fs) changes).Mirrors (makeAll (T.make fs) changes) (hand T) id c := by
  induction changes generalizing c with
  | nil => exact ⟨rfl, rfl, rfl⟩
  | cons change rest ih =>
    rcases change with e | change
    · exact ⟨rfl, rfl, rfl⟩
    · exact (submit_direct T fs change c).bind fun _ t _ _ => ih t

/-- **A collector does what a compiler does that works from the start.** -/
theorem ingest_direct (r : Request) (c : Collector C) :
    (ingest T fs r).Mirrors (T.direct fs r) (hand T) id c := by
  rw [ingest_eq]
  exact (makeAll_direct T fs _ c).bind fun _ _ _ _ => ⟨rfl, rfl, rfl⟩

/-- The settings of a collector are kept. -/
theorem ingest_settings (r : Request) :
    Action.Follows (fun c : Collector C => (c.options, c.timeout)) (fun settings _ => settings)
      (ingest T fs r) := by
  have hmake (changes : List (Except Failure Change)) :
      Action.Follows (fun c : Collector C => (c.options, c.timeout)) (fun settings _ => settings)
        (makeAll (submit T fs) changes) := by
    induction changes with
    | nil => exact .pure ()
    | cons change rest ih =>
      rcases change with e | change
      · exact fun c => rfl
      · refine Action.Follows.bind (fun c => ?_) fun _ => ih
        rw [submit_eq, List.foldl_fixed]
  rw [ingest_eq]
  exact (hmake _).bind fun _ c => (List.foldl_fixed _).symm

/-! ## Some requests -/

/-- Some requests to a collector are answered as they are by a compiler that works from the start,
which is the one that the collector has then. -/
theorem steps_direct (rs : List Request) (c : Collector C) :
    (Action.steps (ingest T fs) c rs).map Step.reply =
        (Action.steps (T.direct fs) (hand T c) rs).map Step.reply ∧
      hand T (Action.final (ingest T fs) c rs) = Action.final (T.direct fs) (hand T c) rs ∧
      (Action.final (ingest T fs) c rs).timeout = c.timeout := by
  induction rs generalizing c with
  | nil => exact ⟨rfl, rfl, rfl⟩
  | cons r rest ih =>
    obtain ⟨hreply, hstate, -⟩ := ingest_direct T fs r c
    obtain ⟨hreplies, hhand, htimeout⟩ := ih (ingest T fs r c).state
    have hsettings := ingest_settings T fs r c
    rw [List.foldl_fixed] at hsettings
    rw [hstate] at hreplies hhand
    rw [Reply.map_id] at hreply
    refine ⟨?_, hhand, htimeout.trans (congrArg Prod.snd hsettings)⟩
    rw [Action.steps, Action.steps, List.map_cons, List.map_cons, hreply, hreplies]

end Collector

/-! ## Refusals -/

theorem changes_error {r : Request} {e : Failure} (h : .error e ∈ r.changes T fs) :
    ∃ fault, e = .compile fault := by
  have hspace {name : String} (h : Except.error e = Request.spaceChange name) :
      ∃ fault, e = .compile fault := by
    unfold Request.spaceChange at h
    split at h
    · exact ⟨_, Except.error.inj h⟩
    · cases h
  have hfile {path : String} (h : Except.error e = Request.fileChange fs path) :
      ∃ fault, e = .compile fault := by
    unfold Request.fileChange at h
    cases hread : fs.read path with
    | error fault =>
      rw [hread] at h
      exact ⟨_, Except.error.inj h⟩
    | ok source =>
      rw [hread] at h
      cases h
  cases r with
  | space name => exact hspace (List.mem_singleton.1 h)
  | source text => cases List.mem_singleton.1 h
  | file path => exact hfile (List.mem_singleton.1 h)
  | paths roots spacePerFile =>
    obtain ⟨root, -, hroot⟩ := List.mem_flatMap.1 h
    unfold Request.pathChanges at hroot
    split at hroot
    · obtain ⟨path, -, hpath⟩ := List.mem_flatMap.1 hroot
      rcases List.mem_append.1 hpath with hpath | hpath
      · split at hpath
        · exact hspace (List.mem_singleton.1 hpath)
        · cases hpath
      · exact hfile (List.mem_singleton.1 hpath)
    · exact ⟨_, Except.error.inj (List.mem_singleton.1 hroot)⟩
  | ignoreModule module => cases List.mem_singleton.1 h
  | define name value => cases List.mem_singleton.1 h

theorem makeAll_error {changes : List (Except Failure Change)} {k : C} {e : Failure}
    (h : (makeAll (T.make fs) changes k).reply = .error e) :
    .error e ∈ changes ∨ ∃ fault, e = .compile fault := by
  induction changes generalizing k with
  | nil => cases h
  | cons change rest ih =>
    rcases change with fault | change
    · cases h
      exact .inl List.mem_cons_self
    · rcases hmake : (T.make fs change k).reply with a | e' | words
      · rw [makeAll, Action.bind_of_ok hmake] at h
        exact (ih h).imp_left fun h => List.mem_cons_of_mem _ h
      · rw [makeAll, Action.bind_of_error hmake] at h
        have hrefused : replyOf (T.apply fs change k).1 = .error e := hmake.trans h
        cases hanswer : (T.apply fs change k).1 with
        | none =>
          rw [hanswer] at hrefused
          cases hrefused
        | some words =>
          rw [hanswer] at hrefused
          cases hrefused
          exact .inr ⟨_, rfl⟩
      · rw [makeAll, Action.bind_of_crash hmake] at h
        cases h

/-- **Whatever goes wrong with a request is a matter of compiling.** -/
theorem direct_error {r : Request} {k : C} {e : Failure}
    (h : (T.direct fs r k).reply = .error e) : ∃ fault, e = .compile fault := by
  have hmake : (makeAll (T.make fs) (r.changes T fs) k).reply = .error e := by
    rw [Toolchain.direct, carryOut] at h
    rcases hreply : (makeAll (T.make fs) (r.changes T fs) k).reply with a | e' | words
    · rw [Action.bind_of_ok hreply] at h
      cases h
    · rw [Action.bind_of_error hreply] at h
      cases h
      rfl
    · rw [Action.bind_of_crash hreply] at h
      cases h
  exact (makeAll_error T fs hmake).elim (changes_error T fs) id

end Rules

end RuleScan
