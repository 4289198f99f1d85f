import Mathlib
import RuleScan.Proofs.Session.Operation
import RuleScan.Scripted

/-!
# Operations at the wrong time

Each operation is for one status of a session (`Operation.fits`); closing is for all of them. At any
other time an operation does nothing: nobody is called, the session stays as it is, and the answer
can be told from the status and the operation (`Operation.refusal`). The main result is
`misfit_refused`. It also says when such an operation is not reported as a misuse: a list of paths
is read before the status is looked at, so a list without a path is refused as such at any time, and
a scan that only asks what was built so far finds nothing while rules are collected.
-/

namespace RuleScan.Session

variable {κ β α γ : Type}

/-! ## What fits -/

/-- Whether nothing but blanks stands between the semicolons of a list. -/
def hasNoPath (list : String) : Bool := (segments list).all fun path => Text.trim path = ""

namespace Operation

/-- Whether an operation is for a status. -/
def fits (status : Status) : Operation → Bool
  | scan _ => status = .built
  | scanIfBuilt _ => status = .built
  | ruleCount => status = .built
  | exportRules => status = .built
  | close => true
  | _ => status = .ingesting

/-- Whether an operation was given a list of paths without a path. -/
def lacksPath : Operation → Bool
  | addFile list => hasNoPath list
  | addFileWithNamespace list => hasNoPath list
  | _ => false

/-- Whether an operation only asks what was built so far, and nothing was. -/
def isEarly (status : Status) : Operation → Bool
  | scanIfBuilt _ => status = .ingesting
  | _ => false

/-- What is answered to an operation that does not fit. -/
def refusal (status : Status) : Operation → Reply Answer
  | addFile list =>
    if hasNoPath list then .error (.input (.noPaths list)) else .error (.misuse status.misuse)
  | addFileWithNamespace list =>
    if hasNoPath list then .error (.input (.noPaths list)) else .error (.misuse status.misuse)
  | scanIfBuilt _ =>
    if status = .ingesting then .ok (.found none) else .error (.misuse status.misuse)
  | _ => .error (.misuse status.misuse)

/-- A refusal is a misuse but for lists without a path and scans that come early. -/
theorem refusal_eq_misuse_iff (op : Operation) (status : Status) :
    op.refusal status = .error (.misuse status.misuse) ↔
      op.lacksPath = false ∧ op.isEarly status = false := by
  cases op with
  | addFile list => cases h : hasNoPath list <;> simp [refusal, lacksPath, isEarly, h]
  | addFileWithNamespace list => cases h : hasNoPath list <;> simp [refusal, lacksPath, isEarly, h]
  | scanIfBuilt data => cases status <;> simp [refusal, lacksPath, isEarly]
  | _ => simp [refusal, lacksPath, isEarly]

end Operation

/-! ## Lists of paths -/

theorem splitPaths_of_hasNoPath {list : String} (h : hasNoPath list = true) :
    splitPaths list = .error (.noPaths list) := by
  have hnone : ((segments list).map Text.trim).filter (· ≠ "") = [] := by
    rw [hasNoPath, List.all_eq_true] at h
    simpa [List.filter_eq_nil_iff] using h
  rw [splitPaths, hnone]

theorem splitPaths_of_path {list : String} (h : hasNoPath list = false) :
    ∃ first rest, splitPaths list = .ok (first :: rest) := by
  rw [splitPaths]
  cases hp : ((segments list).map Text.trim).filter (· ≠ "") with
  | nil =>
    rw [hasNoPath, List.all_eq_false] at h
    obtain ⟨path, hmem, hpath⟩ := h
    rw [List.filter_eq_nil_iff] at hp
    exact absurd (hp _ (List.mem_map_of_mem hmem)) (by simpa using hpath)
  | cons first rest => exact ⟨first, rest, rfl⟩

/-- The first thing done with a list of paths that has none. -/
theorem readPaths_of_hasNoPath {list : String} (h : hasNoPath list = true)
    (f : List String → Action (Session κ β) α) (s : Session κ β) :
    ((Action.ofExcept ((splitPaths list).mapError .input)).bind f).Does s
      (.error (.input (.noPaths list))) s [] := by
  rw [splitPaths_of_hasNoPath h]
  exact ⟨rfl, rfl, rfl⟩

/-! ## Misuse -/

/-- An action is refused as a misuse: it changes nothing and calls nobody. -/
def Misused (x : Action (Session κ β) α) (s : Session κ β) : Prop :=
  x.Does s (.error (.misuse s.status.misuse)) s []

namespace Misused

variable {x : Action (Session κ β) α} {f : α → Action (Session κ β) γ} {s : Session κ β}

theorem bind (hx : Misused x s) : Misused (x.bind f) s :=
  Action.Does.bind_halt (h := .failure _) hx

theorem forEach {f : γ → Action (Session κ β) α} {first : γ} (hf : Misused (f first) s)
    (rest : List γ) : Misused (Action.forEach f (first :: rest)) s :=
  hf.bind

/-- Where a list has paths it depends on what is done with them. -/
theorem ofPaths {list : String} {f : List String → Action (Session κ β) α}
    (h : hasNoPath list = false) (hf : ∀ first rest, Misused (f (first :: rest)) s) :
    Misused ((Action.ofExcept ((splitPaths list).mapError .input)).bind f) s := by
  obtain ⟨first, rest, hpaths⟩ := splitPaths_of_path h
  rw [hpaths]
  exact hf first rest

end Misused

variable (E : Engine κ β)

theorem request_misused (r : Request) {s : Session κ β} (hs : s.status ≠ .ingesting) :
    Misused (request E r) s := by
  obtain ⟨phase, space, sources⟩ := s
  cases phase with
  | ingesting c => exact absurd rfl hs
  | built b => exact ⟨rfl, rfl, rfl⟩
  | buildFailed => exact ⟨rfl, rfl, rfl⟩
  | closed => exact ⟨rfl, rfl, rfl⟩

theorem withBackend_misused (c : Call) (x : Action β α) {s : Session κ β}
    (hs : s.status ≠ .built) : Misused (withBackend c x) s := by
  obtain ⟨phase, space, sources⟩ := s
  cases phase with
  | ingesting c => exact ⟨rfl, rfl, rfl⟩
  | built b => exact absurd rfl hs
  | buildFailed => exact ⟨rfl, rfl, rfl⟩
  | closed => exact ⟨rfl, rfl, rfl⟩

theorem build_misused (announce : Bool) {s : Session κ β} (hs : s.status ≠ .ingesting) :
    Misused (build E announce) s := by
  obtain ⟨phase, space, sources⟩ := s
  cases phase with
  | ingesting c => exact absurd rfl hs
  | built b => exact ⟨rfl, rfl, rfl⟩
  | buildFailed => exact ⟨rfl, rfl, rfl⟩
  | closed => exact ⟨rfl, rfl, rfl⟩

/-- A scan that only asks what was built so far, where nothing was. -/
theorem scanIfBuilt_does (data : ByteArray) {s : Session κ β} (hs : s.status ≠ .built) :
    (perform E (.scanIfBuilt data)).Does s (Operation.refusal s.status (.scanIfBuilt data)) s
      [] := by
  obtain ⟨phase, space, sources⟩ := s
  cases phase with
  | ingesting c => exact ⟨rfl, rfl, rfl⟩
  | built b => exact absurd rfl hs
  | buildFailed => exact ⟨rfl, rfl, rfl⟩
  | closed => exact ⟨rfl, rfl, rfl⟩

theorem addFile_does (list : String) {s : Session κ β} (hs : s.status ≠ .ingesting) :
    (perform E (.addFile list)).Does s (Operation.refusal s.status (.addFile list)) s [] := by
  cases h : hasNoPath list with
  | true =>
    rw [Operation.refusal, if_pos h]
    exact (readPaths_of_hasNoPath h _ s).bind_halt (h := .failure _)
  | false =>
    rw [Operation.refusal, h, if_neg Bool.false_ne_true]
    have hfirst (path : String) : Misused (addOneFile E path) s := (request_misused E _ hs).bind
    exact (Misused.ofPaths h fun first rest => ((hfirst first).forEach rest).bind).bind

theorem addFileWithNamespace_does (list : String) {s : Session κ β} (hs : s.status ≠ .ingesting) :
    (perform E (.addFileWithNamespace list)).Does s
      (Operation.refusal s.status (.addFileWithNamespace list)) s [] := by
  cases h : hasNoPath list with
  | true =>
    rw [Operation.refusal, if_pos h]
    exact (readPaths_of_hasNoPath h _ s).bind_halt (h := .failure _)
  | false =>
    rw [Operation.refusal, h, if_neg Bool.false_ne_true]
    have hpaths (paths : List String) : Misused (addPaths E paths true) s :=
      (request_misused E _ hs).bind
    exact (Misused.ofPaths h fun first rest => (hpaths (first :: rest)).bind).bind

/-- **An operation that does not fit does nothing**, and its answer is told by the status. -/
theorem perform_of_misfit {op : Operation} {s : Session κ β} (h : op.fits s.status = false) :
    (perform E op).Does s (op.refusal s.status) s [] := by
  cases op with
  | addNamespace name => exact ((request_misused E _ (of_decide_eq_false h)).bind).bind
  | addSource text => exact ((request_misused E _ (of_decide_eq_false h)).bind).bind
  | addFile list => exact addFile_does E list (of_decide_eq_false h)
  | addFileWithNamespace list => exact addFileWithNamespace_does E list (of_decide_eq_false h)
  | addPaths paths spacePerFile => exact ((request_misused E _ (of_decide_eq_false h)).bind).bind
  | ignoreModule module => exact ((request_misused E _ (of_decide_eq_false h)).bind).bind
  | define name value => exact ((request_misused E _ (of_decide_eq_false h)).bind).bind
  | build announce => exact (build_misused E announce (of_decide_eq_false h)).bind
  | scan data => exact (withBackend_misused _ _ (of_decide_eq_false h)).bind
  | scanIfBuilt data => exact scanIfBuilt_does E data (of_decide_eq_false h)
  | ruleCount => exact (withBackend_misused _ _ (of_decide_eq_false h)).bind
  | exportRules => exact (withBackend_misused _ _ (of_decide_eq_false h)).bind
  | close => cases h

/-- **Misuse is reported as such, unless a list without a path is given or a scan comes early**: for
every engine, every session and every operation that does not fit its status, the answer is that of
the status, nobody is called and the session stays as it is; the operation is reported as a misuse
if and only if it is neither of the two exceptions. -/
theorem misfit_refused (op : Operation) (s : Session κ β) (h : op.fits s.status = false) :
    (perform E op).Does s (op.refusal s.status) s [] ∧
      ((perform E op s).reply = .error (.misuse s.status.misuse) ↔
        op.lacksPath = false ∧ op.isEarly s.status = false) := by
  have hdoes := perform_of_misfit E h
  refine ⟨hdoes, ?_⟩
  rw [hdoes.reply_eq]
  exact op.refusal_eq_misuse_iff s.status

/-- A path given to a closed session. -/
theorem closed_refuses_path :
    let s : Session Scripted.Compiler Scripted.Backend :=
      after Scripted.engine (ofCompiler {}) [.close]
    (perform Scripted.engine (.addFile "a")).Does s (.error (.misuse .closed)) s [] := by
  have hpath : hasNoPath "a" = false := by cbv
  have h := (misfit_refused Scripted.engine (.addFile "a")
    (after Scripted.engine (ofCompiler {}) [.close]) rfl).1
  rw [Operation.refusal, hpath] at h
  exact h

/-- A list without a path given to a closed session: this is not reported as a misuse. -/
theorem closed_reads_empty_list :
    let s : Session Scripted.Compiler Scripted.Backend :=
      after Scripted.engine (ofCompiler {}) [.close]
    s.status = .closed ∧
      (perform Scripted.engine (.addFile "") s).reply = .error (.input (.noPaths "")) := by
  have hnone : hasNoPath "" = true := by cbv
  exact ⟨rfl, ((readPaths_of_hasNoPath hnone _ _).bind_halt (h := .failure _)).reply_eq⟩

end RuleScan.Session
