import RuleScan.Proofs.Scan.Plugins
import RuleScan.Proofs.Scan.Threads
import RuleScan.Proofs.Turns

/-!
# Registrations and running scans

Several threads change a list of plugins and scan with it. The list stands behind a lock. To
register a plugin takes the lock, copies the list, and puts the copy with the plugin in its place;
to replace the list takes the lock as well. A scan takes the lock for no longer than it needs to
have the list, and asks the plugins without it, while all others may get in between
(`Registry.Stage.next`).

The list is what the changes make of it in the order in which they took the lock
(`Registry.list_eq`), so that no registration is lost, and each scan is one of the list that it had
(`Registry.scan_of`).
-/

namespace RuleScan.Registry

/-- What a thread is there for. -/
inductive Errand
  | change (op : Operation)
  | scan (data : ByteArray)

/-- A list of plugins behind a lock. -/
structure Guard where
  registry : Registry := {}
  /-- Who holds the lock. -/
  holder : Option Nat := none

/-- Where a thread is. -/
inductive Stage
  | changing (op : Operation)
  /-- Has the lock and a copy of the list. -/
  | writing (p : Plugin) (copy : Registry)
  | looking (data : ByteArray)
  /-- Asks the plugins of the list that it had. -/
  | asking (data : ByteArray) (left : List Plugin) (sofar : PluginScan)
  | changed
  | scanned (scan : PluginScan)

/-- Where an errand begins. -/
def Errand.start : Errand → Stage
  | change op => .changing op
  | scan data => .looking data

/-- Puts another list in place of the one behind the lock, while the lock is free. -/
def Guard.replace (x : Action Registry Unit) (s : Guard) : Stage × Guard × List Event :=
  let r := x s.registry
  (.changed, { s with registry := r.state }, r.trace)

/-- The first step of a change, which takes the lock. -/
def Operation.first (i : Nat) (s : Guard) : Operation → Stage × Guard × List Event
  | register p => (.writing p s.registry, { s with holder := some i }, [])
  | registerAll plugins => s.replace (Registry.registerAll plugins)
  | clear => s.replace Registry.clear

/-- The next step of the thread of some number. Where the lock is taken it is tried again later. -/
def Stage.next (i : Nat) : Stage → Guard → Stage × Guard × List Event
  | changing op, s =>
    if s.holder.isSome then (changing op, s, []) else op.first i s
  | writing p copy, _ =>
    let r := Registry.register p copy
    (changed, { registry := r.state }, r.trace)
  | looking data, s =>
    if s.holder.isSome then (looking data, s, []) else (asking data s.registry.plugins {}, s, [])
  | asking data (p :: left) sofar, s =>
    (asking data left (sofar.append (p.contribution data)), s, (ask data p s.registry).trace)
  | asking _ [] sofar, s => (scanned sofar, s, [])
  | changed, s => (changed, s, [])
  | scanned scan, s => (scanned scan, s, [])

/-- How threads behave that change the list or scan with it. -/
def conduct : Conduct Guard Errand Stage Empty where
  start := Errand.start
  step i _ := Stage.next i
  aside op := op.elim

/-- A turn of a thread. -/
abbrev Turn : Type := RuleScan.Turn Errand Empty

/-- Nobody came yet, and there are no plugins. -/
def nobody : Crowd Guard Errand Stage := { shared := {} }

/-- What is after some turns. -/
def after (turns : List Turn) : Crowd Guard Errand Stage := nobody.after conduct turns

/-- The change for which a thread takes the lock with its next step, if it does. -/
def Stage.takes : Stage → Guard → Option Operation
  | changing op, s => if s.holder.isSome then none else some op
  | _, _ => none

/-- The change for which the lock is taken on an occasion, and by whom. -/
def taken? (m : Occasion Guard Errand Stage Empty) : Option (Nat × Operation) :=
  match m.turn with
  | .advance i => (m.before.stage? i).bind fun stage => (stage.takes m.before.shared).map (i, ·)
  | _ => none

/-- The changes in the order in which the lock was taken for them, each with the thread that took
it. -/
def changes (turns : List Turn) : List (Nat × Operation) :=
  (nobody.history conduct turns).filterMap taken?

/-- The list that some changes make, beginning with none. -/
def listOf (ops : List Operation) : List Plugin :=
  ops.foldl (fun plugins op => (perform op ⟨plugins⟩).state.plugins) []

/-- The plugin of whoever holds the lock. -/
def pending (w : Crowd Guard Errand Stage) : List Plugin :=
  match w.shared.holder.bind w.stage? with
  | some (.writing p _) => [p]
  | _ => []

/-! ## A step -/

/-- What a step of a thread does, and for which change it takes the lock. -/
inductive Stage.Made (i : Nat) : Stage → Guard → Stage → Guard → Option Operation → Prop
  | blocked (stage : Stage) {s : Guard} (h : s.holder.isSome) : Made i stage s stage s none
  | copied (p : Plugin) {s : Guard} (hfree : s.holder = none) :
      Made i (changing (.register p)) s (writing p s.registry) { s with holder := some i }
        (some (.register p))
  | replaced {op : Operation} {s : Guard} (hop : ∀ p, op ≠ .register p) (hfree : s.holder = none) :
      Made i (changing op) s changed { s with registry := (perform op s.registry).state } (some op)
  | written (p : Plugin) (copy : Registry) (s : Guard) :
      Made i (writing p copy) s changed { registry := (Registry.register p copy).state } none
  | looked (data : ByteArray) {s : Guard} (hfree : s.holder = none) :
      Made i (looking data) s (asking data s.registry.plugins {}) s none
  | asked (data : ByteArray) (p : Plugin) (left : List Plugin) (sofar : PluginScan) (s : Guard) :
      Made i (asking data (p :: left) sofar) s
        (asking data left (sofar.append (p.contribution data))) s none
  | answered (data : ByteArray) (sofar : PluginScan) (s : Guard) :
      Made i (asking data [] sofar) s (scanned sofar) s none
  | stayed {stage : Stage} (s : Guard) (h : stage = changed ∨ ∃ scan, stage = scanned scan) :
      Made i stage s stage s none

theorem Stage.next_made (i : Nat) (stage : Stage) (s : Guard) :
    Made i stage s (stage.next i s).1 (stage.next i s).2.1 (stage.takes s) := by
  cases stage with
  | changing op =>
    rw [next, takes]
    by_cases hheld : s.holder.isSome
    · rw [if_pos hheld, if_pos hheld]
      exact .blocked _ hheld
    · have hfree : s.holder = none := by simpa using hheld
      rw [if_neg hheld, if_neg hheld]
      cases op with
      | register p => exact .copied p hfree
      | registerAll plugins => exact .replaced (fun p h => by cases h) hfree
      | clear => exact .replaced (fun p h => by cases h) hfree
  | writing p copy => exact .written p copy s
  | looking data =>
    show Made i (looking data) s _ _ none
    rw [next]
    by_cases hheld : s.holder.isSome
    · rw [if_pos hheld]
      exact .blocked _ hheld
    · rw [if_neg hheld]
      exact .looked data (by simpa using hheld)
  | asking data left sofar =>
    cases left with
    | nil => exact .answered data sofar s
    | cons p left => exact .asked data p left sofar s
  | changed => exact .stayed s (.inl rfl)
  | scanned scan => exact .stayed s (.inr ⟨scan, rfl⟩)

namespace Stage.Made

variable {i : Nat} {stage stage' : Stage} {s s' : Guard} {op : Option Operation}

/-- Whoever holds the lock is writing, before the step as well as after it. -/
theorem holder (h : Made i stage s stage' s' op)
    (hi : s.holder = some i ↔ ∃ p copy, stage = .writing p copy) :
    s'.holder = some i ↔ ∃ p copy, stage' = .writing p copy := by
  cases h with
  | blocked _ _ => exact hi
  | copied p _ => simp
  | replaced _ hfree => simp [hfree]
  | written p copy s => simp
  | looked data hfree => simp [hfree]
  | asked data p left sofar s => simpa using hi
  | answered data sofar s => simpa using hi
  | stayed _ _ => exact hi

/-- Nobody else gets the lock or loses it. -/
theorem holder_other (h : Made i stage s stage' s' op)
    (hi : s.holder = some i ↔ ∃ p copy, stage = .writing p copy) {j : Nat} (hj : i ≠ j) :
    s'.holder = some j ↔ s.holder = some j := by
  cases h with
  | copied p hfree => simp [hfree, hj]
  | written p copy s => simp [hi.2 ⟨p, copy, rfl⟩, hj]
  | _ => rfl

/-- A thread that writes has a copy of the list that is there. -/
theorem copy_eq (h : Made i stage s stage' s' op)
    (hcopy : ∀ p copy, stage = .writing p copy → copy = s.registry) {p : Plugin} {copy : Registry}
    (hstage : stage' = .writing p copy) : copy = s'.registry := by
  cases h with
  | blocked _ _ => exact hcopy p copy hstage
  | copied p _ => cases hstage; rfl
  | stayed _ hdone =>
    rcases hdone with rfl | ⟨scan, rfl⟩
    · cases hstage
    · cases hstage
  | _ => cases hstage

/-- Nobody changes the list while another thread holds the lock. -/
theorem registry_eq (h : Made i stage s stage' s' op)
    (hi : s.holder = some i ↔ ∃ p copy, stage = .writing p copy) {j : Nat} (hj : i ≠ j)
    (hheld : s.holder = some j) : s'.registry = s.registry := by
  cases h with
  | replaced _ hfree => exact absurd (hfree.symm.trans hheld) (by simp)
  | written p copy s =>
    have hboth := (hi.2 ⟨p, copy, rfl⟩).symm.trans hheld
    exact absurd (Option.some.inj hboth) hj
  | _ => rfl

end Stage.Made

/-! ## All threads -/

theorem listOf_concat (ops : List Operation) (op : Operation) :
    listOf (ops ++ [op]) = (perform op ⟨listOf ops⟩).state.plugins := by
  rw [listOf, List.foldl_append]
  rfl

theorem pending_of_free {w : Crowd Guard Errand Stage} (h : w.shared.holder = none) :
    pending w = [] := by
  rw [pending, h]
  rfl

theorem pending_of_writing {w : Crowd Guard Errand Stage} {i : Nat} {p : Plugin} {copy : Registry}
    (hheld : w.shared.holder = some i) (hi : w.stage? i = some (.writing p copy)) :
    pending w = [p] := by
  rw [pending, hheld, Option.bind_some, hi]

/-- What holds at any time, after the changes for which the lock was taken. -/
structure Sound (ops : List Operation) (w : Crowd Guard Errand Stage) : Prop where
  holder_iff (i : Nat) :
    w.shared.holder = some i ↔ ∃ p copy, w.stage? i = some (.writing p copy)
  copy_eq {i : Nat} {p : Plugin} {copy : Registry} (hi : w.stage? i = some (.writing p copy)) :
    copy = w.shared.registry
  list_eq : w.shared.registry.plugins ++ pending w = listOf ops

theorem taken?_advance {w : Crowd Guard Errand Stage} {i : Nat} {q : Party Errand Stage}
    (hq : w.parties[i]? = some q) :
    taken? (w.occasion conduct (.advance i)) = (q.stage.takes w.shared).map (i, ·) := by
  simp only [taken?, Crowd.occasion, Crowd.stage?, hq, Option.map_some, Option.bind_some]

theorem taken?_eq_some {m : Occasion Guard Errand Stage Empty} {change : Nat × Operation}
    (h : taken? m = some change) :
    m.turn = .advance change.1 ∧ ∃ q, m.before.parties[change.1]? = some q := by
  unfold taken? at h
  split at h
  · next i hturn =>
    obtain ⟨stage, hstage, h⟩ := Option.bind_eq_some_iff.1 h
    obtain ⟨op, -, rfl⟩ := Option.map_eq_some_iff.1 h
    obtain ⟨r, hr⟩ := Crowd.stage?_eq_some.1 hstage
    exact ⟨hturn, _, hr⟩
  · cases h

namespace Sound

variable {ops : List Operation} {w : Crowd Guard Errand Stage}

/-- Two worlds that look the same. -/
theorem congr {v : Crowd Guard Errand Stage} (h : Sound ops w) (hshared : v.shared = w.shared)
    (hwriting : ∀ i p copy, v.stage? i = some (.writing p copy) ↔
      w.stage? i = some (.writing p copy)) : Sound ops v := by
  refine ⟨fun i => ?_, fun hi => ?_, ?_⟩
  · simp only [hshared, hwriting, h.holder_iff]
  · rw [hshared]
    exact h.copy_eq ((hwriting _ _ _).1 hi)
  · rw [← h.list_eq, hshared]
    cases hheld : w.shared.holder with
    | none => rw [pending_of_free hheld, pending_of_free (hshared ▸ hheld)]
    | some i =>
      obtain ⟨p, copy, hi⟩ := (h.holder_iff i).1 hheld
      rw [pending_of_writing hheld hi,
        pending_of_writing (hshared ▸ hheld) ((hwriting i p copy).2 hi)]

/-- The list after a step of a thread. -/
theorem list_step (h : Sound ops w) {v : Crowd Guard Errand Stage} {i : Nat}
    {stage stage' : Stage} {s' : Guard} {op : Option Operation}
    (hmade : Stage.Made i stage w.shared stage' s' op) (hshared : v.shared = s')
    (hstage : w.stage? i = some stage) (hself : v.stage? i = some stage')
    (hother : ∀ j, i ≠ j → v.stage? j = w.stage? j) :
    s'.registry.plugins ++ pending v = listOf (ops ++ op.toList) := by
  -- a step that neither takes the lock nor has it
  have hquiet (hshared : v.shared = w.shared) (hsame : ∀ p copy, stage' = .writing p copy ↔
      stage = .writing p copy) :
      w.shared.registry.plugins ++ pending v =
        listOf (ops ++ (none : Option Operation).toList) := by
    rw [Option.toList_none, List.append_nil, ← hshared]
    refine (h.congr hshared fun j p copy => ?_).list_eq
    by_cases hij : i = j
    · subst hij
      rw [hself, hstage, Option.some.injEq, Option.some.injEq]
      exact hsame p copy
    · rw [hother j hij]
  have hlist := h.list_eq
  cases hmade with
  | blocked _ _ => exact hquiet hshared fun _ _ => Iff.rfl
  | copied p hfree =>
    rw [pending_of_free hfree, List.append_nil] at hlist
    rw [pending_of_writing (by rw [hshared]) hself, Option.toList_some, listOf_concat, ← hlist]
    rfl
  | @replaced op _ _ hfree =>
    rw [pending_of_free hfree, List.append_nil] at hlist
    rw [pending_of_free (by rw [hshared]; exact hfree), Option.toList_some, listOf_concat, ← hlist,
      List.append_nil]
  | written p copy _ =>
    have hheld := (h.holder_iff i).2 ⟨p, copy, hstage⟩
    rw [pending_of_writing hheld hstage, ← h.copy_eq hstage] at hlist
    rw [pending_of_free (by rw [hshared]), Option.toList_none, List.append_nil, List.append_nil,
      ← hlist]
    rfl
  | looked data _ => exact hquiet hshared fun _ _ => by simp
  | asked data p left sofar _ => exact hquiet hshared fun _ _ => by simp
  | answered data sofar _ => exact hquiet hshared fun _ _ => by simp
  | stayed _ _ => exact hquiet hshared fun _ _ => Iff.rfl

/-- What a thread does. -/
theorem advance (h : Sound ops w) {i : Nat} {q : Party Errand Stage} (hq : w.parties[i]? = some q) :
    Sound (ops ++ (q.stage.takes w.shared).toList) (w.take conduct (.advance i)).1 := by
  have hmade := q.stage.next_made i w.shared
  have hstage : w.stage? i = some q.stage := by rw [Crowd.stage?, hq]; rfl
  have hi : w.shared.holder = some i ↔ ∃ p copy, q.stage = .writing p copy := by
    simp only [h.holder_iff, hstage, Option.some.injEq]
  have hself := Crowd.stage?_advance conduct hq
  have hother (j : Nat) (hij : i ≠ j) := Crowd.stage?_other conduct hij w
  have hshared : (w.take conduct (.advance i)).1.shared = (q.stage.next i w.shared).2.1 := by
    rw [Crowd.take_of_some _ hq]
    rfl
  have hstep : (conduct.step i q.errand q.stage w.shared).1 = (q.stage.next i w.shared).1 := rfl
  rw [hstep] at hself
  rw [← hshared] at hmade
  generalize (w.take conduct (.advance i)).1 = v at hself hother hmade ⊢
  generalize (q.stage.next i w.shared).1 = stage' at hself hmade
  refine ⟨fun j => ?_, fun {j p copy} hj => ?_, h.list_step hmade rfl hstage hself hother⟩
  · by_cases hij : i = j
    · subst hij
      simp only [hself, Option.some.injEq]
      exact hmade.holder hi
    · rw [hother j hij, ← h.holder_iff]
      exact hmade.holder_other hi hij
  · by_cases hij : i = j
    · subst hij
      rw [hself] at hj
      exact hmade.copy_eq (fun p copy hp => h.copy_eq (hstage.trans (congrArg some hp)))
        (Option.some.inj hj)
    · rw [hother j hij] at hj
      rw [hmade.registry_eq hi hij ((h.holder_iff j).2 ⟨p, copy, hj⟩)]
      exact h.copy_eq hj

/-- What a turn does. -/
theorem take (h : Sound ops w) (turn : Turn) :
    Sound (ops ++ (taken? (w.occasion conduct turn)).toList.map (·.2)) (w.take conduct turn).1 := by
  cases turn with
  | enter r =>
    show Sound (ops ++ []) _
    rw [List.append_nil]
    refine h.congr rfl fun i p copy => ?_
    rcases Crowd.stage?_enter conduct w r i with hsame | ⟨hnone, hstart⟩
    · rw [hsame]
    · rw [hnone, hstart]
      cases r <;> simp [conduct, Errand.start]
  | advance i =>
    cases hq : w.parties[i]? with
    | none =>
      rw [Crowd.take_of_none _ hq]
      have htaken : taken? (w.occasion conduct (.advance i)) = none := by
        simp [taken?, Crowd.occasion, Crowd.stage?, hq]
      rw [htaken, Option.toList_none, List.map_nil, List.append_nil]
      exact h
    | some q =>
      have htaken : (taken? (w.occasion conduct (.advance i))).toList.map (·.2) =
          (q.stage.takes w.shared).toList := by
        rw [taken?_advance hq]
        cases q.stage.takes w.shared <;> rfl
      rw [htaken]
      exact h.advance hq
  | aside op => exact op.elim

end Sound

theorem sound (turns : List Turn) : Sound ((changes turns).map (·.2)) (after turns) := by
  refine Crowd.run_induction conduct (w := nobody)
    (q := fun h w => Sound ((h.filterMap taken?).map (·.2)) w) ?_ (fun h w turn hsound => ?_) turns
  · exact ⟨fun i => by simp [nobody, Crowd.stage?],
      fun h => by simp [nobody, Crowd.stage?] at h, rfl⟩
  · rw [List.filterMap_append, List.map_append]
    have hlast : (List.filterMap taken? [w.occasion conduct turn]).map (·.2) =
        (taken? (w.occasion conduct turn)).toList.map (·.2) := by
      cases htaken : taken? (w.occasion conduct turn) <;> simp [htaken]
    rw [hlast]
    exact hsound.take turn

/-! ## The list -/

/-- What the changes up to the last replacement of the list leave, or what there is at first. -/
inductive Starts : List Operation → List Plugin → Prop
  | start : Starts [] []
  | registerAll (ops : List Operation) (plugins : List Plugin) :
      Starts (ops ++ [.registerAll plugins]) plugins
  | clear (ops : List Operation) : Starts (ops ++ [.clear]) []

/-- **The list after some changes**: what the last replacement left, and the plugins registered
since then. -/
theorem listOf_split (ops : List Operation) : ∃ before base added,
    ops = before ++ added.map .register ∧ Starts before base ∧ listOf ops = base ++ added := by
  induction ops using List.reverseRecOn with
  | nil => exact ⟨[], [], [], rfl, .start, rfl⟩
  | append_singleton ops op ih =>
    obtain ⟨before, base, added, rfl, hstarts, hlist⟩ := ih
    rw [listOf_concat, hlist]
    cases op with
    | register p => exact ⟨before, base, added ++ [p], by simp, hstarts, List.append_assoc _ _ _⟩
    | registerAll plugins =>
      exact ⟨_, plugins, [], (List.append_nil _).symm, .registerAll _ plugins,
        (List.append_nil plugins).symm⟩
    | clear => exact ⟨_, [], [], (List.append_nil _).symm, .clear _, rfl⟩

/-! ## One thread -/

/-- What plugins answer about a buffer. -/
def scanOf (data : ByteArray) (plugins : List Plugin) : PluginScan :=
  ⟨plugins.filterMap (·.rule? data), plugins.filterMap (·.failure? data)⟩

/-- The calls of plugins, one after the other. -/
def callsOf (plugins : List Plugin) : List Event :=
  plugins.map fun p => .call (.plugin p.qualifiedName)

theorem scanOf_concat (data : ByteArray) (plugins : List Plugin) (p : Plugin) :
    (scanOf data plugins).append (p.contribution data) = scanOf data (plugins ++ [p]) := by
  rw [Plugin.contribution_eq, PluginScan.append, scanOf, scanOf, List.filterMap_append,
    List.filterMap_append]
  cases hr : p.rule? data <;> cases hf : p.failure? data <;> simp [hr, hf]

/-- Asking some plugins, in full. -/
theorem askEach_eq (data : ByteArray) (plugins : List Plugin) (r : Registry) :
    askEach data plugins r = ⟨.ok (scanOf data plugins), r, callsOf plugins⟩ := by
  obtain ⟨hreply, hstate, -⟩ := askEach_does data plugins r
  refine Step.ext hreply hstate ?_
  clear hreply hstate
  induction plugins with
  | nil => rfl
  | cons p rest ih =>
    simp only [askEach, Action.bind_eq, Action.pure_eq]
    have hask : (ask data p r).reply = .ok (p.contribution data) := rfl
    rw [Action.bind_of_ok hask, Action.trace_map]
    exact congrArg (_ ++ ·) ih

theorem scanAll_eq (data : ByteArray) (r : Registry) :
    scanAll data r = ⟨.ok (scanOf data r.plugins), r, callsOf r.plugins⟩ := by
  have hget : (Action.get r : Step Registry Registry).reply = .ok r := rfl
  simp only [scanAll, Action.bind_eq]
  rw [Action.bind_of_ok hget]
  exact congrArg (fun t : Step Registry PluginScan => Step.mk t.reply t.state t.trace)
    (askEach_eq data r.plugins r)

/-- On one of its turns a thread that scans had this list, which was complete then. -/
def Had (turns : List Turn) (i : Nat) (data : ByteArray) (plugins : List Plugin) : Prop :=
  ∃ first rest, turns = first ++ .advance i :: rest ∧
    (after first).stage? i = some (.looking data) ∧ (after first).shared.holder = none ∧
    (after first).shared.registry.plugins = plugins ∧
    plugins = listOf ((changes first).map (·.2))

/-- The course of an errand: the changes for which the thread took the lock, the trace of its steps,
and where it is. -/
inductive Course (turns : List Turn) (i : Nat) :
    Errand → List (Nat × Operation) → List Event → Stage → Prop
  | changing (op : Operation) : Course turns i (.change op) [] [] (.changing op)
  | writing (p : Plugin) (copy : Registry) :
      Course turns i (.change (.register p)) [(i, .register p)] [] (.writing p copy)
  | changed (op : Operation) (trace : List Event) :
      Course turns i (.change op) [(i, op)] trace .changed
  | looking (data : ByteArray) : Course turns i (.scan data) [] [] (.looking data)
  | asking {data : ByteArray} {done left : List Plugin} (h : Had turns i data (done ++ left)) :
      Course turns i (.scan data) [] (callsOf done) (.asking data left (scanOf data done))
  | scanned {data : ByteArray} {plugins : List Plugin} (h : Had turns i data plugins) :
      Course turns i (.scan data) [] (callsOf plugins) (.scanned (scanOf data plugins))

theorem Course.next {turns : List Turn} {i : Nat} {r : Errand} {cs : List (Nat × Operation)}
    {trace : List Event} {stage : Stage} (h : Course turns i r cs trace stage) {s : Guard}
    (hhad : ∀ data, stage = .looking data → s.holder = none →
      Had turns i data s.registry.plugins) :
    Course turns i r (cs ++ ((stage.takes s).map (i, ·)).toList) (trace ++ (stage.next i s).2.2)
      (stage.next i s).1 := by
  cases h with
  | changing op =>
    rw [Stage.next, Stage.takes]
    by_cases hheld : s.holder.isSome
    · rw [if_pos hheld, if_pos hheld]
      exact .changing op
    · rw [if_neg hheld, if_neg hheld]
      cases op with
      | register p => exact .writing p _
      | registerAll plugins => exact .changed (.registerAll plugins) _
      | clear => exact .changed .clear _
  | writing p copy => exact .changed (.register p) _
  | changed op trace =>
    show Course turns i _ [(i, op)] (trace ++ []) .changed
    rw [List.append_nil]
    exact .changed op trace
  | looking data =>
    show Course turns i _ ([] ++ []) _ _
    rw [Stage.next]
    by_cases hheld : s.holder.isSome
    · rw [if_pos hheld]
      exact .looking data
    · rw [if_neg hheld]
      have hnone : Had turns i data ([] ++ s.registry.plugins) :=
        hhad data rfl (by simpa using hheld)
      exact .asking hnone
  | @asking data done left hlist =>
    cases left with
    | nil =>
      show Course turns i _ [] (callsOf done ++ []) (.scanned (scanOf data done))
      rw [List.append_nil] at hlist ⊢
      exact .scanned hlist
    | cons p left =>
      show Course turns i _ [] (callsOf done ++ callsOf [p])
        (.asking data left ((scanOf data done).append (p.contribution data)))
      rw [scanOf_concat, callsOf, callsOf, ← List.map_append]
      rw [List.append_cons] at hlist
      exact .asking hlist
  | @scanned data plugins hlist =>
    show Course turns i _ [] (callsOf plugins ++ []) (.scanned (scanOf data plugins))
    rw [List.append_nil]
    exact .scanned hlist

/-- The changes for which one thread took the lock. -/
theorem filter_taken (i : Nat) (h : List (Occasion Guard Errand Stage Empty)) :
    (h.filterMap taken?).filter (·.1 == i) = (Crowd.stepsOf i h).filterMap taken? := by
  induction h with
  | nil => rfl
  | cons m rest ih =>
    rw [Crowd.stepsOf, List.filter_cons]
    cases hm : taken? m with
    | none =>
      rw [List.filterMap_cons_none hm, ih]
      split
      · rw [List.filterMap_cons_none hm]
        rfl
      · rfl
    | some change =>
      obtain ⟨hturn, q, hq⟩ := taken?_eq_some hm
      rw [List.filterMap_cons_some hm, List.filter_cons, ih]
      by_cases hi : change.1 = i
      · have hparty : (m.party? i).isSome := by
          rw [Occasion.party?, hturn]
          dsimp only
          rw [if_pos hi, ← hi, hq]
          rfl
        rw [if_pos (by simpa using hi), if_pos hparty, List.filterMap_cons_some hm]
        rfl
      · have hparty : ¬(m.party? i).isSome := by
          rw [Occasion.party?, hturn]
          dsimp only
          rw [if_neg hi]
          exact Bool.false_ne_true
        rw [if_neg (by simpa using hi), if_neg hparty]
        rfl

/-- **The course of each errand.** -/
theorem course {turns : List Turn} {i : Nat} {r : Errand} {stage : Stage}
    (hp : (after turns).parties[i]? = some ⟨r, stage⟩) :
    Course turns i r ((changes turns).filter (·.1 == i))
      ((Crowd.stepsOf i (nobody.history conduct turns)).flatMap (·.trace)) stage := by
  rw [changes, filter_taken]
  refine Crowd.party_induction conduct (w := nobody) rfl
    (q := fun r steps stage =>
      Course turns i r (steps.filterMap taken?) (steps.flatMap (·.trace)) stage)
    (fun r => ?_) (fun first rest p hsplit hp hcourse => ?_) hp
  · cases r with
    | change op => exact .changing op
    | scan data => exact .looking data
  · have hp : (after first).parties[i]? = some p := hp
    have hhad (data : ByteArray) (hlooks : p.stage = .looking data)
        (hfree : (after first).shared.holder = none) :
        Had turns i data (after first).shared.registry.plugins := by
      have hlist := (sound first).list_eq
      rw [pending_of_free hfree, List.append_nil] at hlist
      have hstage : (after first).stage? i = some (.looking data) := by
        rw [← hlooks]
        exact Crowd.stage?_eq_some.2 ⟨p.errand, hp⟩
      exact ⟨first, rest, hsplit, hstage, hfree, rfl, hlist⟩
    have hnext := hcourse.next (s := (after first).shared) hhad
    have hlast : [(after first).occasion conduct (.advance i)].filterMap taken? =
        ((p.stage.takes (after first).shared).map (i, ·)).toList := by
      rw [← taken?_advance hp]
      cases htaken : taken? ((after first).occasion conduct (.advance i)) <;> simp [htaken]
    have htrace : [(after first).occasion conduct (.advance i)].flatMap (·.trace) =
        (p.stage.next i (after first).shared).2.2 := by
      rw [List.flatMap_singleton, Crowd.trace_advance _ hp]
      rfl
    rw [List.filterMap_append, List.flatMap_append]
    exact hlast ▸ htrace ▸ hnext

/-- Whoever took the lock for a change came for it. -/
theorem changer_of_mem {turns : List Turn} {i : Nat} {op : Operation}
    (h : (i, op) ∈ changes turns) :
    ∃ stage, (after turns).parties[i]? = some ⟨.change op, stage⟩ := by
  obtain ⟨m, hm, htaken⟩ := List.mem_filterMap.1 h
  obtain ⟨hturn, q, hq⟩ := taken?_eq_some htaken
  obtain ⟨first, rest, hsplit, hoccasion⟩ := Crowd.split_of_mem conduct hm
  rw [hoccasion] at hq
  obtain ⟨⟨r, stage⟩, hlater, -⟩ :=
    Crowd.party_of_some conduct (w := after first) hq (m.turn :: rest)
  have hp : (after turns).parties[i]? = some ⟨r, stage⟩ := by
    rw [hsplit, after, Crowd.after_append]
    exact hlater
  have hmem : (i, op) ∈ (changes turns).filter (·.1 == i) :=
    List.mem_filter.2 ⟨h, by simp⟩
  have hcourse := course hp
  generalize (changes turns).filter (·.1 == i) = own at hmem hcourse
  generalize (Crowd.stepsOf i (nobody.history conduct turns)).flatMap (·.trace) = trace at hcourse
  cases hcourse with
  | writing p copy => cases List.mem_singleton.1 hmem; exact ⟨_, hp⟩
  | changed op trace => cases List.mem_singleton.1 hmem; exact ⟨_, hp⟩
  | _ => cases hmem

/-! ## Nobody in between -/

theorem Guard.eq_of_free {s : Guard} (h : s.holder = none) : s = { registry := s.registry } := by
  cases s
  cases h
  rfl

theorem alone_change (k : Nat) (op : Operation) (r : Registry) :
    Crowd.Alone conduct k (.change op) (.changing op) { registry := r } (perform op r).trace
      .changed { registry := (perform op r).state } := by
  cases op with
  | register p =>
    exact .silent rfl (.single conduct k _ (.writing p r) ⟨r, some k⟩)
  | registerAll plugins => exact .single conduct k _ (.changing (.registerAll plugins)) ⟨r, none⟩
  | clear => exact .single conduct k _ (.changing .clear) ⟨r, none⟩

theorem alone_asking (k : Nat) (data : ByteArray) (done left : List Plugin) (s : Guard) :
    Crowd.Alone conduct k (.scan data) (.asking data left (scanOf data done)) s (callsOf left)
      (.scanned (scanOf data (done ++ left))) s := by
  induction left generalizing done with
  | nil =>
    rw [List.append_nil]
    exact .single conduct k (.scan data) (.asking data [] (scanOf data done)) s
  | cons p left ih =>
    rw [List.append_cons]
    have hask : conduct.step k (.scan data) (.asking data (p :: left) (scanOf data done)) s =
        (.asking data left (scanOf data (done ++ [p])), s, callsOf [p]) := by
      rw [← scanOf_concat]
      rfl
    exact .step hask (ih (done ++ [p]))

theorem alone_scan (k : Nat) (data : ByteArray) (r : Registry) :
    Crowd.Alone conduct k (.scan data) (.looking data) { registry := r } (callsOf r.plugins)
      (.scanned (scanOf data r.plugins)) { registry := r } :=
  .silent rfl (alone_asking k data [] r.plugins { registry := r })

/-! ## No registration is lost -/

/-- What holds of the threads after any turns. -/
structure Registered (turns : List Turn) : Prop where
  /-- Who comes now to change the list, with nobody in between, does what the program does. -/
  changed_alone (op : Operation) (hfree : (after turns).shared.holder = none) : ∃ n,
    let w := after turns
    let comes := RuleScan.Turn.enter (.change op) :: List.replicate n (.advance w.parties.length)
    let whole := perform op w.shared.registry
    w.after conduct comes =
        ⟨{ registry := whole.state }, w.parties ++ [⟨.change op, .changed⟩]⟩ ∧
      (w.history conduct comes).flatMap (·.trace) = whole.trace ∧ whole.reply = .ok ()
  /-- So does who comes to scan. -/
  scanned_alone (data : ByteArray) (hfree : (after turns).shared.holder = none) : ∃ n scan,
    let w := after turns
    let comes := RuleScan.Turn.enter (.scan data) :: List.replicate n (.advance w.parties.length)
    let whole := scanAll data w.shared.registry
    w.after conduct comes =
        ⟨{ registry := whole.state }, w.parties ++ [⟨.scan data, .scanned scan⟩]⟩ ∧
      (w.history conduct comes).flatMap (·.trace) = whole.trace ∧ whole.reply = .ok scan
  /-- The list, with the plugin that is being written, is what the last replacement left, and the
  plugins for which the lock was taken since then. -/
  list : ∃ before base added, (changes turns).map (·.2) = before ++ added.map .register ∧
    Starts before base ∧
      (after turns).shared.registry.plugins ++ pending (after turns) = base ++ added
  /-- No plugin is being written where the list can be had. -/
  free (hfree : (after turns).shared.holder = none) : pending (after turns) = []
  /-- Whoever holds the lock has a copy of the list that is there, and puts it with the plugin in
  its place with the next step. -/
  held {i : Nat} (hheld : (after turns).shared.holder = some i) : ∃ p,
    (after turns).stage? i = some (.writing p (after turns).shared.registry) ∧
    pending (after turns) = [p] ∧
    (after (turns ++ [.advance i])).shared =
      { registry := ⟨(after turns).shared.registry.plugins ++ [p]⟩ }
  /-- Each thread takes the lock for its change once. -/
  once {i : Nat} {op : Operation} {stage : Stage}
    (hp : (after turns).parties[i]? = some ⟨.change op, stage⟩) :
    stage = .changing op ∧ (changes turns).filter (·.1 == i) = [] ∨
      (stage = .changed ∨ ∃ p copy, op = .register p ∧ stage = .writing p copy) ∧
        (changes turns).filter (·.1 == i) = [(i, op)]
  /-- Nobody takes the lock for anything else. -/
  theirs {i : Nat} {op : Operation} (h : (i, op) ∈ changes turns) :
    ∃ stage, (after turns).parties[i]? = some ⟨.change op, stage⟩
  /-- A scan calls the plugins of a list that it had, in their order, and answers what a scan of
  that list answers. -/
  scans {i : Nat} {data : ByteArray} {stage : Stage}
    (hp : (after turns).parties[i]? = some ⟨.scan data, stage⟩) :
    let trace := (Crowd.stepsOf i (nobody.history conduct turns)).flatMap (·.trace)
    stage = .looking data ∧ trace = [] ∨ ∃ plugins, Had turns i data plugins ∧
      ((∃ done left scan, plugins = done ++ left ∧ stage = .asking data left scan ∧
          (askEach data done ⟨plugins⟩).reply = .ok scan ∧
          (askEach data done ⟨plugins⟩).trace = trace) ∨
        ∃ scan, stage = .scanned scan ∧ (scanAll data ⟨plugins⟩).reply = .ok scan ∧
          (scanAll data ⟨plugins⟩).trace = trace)

/-- **No registration is lost or doubled, and running scans are stable**, however the threads get in
between each other. -/
theorem registered (turns : List Turn) : Registered turns where
  changed_alone op hfree := by
    have halone := alone_change (after turns).parties.length op (after turns).shared.registry
    rw [← Guard.eq_of_free hfree] at halone
    obtain ⟨n, hafter, htrace⟩ := Crowd.after_alone conduct halone
    exact ⟨n, hafter, htrace, by cases op <;> rfl⟩
  scanned_alone data hfree := by
    have halone := alone_scan (after turns).parties.length data (after turns).shared.registry
    rw [← Guard.eq_of_free hfree] at halone
    obtain ⟨n, hafter, htrace⟩ := Crowd.after_alone conduct halone
    refine ⟨n, scanOf data (after turns).shared.registry.plugins, ?_⟩
    dsimp only
    rw [scanAll_eq, ← Guard.eq_of_free hfree]
    exact ⟨hafter, htrace, rfl⟩
  list := by
    obtain ⟨before, base, added, hops, hstarts, hlist⟩ := listOf_split ((changes turns).map (·.2))
    exact ⟨before, base, added, hops, hstarts, (sound turns).list_eq.trans hlist⟩
  free := pending_of_free
  held {i} hheld := by
    obtain ⟨p, copy, hi⟩ := ((sound turns).holder_iff i).1 hheld
    obtain rfl := (sound turns).copy_eq hi
    refine ⟨p, hi, pending_of_writing hheld hi, ?_⟩
    obtain ⟨r, hr⟩ := Crowd.stage?_eq_some.1 hi
    have hafter : after (turns ++ [.advance i]) = ((after turns).take conduct (.advance i)).1 :=
      nobody.after_concat conduct turns (.advance i)
    rw [hafter, Crowd.take_of_some _ hr]
    rfl
  once {i op stage} hp := by
    have hcourse := course hp
    generalize (changes turns).filter (·.1 == i) = own at hcourse ⊢
    generalize (Crowd.stepsOf i (nobody.history conduct turns)).flatMap (·.trace) = trace
      at hcourse
    cases hcourse with
    | changing op => exact .inl ⟨rfl, rfl⟩
    | writing p copy => exact .inr ⟨.inr ⟨p, copy, rfl, rfl⟩, rfl⟩
    | changed op trace => exact .inr ⟨.inl rfl, rfl⟩
  theirs := changer_of_mem
  scans {i data stage} hp := by
    have hcourse := course hp
    dsimp only
    generalize (Crowd.stepsOf i (nobody.history conduct turns)).flatMap (·.trace) = trace
      at hcourse ⊢
    generalize (changes turns).filter (·.1 == i) = own at hcourse
    cases hcourse with
    | looking data => exact .inl ⟨rfl, rfl⟩
    | @asking _ done left hhad =>
      refine .inr ⟨_, hhad, .inl ⟨done, left, _, rfl, rfl, ?_⟩⟩
      rw [askEach_eq]
      exact ⟨rfl, rfl⟩
    | @scanned _ plugins hhad =>
      refine .inr ⟨_, hhad, .inr ⟨_, rfl, ?_⟩⟩
      rw [scanAll_eq]
      exact ⟨rfl, rfl⟩

end RuleScan.Registry
