import Mathlib.Data.List.Induction
import Mathlib.Tactic.Tauto
import RuleScan.Plugin.Registry
import RuleScan.Proofs.Action

/-!
# Plugins registered together

A list of plugins can be put in place of all others at once, or all are removed and then each of the
list is registered. The first way looks through the names of the list alone, the second one looks
for each name among the plugins that are there by then. Both leave the list, and both warn of the
names that occur before in it (`repeats`), each as often as that is so: `registerAll_agrees`.
-/

namespace RuleScan

/-- What a warning says, if an entry of a trace is one. -/
def Event.warning? : Event → Option String
  | log .warn text => some text
  | _ => none

/-- What the warnings in a trace say. -/
def warnings (trace : List Event) : List String := trace.filterMap Event.warning?

@[simp] theorem warnings_append (t u : List Event) :
    warnings (t ++ u) = warnings t ++ warnings u :=
  List.filterMap_append

/-- The names in a list that also stand before their place in it, in order. -/
def repeats (names : List String) : List String :=
  (names.zipIdx.filter fun e => e.1 ∈ names.take e.2).map (·.1)

@[simp] theorem repeats_nil : repeats [] = [] := rfl

/-- A name at the end changes nothing for those before it. -/
theorem repeats_concat (names : List String) (name : String) :
    repeats (names ++ [name]) = repeats names ++ if name ∈ names then [name] else [] := by
  have hearlier : names.zipIdx.filter (fun e => e.1 ∈ (names ++ [name]).take e.2) =
      names.zipIdx.filter fun e => e.1 ∈ names.take e.2 := by
    refine List.filter_congr fun e he => ?_
    have hlt : e.2 < names.length := by simpa using List.snd_lt_of_mem_zipIdx he
    rw [List.take_append_of_le_length (Nat.le_of_lt hlt)]
  rw [repeats, List.zipIdx_append, List.filter_append, hearlier, List.map_append, repeats]
  congr 1
  by_cases hname : name ∈ names <;> simp [hname]

namespace Registry

/-- What the warning about a name says. -/
def duplicateText (name : String) : String := "Duplicate plugin registered | Plugin: " ++ name

theorem warnings_ite (p : Prop) [Decidable p] (name : String) :
    warnings (if p then [warnDuplicate name] else []) = if p then [duplicateText name] else [] := by
  split <;> rfl

/-! ## A list at once -/

theorem duplicateWarnings_concat (seen names : List String) (name : String) :
    duplicateWarnings seen (names ++ [name]) = duplicateWarnings seen names ++
      if name ∈ seen ∨ name ∈ names then [warnDuplicate name] else [] := by
  induction names generalizing seen with
  | nil => simp [duplicateWarnings]
  | cons first rest ih =>
    have hsame : (name ∈ first :: seen ∨ name ∈ rest) ↔ (name ∈ seen ∨ name ∈ first :: rest) := by
      simp only [List.mem_cons]
      tauto
    rw [List.cons_append, duplicateWarnings, duplicateWarnings, ih, List.append_assoc]
    simp only [hsame]

/-- The names of a list that are warned of are those that occur before. -/
theorem warnings_duplicateWarnings (names : List String) :
    warnings (duplicateWarnings [] names) = (repeats names).map duplicateText := by
  induction names using List.reverseRecOn with
  | nil => rfl
  | append_singleton names name ih =>
    rw [duplicateWarnings_concat, warnings_append, ih, repeats_concat, List.map_append,
      warnings_ite, apply_ite (List.map duplicateText)]
    simp only [List.not_mem_nil, false_or, List.map_singleton, List.map_nil]

theorem warnings_registerAll (ps : List Plugin) (r : Registry) :
    warnings (registerAll ps r).trace =
      (repeats (ps.map Plugin.qualifiedName)).map duplicateText := by
  rw [registerAll, warnings_append, warnings_duplicateWarnings]
  exact List.append_nil _

/-! ## One after the other -/

theorem warnings_register (p : Plugin) (r : Registry) :
    warnings (register p r).trace =
      if p.qualifiedName ∈ r.names then [duplicateText p.qualifiedName] else [] := by
  have htrace : warnings (register p r).trace =
      warnings (if r.names.contains p.qualifiedName then [warnDuplicate p.qualifiedName] else []) :=
    (warnings_append _ _).trans (List.append_nil _)
  rw [htrace, warnings_ite]
  simp only [List.contains_iff_mem]

/-- Registering some plugins and then one more. -/
theorem registerEach_concat (ps : List Plugin) (p : Plugin) (r : Registry) {us : List Unit}
    {s : Registry} (hps : (Action.forEach register ps r).reply = .ok us)
    (hstate : (Action.forEach register ps r).state = s) :
    (Action.forEach register (ps ++ [p]) r).reply = .ok (us ++ [()]) ∧
      (Action.forEach register (ps ++ [p]) r).state = (register p s).state ∧
      (Action.forEach register (ps ++ [p]) r).trace =
        (Action.forEach register ps r).trace ++ (register p s).trace := by
  rw [Action.forEach_append, Action.bind_of_ok hps, hstate]
  refine ⟨rfl, rfl, congrArg (_ ++ ·) ?_⟩
  rw [Action.trace_map, Action.forEach, Action.bind_of_ok rfl]
  exact List.append_nil _

/-- From no plugins on, each name is looked for among those before it. -/
theorem registerEach_empty (ps : List Plugin) :
    (∃ us, (Action.forEach register ps {}).reply = .ok us) ∧
      (Action.forEach register ps {}).state = ⟨ps⟩ ∧
      warnings (Action.forEach register ps {}).trace =
        (repeats (ps.map Plugin.qualifiedName)).map duplicateText := by
  induction ps using List.reverseRecOn with
  | nil => exact ⟨⟨[], rfl⟩, rfl, rfl⟩
  | append_singleton ps p ih =>
    obtain ⟨⟨us, hreply⟩, hstate, hwarnings⟩ := ih
    obtain ⟨hreply', hstate', htrace'⟩ := registerEach_concat ps p {} hreply hstate
    refine ⟨⟨_, hreply'⟩, hstate', ?_⟩
    rw [htrace', warnings_append, hwarnings, warnings_register, List.map_append, List.map_singleton,
      repeats_concat, List.map_append, apply_ite (List.map duplicateText)]
    rfl

/-! ## Both ways -/

/-- Removes all plugins and registers those of a list, one after the other. -/
def clearAndRegister (ps : List Plugin) : Action Registry (List Unit) := do
  clear
  Action.forEach register ps

/-- **Plugins put in place of all others at once are those registered after all others were
removed.** Whatever plugins there were before and whatever the names are, both ways succeed and
leave the same plugins, so that all scans from then on answer the same, and both warn of the same
names in the same order: of each name once for every place in the list before which it stands
already. -/
theorem registerAll_agrees (r : Registry) (ps : List Plugin) :
    (registerAll ps r).reply.isOk ∧ (clearAndRegister ps r).reply.isOk ∧
      (registerAll ps r).state.plugins = ps ∧
      (clearAndRegister ps r).state = (registerAll ps r).state ∧
      (∀ data, (scanAll data (clearAndRegister ps r).state).reply =
        (scanAll data (registerAll ps r).state).reply) ∧
      warnings (clearAndRegister ps r).trace = warnings (registerAll ps r).trace ∧
      warnings (registerAll ps r).trace =
        (repeats (ps.map Plugin.qualifiedName)).map
          ("Duplicate plugin registered | Plugin: " ++ ·) := by
  obtain ⟨⟨us, hreply⟩, hstate, hwarnings⟩ := registerEach_empty ps
  have hboth : clearAndRegister ps r =
      ⟨.ok us, ⟨ps⟩, [.log .debug "Plugin set cleared"] ++
        (Action.forEach register ps {}).trace⟩ := by
    rw [clearAndRegister, Action.bind_eq, Action.bind_of_ok rfl]
    exact Step.ext hreply hstate rfl
  have hstates : (clearAndRegister ps r).state = (registerAll ps r).state := by
    rw [hboth]
    rfl
  refine ⟨rfl, ?_, rfl, hstates, fun data => by rw [hstates], ?_, warnings_registerAll ps r⟩
  · rw [hboth]
    rfl
  · rw [hboth, warnings_append, hwarnings, warnings_registerAll]
    rfl

end Registry

end RuleScan
