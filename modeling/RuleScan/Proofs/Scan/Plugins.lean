import RuleScan.Plugin.Registry
import RuleScan.Proofs.Action

/-!
# What plugins answer

A plugin answers a rule, a failure or neither. Asking all plugins about a buffer calls each of them
once, in their order, and gives the rules and the failures of each of them, also in that order
(`Registry.scanAll_does`): one that fails or crashes takes nothing away from the others.
-/

namespace RuleScan

namespace Plugin

/-- The rule that a plugin finds in a buffer. -/
def rule? (data : ByteArray) (p : Plugin) : Option RuleMatch :=
  match p.scan data with
  | .found r => some r
  | _ => none

/-- The failure of a plugin on a buffer. A crash without words is given some. -/
def failure? (data : ByteArray) (p : Plugin) : Option PluginFailure :=
  match p.scan data with
  | .failed words => some ⟨p.qualifiedName, words, false, none⟩
  | .crashed words => some ⟨p.qualifiedName, words.getD "plugin panicked", true, none⟩
  | _ => none

/-- The rules that a list of plugins finds in a buffer, as findings; none if no plugin finds one. -/
def findings? (plugins : List Plugin) (data : ByteArray) : Option Findings :=
  match plugins.filterMap (rule? data) with
  | [] => none
  | rules => some { rules }

theorem contribution_eq (p : Plugin) (data : ByteArray) :
    p.contribution data = ⟨(p.rule? data).toList, (p.failure? data).toList⟩ := by
  unfold contribution rule? failure?
  cases p.scan data <;> rfl

end Plugin

namespace Registry

theorem askEach_does (data : ByteArray) (plugins : List Plugin) (r : Registry) :
    (askEach data plugins).Does r
      (.ok ⟨plugins.filterMap (·.rule? data), plugins.filterMap (·.failure? data)⟩) r
      (plugins.map fun p => .plugin p.qualifiedName) := by
  induction plugins with
  | nil => exact .pure _ r
  | cons p rest ih =>
    have hfirst : (ask data p).Does r (.ok (p.contribution data)) r [.plugin p.qualifiedName] :=
      ⟨rfl, rfl, rfl⟩
    have hsum : (p.contribution data).append
          ⟨rest.filterMap (·.rule? data), rest.filterMap (·.failure? data)⟩ =
        ⟨(p :: rest).filterMap (·.rule? data), (p :: rest).filterMap (·.failure? data)⟩ := by
      rw [Plugin.contribution_eq, PluginScan.append]
      cases hr : p.rule? data <;> cases hf : p.failure? data <;> simp [hr, hf]
    rw [← hsum]
    simp only [askEach, Action.bind_eq, Action.pure_eq]
    exact hfirst.bind (ih.map _)

/-- **Each plugin is called once**, in the order of the registry, and what it answers is kept. -/
theorem scanAll_does (data : ByteArray) (r : Registry) :
    (scanAll data).Does r
      (.ok ⟨r.plugins.filterMap (·.rule? data), r.plugins.filterMap (·.failure? data)⟩) r
      (r.names.map .plugin) := by
  have hget : (Action.get : Action Registry Registry).Does r (.ok r) r [] := ⟨rfl, rfl, rfl⟩
  have hnames : r.names.map Call.plugin = r.plugins.map fun p => .plugin p.qualifiedName :=
    List.map_map
  rw [hnames]
  simp only [scanAll, Action.bind_eq]
  exact hget.bind (askEach_does data r.plugins r)

end Registry

/-- The rules that plugins found, as findings. -/
theorem PluginScan.findings_eq (plugins : List Plugin) (data : ByteArray)
    (failures : List PluginFailure) :
    PluginScan.findings ⟨plugins.filterMap (·.rule? data), failures⟩ =
      Plugin.findings? plugins data := by
  rw [PluginScan.findings, Plugin.findings?]
  cases plugins.filterMap (·.rule? data) with
  | nil => rfl
  | cons r rest => rfl

end RuleScan
