import RuleScan.Proofs.Scan.Emptiness

/-!
# Plugins beside each other

Asking some plugins about a buffer asks each of them once, whatever becomes of those before it, and
puts what they contribute one after the other: a list of plugins answers what its parts answer
(`asked_append`), so that everything is known from single plugins. The main result is `isolated`: a
plugin adds its rule, its failure or nothing, and what is found depends on nobody but the plugins
that find something.
-/

namespace RuleScan

/-- Whether a plugin finds its rule in a buffer. -/
def Plugin.finds (data : ByteArray) (p : Plugin) : Bool := (p.rule? data).isSome

/-- What a verdict of a plugin comes to in the answer of all plugins: a rule, a failure under the
name of the plugin, or nothing. -/
def Plugin.account (p : Plugin) : Verdict → PluginScan
  | .found rule => ⟨[rule], []⟩
  | .nothing => ⟨[], []⟩
  | .failed words => ⟨[], [{ plugin := p.qualifiedName, words, crashed := false }]⟩
  | .crashed (some words) => ⟨[], [{ plugin := p.qualifiedName, words, crashed := true }]⟩
  | .crashed none =>
    ⟨[], [{ plugin := p.qualifiedName, words := "plugin panicked", crashed := true }]⟩

namespace Registry

/-- What a registry with some plugins answers about a buffer. -/
def asked (data : ByteArray) (plugins : List Plugin) : PluginScan :=
  match (scanAll data ⟨plugins⟩).reply with
  | .ok answer => answer
  | .error _ => {}
  | .crash _ => {}

theorem asked_eq (data : ByteArray) (plugins : List Plugin) :
    asked data plugins =
      ⟨plugins.filterMap (·.rule? data), plugins.filterMap (·.failure? data)⟩ := by
  rw [asked, (scanAll_does data ⟨plugins⟩).reply_eq]

/-- Asking more plugins adds what they answer at the end. -/
theorem asked_append (data : ByteArray) (P Q : List Plugin) :
    asked data (P ++ Q) = (asked data P).append (asked data Q) := by
  simp only [asked_eq, PluginScan.append, List.filterMap_append]

theorem asked_singleton (data : ByteArray) (p : Plugin) :
    asked data [p] = p.account (p.scan data) := by
  rw [asked_eq]
  cases h : p.scan data with
  | found rule => simp [Plugin.rule?, Plugin.failure?, Plugin.account, h]
  | nothing => simp [Plugin.rule?, Plugin.failure?, Plugin.account, h]
  | failed words => simp [Plugin.rule?, Plugin.failure?, Plugin.account, h]
  | crashed words => cases words <;> simp [Plugin.rule?, Plugin.failure?, Plugin.account, h]

theorem findings_asked (data : ByteArray) (plugins : List Plugin) :
    (asked data plugins).findings = Plugin.findings? plugins data := by
  rw [asked_eq, PluginScan.findings_eq]

end Registry

theorem Plugin.findings?_eq_none {plugins : List Plugin} {data : ByteArray} :
    Plugin.findings? plugins data = none ↔ ∀ p ∈ plugins, p.finds data = false := by
  have hrules : plugins.filterMap (·.rule? data) = [] ↔ ∀ p ∈ plugins, p.finds data = false := by
    simp only [List.filterMap_eq_nil_iff, Plugin.finds, Option.isSome_eq_false_iff,
      Option.isNone_iff_eq_none]
  rw [← hrules, Plugin.findings?]
  cases plugins.filterMap (·.rule? data) <;> simp

theorem Plugin.findings?_filter (plugins : List Plugin) (data : ByteArray) :
    Plugin.findings? (plugins.filter (·.finds data)) data = Plugin.findings? plugins data := by
  have hrules : (plugins.filter (·.finds data)).filterMap (·.rule? data) =
      plugins.filterMap (·.rule? data) := by
    rw [List.filterMap_filter]
    congr 1
    funext p
    cases h : p.rule? data <;> simp [Plugin.finds, h]
  rw [Plugin.findings?, hrules, Plugin.findings?]

/-- Findings of plugins are their rules, and never empty. -/
theorem PluginScan.of_findings {s : PluginScan} {found : Findings} (h : s.findings = some found) :
    found = .ofRules s.rules ∧ found.isEmpty = false := by
  rw [PluginScan.findings, Findings.nonEmpty?] at h
  split at h
  · cases h
  · next hempty =>
    cases h
    exact ⟨rfl, Bool.eq_false_iff.2 hempty⟩

namespace Registry

/-- Some plugins `P`, which may be followed by others `Q`, are asked about a buffer side by side. -/
structure Isolated (data : ByteArray) (P Q : List Plugin) : Prop where
  /-- There is always an answer; each plugin is called once, in order, and stays registered. -/
  asks_each : (scanAll data).Does ⟨P⟩ (.ok (asked data P)) ⟨P⟩
    (P.map fun p => .plugin p.qualifiedName)
  append : asked data (P ++ Q) = (asked data P).append (asked data Q)
  /-- With `append`: the part of each plugin in the answer. -/
  account : ∀ p, asked data [p] = p.account (p.scan data)
  none_iff : (asked data P).findings = none ↔ ∀ p ∈ P, p.finds data = false
  of_findings : ∀ found, (asked data P).findings = some found →
    found = .ofRules (asked data P).rules ∧ found.isEmpty = false
  /-- Plugins that find nothing or fail make no difference to what is found, wherever they stand. -/
  only_finders : (asked data (P.filter (·.finds data))).findings = (asked data P).findings

/-- **Plugins do not disturb each other, and none of them is lost**, whichever of them find their
rule, find nothing, fail or crash. -/
theorem isolated (data : ByteArray) (P Q : List Plugin) : Isolated data P Q where
  asks_each := by
    have h := scanAll_does data ⟨P⟩
    rw [names, List.map_map] at h
    rw [asked_eq]
    exact h
  append := asked_append data P Q
  account := asked_singleton data
  none_iff := by rw [findings_asked, Plugin.findings?_eq_none]
  of_findings _ := PluginScan.of_findings
  only_finders := by rw [findings_asked, findings_asked, Plugin.findings?_filter]

end Registry

end RuleScan
