import Mathlib.Algebra.Ring.Nat
import Mathlib.Data.List.Nodup
import Mathlib.Tactic.Push
import RuleScan.Findings.Basic

/-!
# Merged findings

Findings that are merged two at a time, in any bracketing, come to the same. What a merge of a list
holds is told by the list alone (`MergeOf`): all rules in order, and under each name the output of
the last that has one. Two dictionaries with the same look-ups are equal (`Dictionary.ext_get?`),
so that nothing else is left to compare (`MergeOf.unique`). The main result is `merge_monoid`.
-/

namespace RuleScan

/-! ## The names of a dictionary -/

namespace Dictionary

/-- The names that have an entry. -/
def names (d : Dictionary) : List String := d.entries.map (·.1)

theorem names_nodup (d : Dictionary) : d.names.Nodup := by
  refine List.pairwise_map.2 (d.sorted.imp fun {e e'} hlt heq => ?_)
  rw [heq] at hlt
  exact String.lt_irrefl _ hlt

theorem get?_eq_some_iff {d : Dictionary} {k v : String} :
    d.get? k = some v ↔ (k, v) ∈ d.entries := by
  rw [get?, Option.map_eq_some_iff]
  constructor
  · rintro ⟨⟨k', v'⟩, hfind, rfl⟩
    have hk : k' = k := by simpa using List.find?_some hfind
    exact hk ▸ List.mem_of_find?_eq_some hfind
  · intro hmem
    rcases hfind : d.entries.find? (·.1 = k) with _ | ⟨k', v'⟩
    · exact absurd (decide_eq_true rfl) (List.find?_eq_none.1 hfind (k, v) hmem)
    · have hk : k' = k := by simpa using List.find?_some hfind
      have hmem' := List.mem_of_find?_eq_some hfind
      have hsame := List.inj_on_of_nodup_map d.names_nodup hmem' hmem hk
      exact ⟨(k', v'), hfind, congrArg Prod.snd hsame⟩

theorem mem_names_iff {d : Dictionary} {k : String} : k ∈ d.names ↔ ∃ v, d.get? k = some v := by
  simp only [names, List.mem_map, Prod.exists, get?_eq_some_iff]
  constructor
  · rintro ⟨_, v, h, rfl⟩
    exact ⟨v, h⟩
  · rintro ⟨v, h⟩
    exact ⟨k, v, h, rfl⟩

theorem get?_eq_none_iff {d : Dictionary} {k : String} : d.get? k = none ↔ k ∉ d.names := by
  rw [mem_names_iff, Option.eq_none_iff_forall_ne_some, not_exists]

/-- A dictionary is known from its look-ups. -/
theorem ext_get? {a b : Dictionary} (h : ∀ k, a.get? k = b.get? k) : a = b := by
  have hmem (e : String × String) : e ∈ a.entries ↔ e ∈ b.entries := by
    rw [← get?_eq_some_iff (k := e.1) (v := e.2), h, get?_eq_some_iff]
  have hperm : a.entries.Perm b.entries := (List.perm_ext_iff_of_nodup
    (List.Nodup.of_map _ a.names_nodup) (List.Nodup.of_map _ b.names_nodup)).2 hmem
  have hentries : a.entries = b.entries := hperm.eq_of_pairwise
    (fun _ _ _ _ hlt hgt => absurd hgt (String.lt_asymm hlt)) a.sorted b.sorted
  cases a
  cases b
  cases hentries
  rfl

theorem isEmpty_iff {d : Dictionary} : d.isEmpty ↔ ∀ k, d.get? k = none := by
  simp only [get?_eq_none_iff, names, ← List.eq_nil_iff_forall_not_mem, List.map_eq_nil_iff,
    isEmpty, List.isEmpty_iff]

end Dictionary

/-! ## What a merge holds -/

namespace Findings

/-- The output of a module in the last findings of a list that have one. -/
def lastOutput? (module : String) (fs : List Findings) : Option String :=
  fs.reverse.findSome? fun f => f.outputs.get? module

theorem lastOutput?_append (module : String) (fs gs : List Findings) :
    lastOutput? module (fs ++ gs) = (lastOutput? module gs).or (lastOutput? module fs) := by
  rw [lastOutput?, List.reverse_append, List.findSome?_append, lastOutput?, lastOutput?]

theorem lastOutput?_eq_some_iff {module text : String} {fs : List Findings} :
    lastOutput? module fs = some text ↔
      ∃ earlier f later, fs = earlier ++ f :: later ∧ f.outputs.get? module = some text ∧
        ∀ g ∈ later, module ∉ g.outputs.names := by
  rw [lastOutput?, List.findSome?_eq_some_iff]
  constructor
  · rintro ⟨later, f, earlier, hsplit, hf, hlater⟩
    refine ⟨earlier.reverse, f, later.reverse, ?_, hf, fun g hg => ?_⟩
    · rw [← List.reverse_reverse fs, hsplit, List.reverse_append, List.reverse_cons,
        List.append_assoc, List.singleton_append]
    · exact Dictionary.get?_eq_none_iff.1 (hlater g (List.mem_reverse.1 hg))
  · rintro ⟨earlier, f, later, rfl, hf, hlater⟩
    refine ⟨later.reverse, f, earlier.reverse, ?_, hf, fun g hg => ?_⟩
    · rw [List.reverse_append, List.reverse_cons, List.append_assoc, List.singleton_append]
    · exact Dictionary.get?_eq_none_iff.2 (hlater g (List.mem_reverse.1 hg))

theorem lastOutput?_eq_none_iff {module : String} {fs : List Findings} :
    lastOutput? module fs = none ↔ ∀ f ∈ fs, f.outputs.get? module = none := by
  rw [lastOutput?, List.findSome?_eq_none_iff]
  exact forall_congr' fun f => by rw [List.mem_reverse]

/-- What findings hold that some others are merged to. -/
structure MergeOf (fs : List Findings) (m : Findings) : Prop where
  rules : m.rules = fs.flatMap (·.rules)
  outputs : ∀ module, m.outputs.get? module = lastOutput? module fs

namespace MergeOf

variable {fs gs : List Findings} {m n : Findings}

theorem nothing : MergeOf [] {} := ⟨rfl, fun _ => rfl⟩

theorem single (f : Findings) : MergeOf [f] f where
  rules := by rw [List.flatMap_singleton]
  outputs module := by
    rw [lastOutput?, List.reverse_singleton, List.findSome?_singleton]

theorem merge (hm : MergeOf fs m) (hn : MergeOf gs n) : MergeOf (fs ++ gs) (m.merge n) where
  rules := by rw [Findings.merge, hm.rules, hn.rules, List.flatMap_append]
  outputs module := by
    rw [Findings.merge, Dictionary.get?_merge, hm.outputs, hn.outputs, lastOutput?_append]

/-- Nothing more is to be known of merged findings. -/
theorem unique (hm : MergeOf fs m) (hn : MergeOf fs n) : m = n := by
  have hrules : m.rules = n.rules := hm.rules.trans hn.rules.symm
  have houtputs : m.outputs = n.outputs :=
    Dictionary.ext_get? fun module => (hm.outputs module).trans (hn.outputs module).symm
  cases m
  cases n
  rw [Findings.mk.injEq]
  exact ⟨hrules, houtputs⟩

theorem foldl (hm : MergeOf fs m) (gs : List Findings) :
    MergeOf (fs ++ gs) (gs.foldl Findings.merge m) := by
  induction gs generalizing fs m with
  | nil => rwa [List.append_nil]
  | cons g rest ih =>
    rw [List.append_cons]
    exact ih (hm.merge (.single g))

theorem foldr (fs : List Findings) : MergeOf fs (fs.foldr Findings.merge {}) := by
  induction fs with
  | nil => exact nothing
  | cons f rest ih => exact (single f).merge ih

theorem length_rules (hm : MergeOf fs m) :
    m.rules.length = (fs.map fun f => f.rules.length).sum := by
  rw [hm.rules, List.length_flatMap]

theorem mem_names_iff (hm : MergeOf fs m) {module : String} :
    module ∈ m.outputs.names ↔ ∃ f ∈ fs, module ∈ f.outputs.names := by
  have hnone : m.outputs.get? module = none ↔ ∀ f ∈ fs, f.outputs.get? module = none := by
    rw [hm.outputs, lastOutput?_eq_none_iff]
  simp only [Dictionary.get?_eq_none_iff] at hnone
  rw [← not_iff_not, hnone]
  push Not
  rfl

theorem isEmpty_iff (hm : MergeOf fs m) : m.isEmpty ↔ ∀ f ∈ fs, f.isEmpty := by
  have hempty (f : Findings) :
      f.isEmpty ↔ f.rules = [] ∧ ∀ module, f.outputs.get? module = none := by
    rw [isEmpty, Bool.and_eq_true, List.isEmpty_iff, Dictionary.isEmpty_iff]
  simp only [hempty, hm.rules, hm.outputs, List.flatMap_eq_nil_iff, lastOutput?_eq_none_iff]
  exact ⟨fun h f hf => ⟨h.1 f hf, fun module => h.2 module f hf⟩,
    fun h => ⟨fun f hf => (h f hf).1, fun module f hf => (h f hf).2 module⟩⟩

end MergeOf

theorem nonEmpty?_eq_none_iff {f : Findings} : f.nonEmpty? = none ↔ f.isEmpty := by
  rw [nonEmpty?]
  split <;> simp_all

/-! ## Bracketings -/

/-- A way to merge some findings in their order, two at a time. -/
inductive Bracketing
  | nothing
  | single (f : Findings)
  | both (first second : Bracketing)

namespace Bracketing

/-- The findings that are merged, in their order. -/
def parts : Bracketing → List Findings
  | nothing => []
  | single f => [f]
  | both first second => first.parts ++ second.parts

/-- What they are merged to. -/
def merged : Bracketing → Findings
  | nothing => {}
  | single f => f
  | both first second => first.merged.merge second.merged

theorem mergeOf (b : Bracketing) : MergeOf b.parts b.merged := by
  induction b with
  | nothing => exact .nothing
  | single f => exact .single f
  | both first second hfirst hsecond => exact hfirst.merge hsecond

end Bracketing

/-- **Merging is a monoid with look-ups from the right.** No findings change nothing on either side.
Whatever the bracketing, the parts are merged to what they are merged to from the left, and from the
right: all their rules in order, and an output under just the names that a part has, each time that
of the last part that has one. It is empty if all parts are. -/
theorem merge_monoid :
    (∀ f : Findings, merge {} f = f ∧ f.merge {} = f) ∧
    ∀ b : Bracketing,
      b.merged = mergeAll b.parts ∧ b.merged = b.parts.foldr merge {} ∧
      b.merged.rules = b.parts.flatMap (·.rules) ∧
      b.merged.rules.length = (b.parts.map fun f => f.rules.length).sum ∧
      (∀ module, module ∈ b.merged.outputs.names ↔
        ∃ f ∈ b.parts, module ∈ f.outputs.names) ∧
      (∀ module text, b.merged.outputs.get? module = some text ↔
        ∃ earlier f later, b.parts = earlier ++ f :: later ∧
          f.outputs.get? module = some text ∧ ∀ g ∈ later, module ∉ g.outputs.names) ∧
      (b.merged.nonEmpty? = none ↔ ∀ f ∈ b.parts, f.isEmpty) := by
  refine ⟨fun f => ⟨?_, ?_⟩, fun b => ?_⟩
  · exact (MergeOf.nothing.merge (.single f)).unique (.single f)
  · exact ((MergeOf.single f).merge .nothing).unique (.single f)
  · have hb := b.mergeOf
    refine ⟨hb.unique (MergeOf.nothing.foldl b.parts), hb.unique (.foldr b.parts), hb.rules,
      hb.length_rules, fun _ => hb.mem_names_iff, fun module text => ?_, ?_⟩
    · rw [hb.outputs, lastOutput?_eq_some_iff]
    · rw [nonEmpty?_eq_none_iff, hb.isEmpty_iff]

end Findings

end RuleScan
