import RuleScan.Proofs.Scan.Bracket

/-!
# The two policies for failing plugins

A scanner passes over the failures of plugins or lets the first one end a scan. Whether a scan gets
as far as a channel depends on this, but what the rules and the plugins say about it does not. So a
scan that passes over failures tells what the same scan does under the other policy: it notes what
would have ended it (`answer_skip`, `answer_abort`). The main result is `policies_agree`, which
compares the two scans of one sample, from one state of the scanner.
-/

namespace RuleScan

variable {κ β π γ : Type}

/-- The reply of a scan that a failing plugin ends. -/
def PluginFailure.reply (f : PluginFailure) : Reply Outcome := .error (.plugin f.plugin f.words)

/-- The visits before the first one at which the rules gave no answer. -/
def answered (vs : List (Visit γ)) : List (Visit γ) := vs.takeWhile fun v => v.rules.isOk

theorem answered_cons_of_ok {v : Visit γ} {found : Option Findings} (hv : v.rules = .ok found)
    (rest : List (Visit γ)) : answered (v :: rest) = v :: answered rest :=
  List.takeWhile_cons_of_pos (by rw [hv]; rfl)

theorem answered_cons_of_halt {v : Visit γ} {h : Halt} (hv : v.rules = h.reply)
    (rest : List (Visit γ)) : answered (v :: rest) = [] :=
  List.takeWhile_cons_of_neg (by rw [hv, Halt.reply_isOk]; exact Bool.false_ne_true)

/-- Where not all rules answer there is a first visit at which they do not. -/
theorem exists_of_all_eq_halt {vs : List (Visit γ)} {h : Halt}
    (hall : Reply.all (vs.map Visit.rules) = h.reply) :
    ∃ earlier v later, vs = earlier ++ v :: later ∧ (∀ u ∈ earlier, u.rules.isOk = true) ∧
      v.rules = h.reply ∧ answered vs = earlier := by
  obtain ⟨founds, replies, hrules⟩ := Reply.all_eq_halt.1 hall
  obtain ⟨earlier, rest, rfl, hearlier, hrest⟩ := List.map_eq_append_iff.1 hrules
  obtain ⟨v, later, rfl, hv, -⟩ := List.map_eq_cons_iff.1 hrest
  have hok : ∀ u ∈ earlier, u.rules.isOk = true := by
    intro u hu
    have hmem : u.rules ∈ founds.map Reply.ok := hearlier ▸ List.mem_map_of_mem hu
    obtain ⟨found, -, hfound⟩ := List.mem_map.1 hmem
    rw [← hfound]
    rfl
  refine ⟨earlier, v, later, rfl, hok, hv, ?_⟩
  have hstop : answered (v :: later) = [] := answered_cons_of_halt hv later
  rw [answered, List.takeWhile_append_of_pos hok]
  rw [answered] at hstop
  rw [hstop, List.append_nil]

/-! ## Visits under the two policies -/

namespace Visit

theorem halt?_of_rules (policy : FailurePolicy) (plugins : List Plugin) {v : Visit γ} {h : Halt}
    (hv : v.rules = h.reply) : v.halt? policy plugins = some h := by
  obtain ⟨mark, data, rules⟩ := v
  subst hv
  exact halt?_of_halt policy plugins mark data h

theorem halt?_skip_of_ok (plugins : List Plugin) {v : Visit γ} {found : Option Findings}
    (hv : v.rules = .ok found) : v.halt? .skip plugins = none := by
  simp only [halt?, hv]

/-- The first plugin that failed ends a scan that does not pass over it. -/
theorem halt?_abort_of_ok (plugins : List Plugin) {v : Visit Channel} {found : Option Findings}
    (hv : v.rules = .ok found) :
    v.halt? .abort plugins =
      (v.failures plugins).head?.map fun f => .failure (.plugin f.plugin f.words) := by
  simp only [halt?, hv]
  rw [failures, List.head?_map, List.head?_filterMap, Option.map_map]
  rfl

end Visit

/-! ## Answers under the two policies -/

/-- What is noted of failing plugins until the rules give no answer. -/
def noted (plugins : List Plugin) (vs : List (Visit Channel)) : List PluginFailure :=
  (answered vs).flatMap (·.failures plugins)

theorem noted_cons_of_ok (plugins : List Plugin) {v : Visit Channel} {found : Option Findings}
    (hv : v.rules = .ok found) (rest : List (Visit Channel)) :
    noted plugins (v :: rest) = v.failures plugins ++ noted plugins rest := by
  rw [noted, answered_cons_of_ok hv, List.flatMap_cons, noted]

theorem noted_cons_of_halt (plugins : List Plugin) {v : Visit Channel} {h : Halt}
    (hv : v.rules = h.reply) (rest : List (Visit Channel)) : noted plugins (v :: rest) = [] := by
  rw [noted, answered_cons_of_halt hv, List.flatMap_nil]

/-- A scan that passes over failures answers if the rules do, and then it has noted all failures. -/
theorem answer_skip (w : Weights) (plugins : List Plugin) (vs : List (Visit Channel)) :
    answer .skip w plugins vs =
      (Reply.all (vs.map Visit.rules)).map fun _ =>
        ⟨vs.flatMap (·.entries w plugins), noted plugins vs⟩ := by
  induction vs with
  | nil => rfl
  | cons v rest ih =>
    rw [List.map_cons]
    rcases v.rules.ok_or_halt with ⟨found, hv⟩ | ⟨h, hv⟩
    · rw [answer_cons_of_none (Visit.halt?_skip_of_ok plugins hv), ih, hv, Reply.all,
        Reply.map_map, Reply.map_map, noted_cons_of_ok plugins hv]
      rfl
    · rw [answer_cons_of_halt (Visit.halt?_of_rules .skip plugins hv), hv, Reply.all_cons_halt,
        Halt.map_reply]

/-- A scan that does not pass over failures is ended by the first of those that the other notes. -/
theorem answer_abort (w : Weights) (plugins : List Plugin) (vs : List (Visit Channel)) :
    answer .abort w plugins vs =
      match noted plugins vs with
      | [] => answer .skip w plugins vs
      | f :: _ => f.reply := by
  induction vs with
  | nil => rfl
  | cons v rest ih =>
    rcases v.rules.ok_or_halt with ⟨found, hv⟩ | ⟨h, hv⟩
    · have habort := Visit.halt?_abort_of_ok plugins hv
      rw [noted_cons_of_ok plugins hv]
      cases hf : v.failures plugins with
      | nil =>
        rw [hf] at habort
        rw [answer_cons_of_none habort, ih, hf, List.nil_append,
          answer_cons_of_none (Visit.halt?_skip_of_ok plugins hv), hf]
        cases noted plugins rest <;> rfl
      | cons f fs =>
        rw [hf] at habort
        exact answer_cons_of_halt habort rest
    · rw [noted_cons_of_halt plugins hv,
        answer_cons_of_halt (Visit.halt?_of_rules .abort plugins hv),
        answer_cons_of_halt (Visit.halt?_of_rules .skip plugins hv)]

/-! ## Two scans -/

/-- How the reply of a scan that passes over failures of plugins compares with the reply of one that
does not. -/
structure PoliciesAgree (plugins : List Plugin) (vs : List (Visit Channel))
    (skip abort : Reply Outcome) : Prop where
  /-- Where no plugin failed the outcome is the same. -/
  of_no_failure : ∀ o, skip = .ok o → o.failures = [] → abort = .ok o
  /-- The first failure that the one passes over ends the other. -/
  of_failure : ∀ o f rest, skip = .ok o → o.failures = f :: rest → abort = f.reply
  /-- Where the rules of some channel end the one, the first failure on an earlier channel ends the
  other, and the same failure of the rules if there is none. -/
  of_halt : ∀ h : Halt, skip = h.reply →
    ∃ earlier v later, vs = earlier ++ v :: later ∧ (∀ u ∈ earlier, u.rules.isOk = true) ∧
      v.rules = h.reply ∧
      abort = match earlier.flatMap (·.failures plugins) with
        | [] => h.reply
        | f :: _ => f.reply

/-- **The two policies agree**: for every engine and strategy, every sample and every scanner, a
scan that passes over failures of plugins tells what the same scan does that does not. -/
theorem Scanner.policies_agree (E : Engine κ β) (P : Strategy π) (sample : Sample)
    (s : Scanner κ β π) :
    PoliciesAgree s.registry.plugins (visits E s.session.phase sample.present)
      (scanDetailed E P sample { s with onPluginFailure := .skip }).reply
      (scanDetailed E P sample { s with onPluginFailure := .abort }).reply := by
  obtain ⟨_, hskip⟩ := scanDetailed_does E P sample { s with onPluginFailure := .skip }
  obtain ⟨_, habort⟩ := scanDetailed_does E P sample { s with onPluginFailure := .abort }
  rw [hskip.reply_eq, habort.reply_eq]
  dsimp only
  generalize visits E s.session.phase sample.present = vs
  have hfailures {o : Outcome} (ho : answer .skip s.weights s.registry.plugins vs = .ok o) :
      noted s.registry.plugins vs = o.failures := by
    rw [answer_skip, Reply.map_eq_ok] at ho
    obtain ⟨-, -, rfl⟩ := ho
    rfl
  rw [answer_abort]
  refine ⟨fun o ho hnone => ?_, fun o f rest ho hfirst => ?_, fun h hh => ?_⟩
  · rw [hfailures ho, hnone]
    exact ho
  · rw [hfailures ho, hfirst]
  · have hall := hh
    rw [answer_skip, Reply.map_eq_halt] at hall
    obtain ⟨earlier, v, later, hsplit, hok, hv, hearlier⟩ := exists_of_all_eq_halt hall
    refine ⟨earlier, v, later, hsplit, hok, hv, ?_⟩
    rw [hh, noted, hearlier]

end RuleScan
