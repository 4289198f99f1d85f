import RuleScan.Proofs.Scan.Threads
import RuleScan.Scripted
import Mathlib.Data.List.Induction

/-!
# Scans in every order

However the steps of scans are mixed with each other, with operations on the session and with
changes of the plugins, each scan answers what is told from what it saw: the phase of the session
when it asked the rules about a channel, and the plugins when it took the list of them. For this,
`Sound` says of each stage how far the answer is known; one step keeps it (`Sound.next`), and so
does a run (`World.sound`). The main result is `World.runs_orderly`, which also says what compilers
and backends see, and what becomes of scans that come too late.
-/

namespace RuleScan

variable {κ β π : Type}

/-! ## The reference -/

/-- A visit to a buffer, with the plugins that were in use then. -/
structure Sight where
  visit : Visit Channel
  plugins : List Plugin

/-- Why a scan stops, if it does. -/
def Sight.halt? (policy : FailurePolicy) (s : Sight) : Option Halt :=
  s.visit.halt? policy s.plugins

/-- What a scan answers to what it saw: what the first sight says that ends it, or else all findings
and all failures of plugins. -/
def answerTo (policy : FailurePolicy) (w : Weights) (sights : List Sight) : Reply Outcome :=
  match sights.findSome? (·.halt? policy) with
  | some h => h.reply
  | none =>
    .ok
      { results := sights.flatMap fun s => s.visit.entries w s.plugins
        failures := sights.flatMap fun s => s.visit.failures s.plugins }

/-- Where the plugins stay the same it is the answer of a scan that nothing comes in between. -/
theorem answerTo_map (policy : FailurePolicy) (w : Weights) (plugins : List Plugin)
    (vs : List (Visit Channel)) :
    answerTo policy w (vs.map fun v => ⟨v, plugins⟩) = answer policy w plugins vs := by
  rw [answerTo, answer, List.findSome?_map, List.flatMap_map, List.flatMap_map]
  rfl

section

variable {policy : FailurePolicy} {w : Weights}

theorem answerTo_append {first : List Sight} {o : Outcome} (h : answerTo policy w first = .ok o)
    (rest : List Sight) :
    answerTo policy w (first ++ rest) = (answerTo policy w rest).map o.append := by
  unfold answerTo at h ⊢
  rw [List.findSome?_append]
  cases hfirst : first.findSome? (·.halt? policy) with
  | some halt =>
    rw [hfirst] at h
    cases halt <;> cases h
  | none =>
    rw [hfirst] at h
    cases h
    rw [Option.none_or]
    cases rest.findSome? (·.halt? policy) with
    | some halt => exact (Halt.map_reply halt _).symm
    | none => simp [Reply.map, Outcome.append]

theorem answerTo_cons_of_halt {s : Sight} {h : Halt} (hs : s.halt? policy = some h)
    (rest : List Sight) : answerTo policy w (s :: rest) = h.reply := by
  rw [answerTo, List.findSome?_cons, hs]

theorem answerTo_singleton (s : Sight) :
    answerTo policy w [s] = s.visit.reply policy w s.plugins := by
  unfold answerTo Visit.reply
  rw [List.findSome?_cons, Sight.halt?]
  cases s.visit.halt? policy s.plugins with
  | some h => rfl
  | none => simp

end

/-! ## What a thread saw -/

/-- The channel on which the next step asks the rules, if it does. -/
def Stage.rulesAt? : Stage → Option Channel
  | .busy p .rules => some p.channel
  | _ => none

/-- The channel on which the next step takes the list of plugins, if it does. -/
def Stage.snapshotAt? : Stage → Option Channel
  | .busy p (.snapshot _) => some p.channel
  | _ => none

/-- The reply of a scan, once it is settled. -/
def Stage.reply? : Stage → Option (Reply Outcome)
  | .closing _ reply => some reply
  | .finished reply => some reply
  | _ => none

/-- What a thread read off the scanner at its steps of some kind, with their channels. -/
def seen {γ : Type} (at? : Stage → Option Channel) (read : Scanner κ β π → γ) (i : Nat)
    (h : List (Moment κ β π)) : List (Channel × γ) :=
  h.filterMap fun m => ((m.stage? i).bind at?).map fun c => (c, read m.before.shared)

/-- The phases of the session in which a thread asked the rules. -/
def phasesSeen (i : Nat) (h : List (Moment κ β π)) : List (Channel × Phase κ β) :=
  seen Stage.rulesAt? (·.session.phase) i h

/-- The lists of plugins that a thread took. -/
def pluginsSeen (i : Nat) (h : List (Moment κ β π)) : List (Channel × List Plugin) :=
  seen Stage.snapshotAt? (·.registry.plugins) i h

/-- What is seen of a buffer: its rules in the phase of its channel, and the plugins of its
channel. -/
def sight (E : Engine κ β) (phases : List (Channel × Phase κ β))
    (plugins : List (Channel × List Plugin)) (b : Channel × ByteArray) : Sight :=
  ⟨((phases.lookup b.1).getD .closed).visit E b.1 b.2, (plugins.lookup b.1).getD []⟩

theorem lookup_append_of_mem {γ δ : Type} [BEq γ] [LawfulBEq γ] {l : List (γ × δ)} {k : γ}
    (hk : k ∈ l.map (·.1)) (l' : List (γ × δ)) : (l ++ l').lookup k = l.lookup k := by
  obtain ⟨⟨k', v⟩, hmem, rfl⟩ := List.mem_map.1 hk
  obtain ⟨u, hu⟩ := Option.isSome_iff_exists.1 (List.lookup_isSome_iff.2 ⟨_, hmem, BEq.rfl⟩)
  rw [List.lookup_append, hu]
  rfl

theorem lookup_append_new {γ δ : Type} [BEq γ] [LawfulBEq γ] {l : List (γ × δ)} {k : γ}
    (hk : k ∉ l.map (·.1)) (v : δ) : (l ++ [(k, v)]).lookup k = some v := by
  have hnone : l.lookup k = none := by
    refine List.lookup_eq_none_iff.2 fun p hp => bne_iff_ne.2 ?_
    rintro rfl
    exact hk (List.mem_map_of_mem hp)
  rw [List.lookup_append, hnone, List.lookup_cons, beq_self_eq_true]
  rfl

theorem Sample.present_nodup (sample : Sample) : (sample.present.map (·.1)).Nodup := by
  obtain ⟨content, comment, metadata⟩ := sample
  cases content <;> cases comment <;> cases metadata <;> simp [present]

/-! ## Soundness -/

/-- The channel, if the rules were asked about it before a task. -/
def Task.askedAt (c : Channel) : Task → List Channel
  | .wait => []
  | .rules => []
  | _ => [c]

/-- The channel, if the list of plugins was taken for it before a task. -/
def Task.takenAt (c : Channel) : Task → List Channel
  | .plugins _ _ _ => [c]
  | _ => []

/-- What is known at a task: the answer of the rules, and what the plugins that were asked so far
answered. -/
def Task.Sound (data : ByteArray) (s : Sight) : Task → Prop
  | .wait => True
  | .rules => True
  | .snapshot found => s.visit.rules = .ok found
  | .plugins found left scan =>
    s.visit.rules = .ok found ∧ ∃ asked, s.plugins = asked ++ left ∧
      scan = ⟨asked.filterMap (·.rule? data), asked.filterMap (·.failure? data)⟩

/-- The rules and then the plugins were seen channel by channel, once each and in order, from the
first channel on; only on the last one the plugins may not have been seen yet. -/
structure SeenInOrder (sample : Sample) (phases : List (Channel × Phase κ β))
    (plugins : List (Channel × List Plugin)) : Prop where
  phases_prefix : phases.map (·.1) <+: sample.present.map (·.1)
  plugins_prefix : plugins.map (·.1) <+: phases.map (·.1)
  length_le : phases.length ≤ plugins.length + 1

section

variable (E : Engine κ β) (policy : FailurePolicy) (w : Weights) (sample : Sample)

/-- How far the answer of a scan is known at a stage, from what it saw. -/
inductive Sound (phases : List (Channel × Phase κ β)) (plugins : List (Channel × List Plugin)) :
    Stage → Prop
  | entered (hphases : phases = []) (hplugins : plugins = []) : Sound phases plugins .entered
  | busy {p : Post} {task : Task} {done : List (Channel × ByteArray)}
      (hpresent : sample.present = done ++ (p.channel, p.data) :: p.rest)
      (hsofar : answerTo policy w (done.map (sight E phases plugins)) = .ok p.sofar)
      (hphases : phases.map (·.1) = done.map (·.1) ++ task.askedAt p.channel)
      (hplugins : plugins.map (·.1) = done.map (·.1) ++ task.takenAt p.channel)
      (htask : task.Sound p.data (sight E phases plugins (p.channel, p.data))) :
      Sound phases plugins (.busy p task)
  | settled {stage : Stage} {reply : Reply Outcome} (hstage : stage.reply? = some reply)
      (hreply : reply = answerTo policy w (sample.present.map (sight E phases plugins)))
      (hsofar : reply = answerTo policy w
        ((sample.present.map (sight E phases plugins)).take phases.length))
      (hall : reply.isOk → plugins.map (·.1) = sample.present.map (·.1))
      (hseen : SeenInOrder sample phases plugins) : Sound phases plugins stage

end

namespace Sound

variable {E : Engine κ β} {policy : FailurePolicy} {w : Weights} {sample : Sample}
  {phases : List (Channel × Phase κ β)} {plugins : List (Channel × List Plugin)}

/-- What was seen of the channels that are done does not change any more. -/
theorem map_sight_append {done : List (Channel × ByteArray)} {cs ds : List Channel}
    (hphases : phases.map (·.1) = done.map (·.1) ++ cs)
    (hplugins : plugins.map (·.1) = done.map (·.1) ++ ds)
    (phases' : List (Channel × Phase κ β)) (plugins' : List (Channel × List Plugin)) :
    done.map (sight E (phases ++ phases') (plugins ++ plugins')) =
      done.map (sight E phases plugins) := by
  refine List.map_congr_left fun b hb => ?_
  have hb' : b.1 ∈ done.map (·.1) := List.mem_map_of_mem hb
  have hphase : b.1 ∈ phases.map (·.1) := hphases ▸ List.mem_append_left cs hb'
  have hplugin : b.1 ∈ plugins.map (·.1) := hplugins ▸ List.mem_append_left ds hb'
  rw [sight, lookup_append_of_mem hphase, lookup_append_of_mem hplugin]
  rfl

/-- The channel that a scan is at was not seen before. -/
theorem channel_notMem {p : Post} {done : List (Channel × ByteArray)}
    (hpresent : sample.present = done ++ (p.channel, p.data) :: p.rest) :
    p.channel ∉ done.map (·.1) := by
  have hnodup := sample.present_nodup
  rw [hpresent, List.map_append, List.map_cons] at hnodup
  obtain ⟨-, -, hdisjoint⟩ := List.nodup_append.1 hnodup
  exact fun h => hdisjoint _ h _ List.mem_cons_self rfl

/-- Between two channels. -/
theorem before (token : Nat) (done : List (Channel × ByteArray))
    {rest : List (Channel × ByteArray)} {sofar : Outcome}
    (hpresent : sample.present = done ++ rest)
    (hsofar : answerTo policy w (done.map (sight E phases plugins)) = .ok sofar)
    (hphases : phases.map (·.1) = done.map (·.1))
    (hplugins : plugins.map (·.1) = done.map (·.1)) :
    Sound E policy w sample phases plugins (.before token sofar rest) := by
  cases rest with
  | nil =>
    rw [List.append_nil] at hpresent
    have hpresent' : sample.present.map (·.1) = phases.map (·.1) := by rw [hpresent, hphases]
    have hequal : phases.map (·.1) = plugins.map (·.1) := hphases.trans hplugins.symm
    have hlength := congrArg List.length hequal
    rw [List.length_map, List.length_map] at hlength
    have hcount : sample.present.length = phases.length := by
      rw [← List.length_map (·.1), hpresent', List.length_map]
    have hreply : answerTo policy w (sample.present.map (sight E phases plugins)) = .ok sofar := by
      rw [hpresent, hsofar]
    refine .settled rfl hreply.symm ?_ (fun _ => (hpresent'.trans hequal).symm)
      ⟨?_, ?_, by omega⟩
    · rw [List.take_of_length_le (by rw [List.length_map, hcount]), hreply]
    · exact hpresent' ▸ List.prefix_rfl
    · exact hequal ▸ List.prefix_rfl
  | cons b rest =>
    refine .busy hpresent hsofar ?_ ?_ trivial
    · rw [hphases]
      exact (List.append_nil _).symm
    · rw [hplugins]
      exact (List.append_nil _).symm

/-- What was seen in the middle of a channel. -/
theorem seenInOrder {p : Post} {done : List (Channel × ByteArray)} {cs ds : List Channel}
    (hpresent : sample.present = done ++ (p.channel, p.data) :: p.rest)
    (hphases : phases.map (·.1) = done.map (·.1) ++ cs) (hcs : cs <+: [p.channel])
    (hplugins : plugins.map (·.1) = done.map (·.1) ++ ds) (hds : ds <+: cs) :
    SeenInOrder sample phases plugins := by
  have hsplit : sample.present.map (·.1) = done.map (·.1) ++ ([p.channel] ++ p.rest.map (·.1)) := by
    rw [hpresent]
    simp
  refine ⟨?_, ?_, ?_⟩
  · rw [hphases, hsplit]
    exact (List.prefix_append_right_inj _).2 (hcs.trans (List.prefix_append _ _))
  · rw [hphases, hplugins]
    exact (List.prefix_append_right_inj _).2 hds
  · have hlength := congrArg List.length hphases
    have hlength' := congrArg List.length hplugins
    have hone := hcs.length_le
    simp only [List.length_map, List.length_append, List.length_singleton] at hlength hlength' hone
    omega

/-- A channel that ends the scan. -/
theorem halted {p : Post} {done : List (Channel × ByteArray)} {ds : List Channel} {h : Halt}
    (hpresent : sample.present = done ++ (p.channel, p.data) :: p.rest)
    (hsofar : answerTo policy w (done.map (sight E phases plugins)) = .ok p.sofar)
    (hhalt : (sight E phases plugins (p.channel, p.data)).halt? policy = some h)
    (hphases : phases.map (·.1) = done.map (·.1) ++ [p.channel])
    (hplugins : plugins.map (·.1) = done.map (·.1) ++ ds) (hds : ds <+: [p.channel]) :
    Sound E policy w sample phases plugins (.closing p.token h.reply) := by
  -- Whatever is left to be seen, it does not matter.
  have hreply (left : List Sight) :
      h.reply = answerTo policy w (done.map (sight E phases plugins) ++
        sight E phases plugins (p.channel, p.data) :: left) := by
    rw [answerTo_append hsofar, answerTo_cons_of_halt hhalt, Halt.map_reply]
  have hcount : phases.length = done.length + 1 := by
    rw [← List.length_map (·.1), hphases, List.length_append, List.length_map,
      List.length_singleton]
  refine .settled rfl ?_ ?_ (fun hok => ?_)
    (seenInOrder hpresent hphases List.prefix_rfl hplugins hds)
  · rw [hpresent, List.map_append, List.map_cons]
    exact hreply _
  · rw [hpresent, List.map_append, List.map_cons, hcount,
      ← List.length_map (sight E phases plugins), List.take_length_add_append, List.take_succ_cons,
      List.take_zero]
    exact hreply []
  · cases h <;> cases hok

/-- The rules are asked. -/
theorem askRules {p : Post} (P : Strategy π)
    (h : Sound E policy w sample phases plugins (.busy p .rules)) (s : Scanner κ β π) :
    Sound E policy w sample (phases ++ [(p.channel, s.session.phase)]) plugins
      (Stage.next E P sample (.busy p .rules) s).1 := by
  cases h with
  | settled hstage => cases hstage
  | @busy _ _ done hpresent hsofar hphases hplugins htask =>
    have hnext : (Stage.next E P sample (.busy p .rules) s).1 =
        (s.session.phase.consult E p.data).1.follow (.halted p.token)
          fun found => .busy p (.snapshot found) :=
      congrArg (Reply.follow (Stage.halted p.token) fun found => .busy p (.snapshot found))
        (Scanner.scanRules_does E p.data s).reply_eq
    have hphases' : phases.map (·.1) = done.map (·.1) := hphases.trans (List.append_nil _)
    have hkeys : (phases ++ [(p.channel, s.session.phase)]).map (·.1) =
        done.map (·.1) ++ [p.channel] := by
      rw [List.map_append, hphases']
      rfl
    have hnew : p.channel ∉ phases.map (·.1) := hphases' ▸ channel_notMem hpresent
    have hdone := map_sight_append (E := E) hphases hplugins [(p.channel, s.session.phase)] []
    rw [List.append_nil] at hdone
    have hsofar' := (congrArg (answerTo policy w) hdone).trans hsofar
    have hvisit : (sight E (phases ++ [(p.channel, s.session.phase)]) plugins
        (p.channel, p.data)).visit =
          ⟨p.channel, p.data, (s.session.phase.consult E p.data).1⟩ := by
      rw [sight, lookup_append_new hnew]
      rfl
    rw [hnext]
    rcases Reply.ok_or_halt (s.session.phase.consult E p.data).1 with ⟨found, hf⟩ | ⟨halt, hf⟩
    · rw [hf] at hvisit ⊢
      exact .busy hpresent hsofar' hkeys hplugins (congrArg Visit.rules hvisit)
    · rw [hf] at hvisit ⊢
      rw [Reply.follow_halt]
      refine halted hpresent hsofar' ?_ hkeys hplugins List.nil_prefix
      rw [Sight.halt?, hvisit, Visit.halt?_of_halt]

/-- The list of plugins is taken. -/
theorem takePlugins {p : Post} {found : Option Findings} (P : Strategy π)
    (h : Sound E policy w sample phases plugins (.busy p (.snapshot found)))
    (s : Scanner κ β π) :
    Sound E policy w sample phases (plugins ++ [(p.channel, s.registry.plugins)])
      (Stage.next E P sample (.busy p (.snapshot found)) s).1 := by
  cases h with
  | settled hstage => cases hstage
  | @busy _ _ done hpresent hsofar hphases hplugins htask =>
    have hplugins' : plugins.map (·.1) = done.map (·.1) := hplugins.trans (List.append_nil _)
    have hkeys : (plugins ++ [(p.channel, s.registry.plugins)]).map (·.1) =
        done.map (·.1) ++ [p.channel] := by
      rw [List.map_append, hplugins']
      rfl
    have hnew : p.channel ∉ plugins.map (·.1) := hplugins' ▸ channel_notMem hpresent
    have hdone := map_sight_append (E := E) hphases hplugins [] [(p.channel, s.registry.plugins)]
    rw [List.append_nil] at hdone
    have hlist : (sight E phases (plugins ++ [(p.channel, s.registry.plugins)])
        (p.channel, p.data)).plugins = s.registry.plugins := by
      rw [sight, lookup_append_new hnew]
      rfl
    exact .busy hpresent ((congrArg (answerTo policy w) hdone).trans hsofar) hphases hkeys
      ⟨htask, [], hlist, rfl⟩

/-- A plugin is asked. -/
theorem askPlugin {p : Post} {found : Option Findings} {plugin : Plugin} {left : List Plugin}
    {scan : PluginScan} (P : Strategy π)
    (h : Sound E policy w sample phases plugins (.busy p (.plugins found (plugin :: left) scan)))
    (s : Scanner κ β π) :
    Sound E policy w sample phases plugins
      (Stage.next E P sample (.busy p (.plugins found (plugin :: left) scan)) s).1 := by
  cases h with
  | settled hstage => cases hstage
  | @busy _ _ done hpresent hsofar hphases hplugins htask =>
    obtain ⟨hrules, asked, hasked, rfl⟩ := htask
    refine .busy hpresent hsofar hphases hplugins ⟨hrules, asked ++ [plugin], ?_, ?_⟩
    · rw [hasked, List.append_assoc]
      rfl
    · rw [Plugin.contribution_eq, PluginScan.append, List.filterMap_append, List.filterMap_append]
      cases hr : plugin.rule? p.data <;> cases hf : plugin.failure? p.data <;> simp [hr, hf]

/-- What was found on a channel is put together. -/
theorem settleChannel {p : Post} {found : Option Findings} {scan : PluginScan} (P : Strategy π)
    (h : Sound E policy w sample phases plugins (.busy p (.plugins found [] scan)))
    (s : Scanner κ β π) (hpolicy : s.onPluginFailure = policy) (hweights : s.weights = w) :
    Sound E policy w sample phases plugins
      (Stage.next E P sample (.busy p (.plugins found [] scan)) s).1 := by
  cases h with
  | settled hstage => cases hstage
  | @busy _ _ done hpresent hsofar hphases hplugins htask =>
    obtain ⟨hrules, asked, hasked, rfl⟩ := htask
    rw [List.append_nil] at hasked
    subst hpolicy hweights
    have hnext : (Stage.next E P sample (.busy p (.plugins found []
        ⟨asked.filterMap (·.rule? p.data), asked.filterMap (·.failure? p.data)⟩)) s).1 =
        (Visit.reply s.onPluginFailure s.weights asked ⟨p.channel, p.data, .ok found⟩).follow
          (.halted p.token) fun o => .before p.token (p.sofar.append o) p.rest :=
      congrArg (Reply.follow (Stage.halted p.token)
          fun o => .before p.token (p.sofar.append o) p.rest)
        (Scanner.settle_does p.token p.channel p.data found asked s).reply_eq
    have hsight : sight E phases plugins (p.channel, p.data) =
        ⟨⟨p.channel, p.data, .ok found⟩, asked⟩ := by
      rw [← hasked, ← hrules]
      rfl
    rw [hnext, Visit.reply]
    cases hv : (⟨p.channel, p.data, .ok found⟩ : Visit Channel).halt? s.onPluginFailure asked with
    | some halt =>
      dsimp only
      rw [Reply.follow_halt]
      exact halted hpresent hsofar (by rw [hsight]; exact hv) hphases hplugins List.prefix_rfl
    | none =>
      refine before p.token (done ++ [(p.channel, p.data)]) ?_ ?_ ?_ ?_
      · rw [hpresent, List.append_assoc]
        rfl
      · rw [List.map_append, answerTo_append hsofar, List.map_singleton, answerTo_singleton,
          hsight, Visit.reply, hv]
        rfl
      · rw [hphases, List.map_append]
        rfl
      · rw [hplugins, List.map_append]
        rfl

/-- **One step** of a scan keeps what is known of its answer. -/
theorem next {stage : Stage} (P : Strategy π) (h : Sound E policy w sample phases plugins stage)
    (s : Scanner κ β π) (hpolicy : s.onPluginFailure = policy) (hweights : s.weights = w) :
    Sound E policy w sample
      (phases ++ (stage.rulesAt?.map fun c => (c, s.session.phase)).toList)
      (plugins ++ (stage.snapshotAt?.map fun c => (c, s.registry.plugins)).toList)
      (stage.next E P sample s).1 := by
  cases stage with
  | entered =>
    cases h with
    | settled hstage => cases hstage
    | entered hphases hplugins =>
      subst hphases hplugins
      exact before (P.begin s.pacing).1 [] sample.buffers_eq.symm rfl rfl rfl
  | busy p task =>
    cases task with
    | rules =>
      have hstep := h.askRules P s
      rw [← List.append_nil plugins] at hstep
      exact hstep
    | snapshot found =>
      have hstep := h.takePlugins P s
      rw [← List.append_nil phases] at hstep
      exact hstep
    | wait =>
      simp only [Stage.rulesAt?, Stage.snapshotAt?, Option.map_none, Option.toList_none,
        List.append_nil]
      cases h with
      | settled hstage => cases hstage
      | busy hpresent hsofar hphases hplugins htask =>
        exact .busy hpresent hsofar hphases hplugins htask
    | plugins found left scan =>
      simp only [Stage.rulesAt?, Stage.snapshotAt?, Option.map_none, Option.toList_none,
        List.append_nil]
      cases left with
      | nil => exact h.settleChannel P s hpolicy hweights
      | cons plugin left => exact h.askPlugin P s
  | closing token reply =>
    simp only [Stage.rulesAt?, Stage.snapshotAt?, Option.map_none, Option.toList_none,
      List.append_nil]
    cases h with
    | settled hstage hreply hsofar hall hseen => exact .settled hstage hreply hsofar hall hseen
  | finished reply =>
    simp only [Stage.rulesAt?, Stage.snapshotAt?, Option.map_none, Option.toList_none,
      List.append_nil]
    exact h

/-- What was seen, at every stage. -/
theorem inOrder {stage : Stage} (h : Sound E policy w sample phases plugins stage) :
    SeenInOrder sample phases plugins := by
  cases h with
  | entered hphases hplugins =>
    subst hphases hplugins
    exact ⟨List.nil_prefix, List.nil_prefix, Nat.zero_le _⟩
  | @busy p task done hpresent hsofar hphases hplugins htask =>
    refine seenInOrder hpresent hphases ?_ hplugins ?_
    · cases task <;> first | exact List.nil_prefix | exact List.prefix_rfl
    · cases task <;> first | exact List.nil_prefix | exact List.prefix_rfl
  | settled hstage hreply hsofar hall hseen => exact hseen

/-- A settled reply is the one that is told from what was seen, on all channels if it is an
answer; what was not seen does not matter. -/
theorem reply_eq {stage : Stage} {reply : Reply Outcome}
    (h : Sound E policy w sample phases plugins stage) (hstage : stage.reply? = some reply) :
    reply = answerTo policy w (sample.present.map (sight E phases plugins)) ∧
      reply = answerTo policy w
        ((sample.present.map (sight E phases plugins)).take phases.length) ∧
      (reply.isOk → plugins.map (·.1) = sample.present.map (·.1)) := by
  cases h with
  | entered hphases hplugins => cases hstage
  | busy hpresent hsofar hphases hplugins htask => cases hstage
  | settled hstage' hreply hsofar hall hseen =>
    obtain rfl := Option.some.inj (hstage.symm.trans hstage')
    exact ⟨hreply, hsofar, hall⟩

end Sound

/-! ## Settled replies -/

theorem Stage.next_reply? {stage : Stage} {reply : Reply Outcome} (h : stage.reply? = some reply)
    (E : Engine κ β) (P : Strategy π) (sample : Sample) (s : Scanner κ β π) :
    (stage.next E P sample s).1.reply? = some reply := by
  cases stage with
  | entered => cases h
  | busy p task => cases h
  | closing token r => exact h
  | finished r => exact h

/-- Whether a session has nothing left to work with. -/
def Status.isBroken : Status → Bool
  | .buildFailed => true
  | .closed => true
  | _ => false

/-- Asking the rules of a session that has none settles the reply: it is the misuse of the
status. -/
theorem Stage.next_of_isBroken {s : Scanner κ β π} (hs : s.session.status.isBroken)
    (E : Engine κ β) (P : Strategy π) (sample : Sample) (p : Post) :
    (Stage.next E P sample (.busy p .rules) s).1.reply? =
      some (.error (.misuse s.session.status.misuse)) := by
  obtain ⟨⟨phase, space, sources⟩, registry, pacing, weights, policy⟩ := s
  cases phase with
  | ingesting c => cases hs
  | built b => cases hs
  | buildFailed => rfl
  | closed => rfl

theorem Stage.rulesAt?_eq_some {stage : Stage} {c : Channel} (h : stage.rulesAt? = some c) :
    ∃ p : Post, stage = .busy p .rules ∧ p.channel = c := by
  cases stage with
  | busy p task =>
    cases task with
    | rules => exact ⟨p, rfl, Option.some.inj h⟩
    | _ => cases h
  | _ => cases h

namespace Session

theorem nextStatus_isBroken {status : Status} (h : status.isBroken) (op : Operation) (ok : Bool) :
    (nextStatus op ok status).isBroken := by
  unfold nextStatus
  split
  · rfl
  · split
    · next hbuild =>
      rw [hbuild.2] at h
      cases h
    · exact h

/-- A session that has nothing left to work with does not get anything. -/
theorem after_isBroken (E : Engine κ β) {s : Session κ β} (h : s.status.isBroken)
    (ops : List Operation) : (after E s ops).status.isBroken := by
  induction ops generalizing s with
  | nil => exact h
  | cons op rest ih =>
    refine ih ?_
    rw [status, (perform_effect E op s).status_eq]
    exact nextStatus_isBroken h op _

end Session

namespace World

variable (E : Engine κ β) (P : Strategy π)

/-! ## Runs -/

theorem seen_concat {γ : Type} (at? : Stage → Option Channel) (read : Scanner κ β π → γ) (i : Nat)
    (h : List (Moment κ β π)) (m : Moment κ β π) :
    seen at? read i (h ++ [m]) = seen at? read i h ++ (((m.stage? i).bind at?).map fun c =>
      (c, read m.before.shared)).toList := by
  rw [seen, List.filterMap_append, List.filterMap_cons, List.filterMap_nil]
  cases (((m.stage? i).bind at?).map fun c => (c, read m.before.shared)) <;> rfl

/-- **What every thread saw tells its answer**, as far as it got. A thread that is not there saw
nothing. -/
theorem sound {w : World κ β π} (hw : w.parties = []) (moves : List Move) (i : Nat) :
    ((w.after (conduct E P) moves).parties[i]?).elim
      (phasesSeen i (w.history (conduct E P) moves) = [] ∧
        pluginsSeen i (w.history (conduct E P) moves) = [])
      fun t => Sound E w.shared.onPluginFailure w.shared.weights t.errand
        (phasesSeen i (w.history (conduct E P) moves))
        (pluginsSeen i (w.history (conduct E P) moves)) t.stage := by
  induction moves using List.reverseRecOn with
  | nil =>
    have hnone : (w.after (conduct E P) []).parties[i]? = none := by
      rw [Crowd.after_nil, hw]
      rfl
    rw [hnone]
    exact ⟨rfl, rfl⟩
  | append_singleton first m ih =>
    obtain ⟨hweights, hpolicy⟩ := after_settings E P w first
    have htake := Crowd.party_take (conduct E P) i (w.after (conduct E P) first) m
    rw [Crowd.after_concat, Crowd.history_concat]
    simp only [phasesSeen, pluginsSeen, seen_concat] at ih ⊢
    generalize ((w.after (conduct E P) first).take (conduct E P) m).1.parties[i]? = o at htake
    cases htake with
    | @advance t ht =>
      rw [ht] at ih
      rw [Crowd.stage?_occasion, Crowd.stage?, ht]
      exact ih.next P (w.after (conduct E P) first).shared hpolicy hweights
    | enter hi =>
      rw [hi] at ih
      rw [Crowd.occasion_stage?_eq_none _ fun h => by cases h]
      simp only [Option.bind_none, Option.map_none, Option.toList_none, List.append_nil]
      exact .entered ih.1 ih.2
    | stay hm =>
      rw [Crowd.occasion_stage?_eq_none _ hm]
      simp only [Option.bind_none, Option.map_none, Option.toList_none, List.append_nil]
      exact ih

/-! ## Refusals -/

/-- A settled reply stays. -/
theorem after_reply? {w : World κ β π} {i : Nat} {t : Party Sample Stage} {reply : Reply Outcome}
    (ht : w.parties[i]? = some t) (hreply : t.stage.reply? = some reply) (moves : List Move) :
    ∃ t', (w.after (conduct E P) moves).parties[i]? = some t' ∧
      t'.stage.reply? = some reply := by
  induction moves generalizing w t with
  | nil => exact ⟨t, ht, hreply⟩
  | cons m rest ih =>
    have htake := Crowd.party_take (conduct E P) i w m
    rw [Crowd.after_cons]
    generalize ho : (w.take (conduct E P) m).1.parties[i]? = o at htake
    cases htake with
    | @advance u hu =>
      obtain rfl : t = u := Option.some.inj (ht.symm.trans hu)
      exact ih ho (t.stage.next_reply? hreply E P t.errand w.shared)
    | enter hi => exact absurd (ht.symm.trans hi) (by simp)
    | stay hm => exact ih (ho.trans ht) hreply

/-- **A scan that asks the rules of a broken session** ends with the misuse of its status. -/
theorem refused_of_isBroken {w : World κ β π} {moves : List Move} {m : Moment κ β π} {i : Nat}
    {c : Channel} (hm : m ∈ w.history (conduct E P) moves)
    (hc : (m.stage? i).bind Stage.rulesAt? = some c)
    (hbroken : m.before.shared.session.status.isBroken) :
    ∃ t, (w.after (conduct E P) moves).parties[i]? = some t ∧
      t.stage.reply? = some (.error (.misuse m.before.shared.session.status.misuse)) := by
  obtain ⟨first, rest, hmoves, hoccasion⟩ := Crowd.split_of_mem _ hm
  obtain ⟨stage, hstage, hrules⟩ := Option.bind_eq_some_iff.1 hc
  obtain ⟨hturn, sample, hparty⟩ := Crowd.occasion_stage?_eq_some hstage
  obtain ⟨p, rfl, -⟩ := Stage.rulesAt?_eq_some hrules
  have hbefore : m.before = w.after (conduct E P) first := congrArg Occasion.before hoccasion
  have hnext := Crowd.take_advance_party (conduct E P) hparty
  rw [hmoves, Crowd.after_append, Crowd.after_cons, ← hbefore, hturn]
  exact after_reply? E P hnext (Stage.next_of_isBroken hbroken E P sample p) rest

theorem session_of_mem {w : World κ β π} {moves : List Move} {m : Moment κ β π}
    (hm : m ∈ w.history (conduct E P) moves) :
    ∃ ops, m.before.shared.session = Session.after E w.shared.session ops := by
  obtain ⟨first, rest, -, hoccasion⟩ := Crowd.split_of_mem _ hm
  rw [hoccasion]
  exact ⟨operations E P w first, (run_session E P w first).1⟩

theorem closed_of_mem {w : World κ β π} {moves : List Move} {m : Moment κ β π}
    (hw : w.shared.session.phase = .closed) (hm : m ∈ w.history (conduct E P) moves) :
    m.before.shared.session.status = .closed := by
  obtain ⟨ops, hops⟩ := session_of_mem E P hm
  rw [hops, Session.status, (Session.run_of_closed E hw ops).1]
  rfl

theorem isBroken_of_mem {w : World κ β π} {moves : List Move} {m : Moment κ β π}
    (hw : w.shared.session.status.isBroken) (hm : m ∈ w.history (conduct E P) moves) :
    m.before.shared.session.status.isBroken := by
  obtain ⟨ops, hops⟩ := session_of_mem E P hm
  rw [hops]
  exact Session.after_isBroken E hw ops

/-- A build that fails breaks the session. -/
theorem isBroken_of_failed_build {w : World κ β π} {announce : Bool}
    (hw : w.shared.session.status = .ingesting)
    (hfail : (Session.perform E (.build announce) w.shared.session).reply.isOk = false) :
    (w.take (conduct E P)
      (.aside (.session (.build announce)))).1.shared.session.status.isBroken := by
  have hnext := (Session.perform_effect E (.build announce) w.shared.session).status_eq
  rw [hfail] at hnext
  have hstatus : (w.take (conduct E P)
      (.aside (.session (.build announce)))).1.shared.session.status =
        Session.nextStatus (.build announce) false w.shared.session.status := hnext
  rw [hstatus, hw]
  rfl

/-! ## All runs -/

/-- The world of a scanner with a new session, which starts with a compiler or with a backend. -/
def start (o : κ ⊕ β) (s : Scanner κ β π) : World κ β π :=
  { shared := { s with session := Session.start o } }

/-- What holds of a scanner that is used by many threads at once, from its start on and after some
moves. -/
structure Orderly (o : κ ⊕ β) (w : World κ β π) (moves : List Move) : Prop where
  /-- A scan that nothing comes in between is the scan as it is defined. -/
  undisturbed : ∀ sample,
    let v := w.after (conduct E P) moves
    let scan := Scanner.scanDetailed E P sample v.shared
    ∃ n, v.after (conduct E P) (.enter sample :: List.replicate n (.advance v.parties.length)) =
        ⟨scan.state, v.parties ++ [⟨sample, .finished scan.reply⟩]⟩ ∧
      v.trace (conduct E P) (.enter sample :: List.replicate n (.advance v.parties.length)) =
        scan.trace
  /-- The threads are those that entered, in this order. -/
  samples_eq :
    (w.after (conduct E P) moves).parties.map (·.errand) = moves.filterMap Turn.errand?
  /-- A reply is told from the phases and the plugins that a thread saw. Channels whose rules were
  not asked have no part in it, and for an answer there are none of these. -/
  reply_eq : ∀ i t reply, (w.after (conduct E P) moves).parties[i]? = some t →
    t.stage.reply? = some reply →
    let h := w.history (conduct E P) moves
    let sights := t.errand.present.map (sight E (phasesSeen i h) (pluginsSeen i h))
    reply = answerTo w.shared.onPluginFailure w.shared.weights sights ∧
      reply = answerTo w.shared.onPluginFailure w.shared.weights
        (sights.take (phasesSeen i h).length) ∧
      (reply.isOk → (pluginsSeen i h).map (·.1) = t.errand.present.map (·.1))
  seen_in_order : ∀ i t, (w.after (conduct E P) moves).parties[i]? = some t →
    SeenInOrder t.errand (phasesSeen i (w.history (conduct E P) moves))
      (pluginsSeen i (w.history (conduct E P) moves))
  /-- A scan that is always gone on with is over at some time, whatever comes in between. -/
  finished_of_fair : ∀ (run : ℕ → Move) i t,
    (w.after (conduct E P) moves).parties[i]? = some t →
    (∀ n, ∃ m, n ≤ m ∧ run m = .advance i) →
    ∃ m t', ((w.after (conduct E P) moves).stateAt (conduct E P) run m).parties[i]? = some t' ∧
      t'.errand = t.errand ∧ t'.stage.isFinished
  /-- The session goes through a run of operations, to which scans add those of their steps. -/
  session_run :
    let ops := operations E P w moves
    (w.after (conduct E P) moves).shared.session = Session.after E (Session.start o) ops ∧
      engineCalls (w.trace (conduct E P) moves) =
        calls (Session.history E (Session.start o) ops)
  /-- All calls that reach a compiler or a backend are legal together. -/
  calls_legal : Session.Legal E o (engineCalls (w.trace (conduct E P) moves) ++
    calls (Session.drop E (w.after (conduct E P) moves).shared.session))
  silent_after_close : ∀ first rest, moves = first ++ .aside (.session .close) :: rest →
    engineCalls ((w.after (conduct E P) (first ++ [.aside (.session .close)])).trace
      (conduct E P) rest) = []
  /-- A scan that asks the rules after a close is refused. -/
  refused_after_close : ∀ first rest, moves = first ++ .aside (.session .close) :: rest →
    ∀ m ∈ (w.after (conduct E P) (first ++ [.aside (.session .close)])).history
      (conduct E P) rest,
    ∀ i c, (m.stage? i).bind Stage.rulesAt? = some c →
      ∃ t, (w.after (conduct E P) moves).parties[i]? = some t ∧
        t.stage.reply? = some (.error (.misuse .closed))
  /-- So is one that asks them after a build that failed; if the session was closed since, this is
  what it is told. -/
  refused_after_failed_build : ∀ first announce rest,
    moves = first ++ .aside (.session (.build announce)) :: rest →
    (w.after (conduct E P) first).shared.session.status = .ingesting →
    (Session.perform E (.build announce)
      (w.after (conduct E P) first).shared.session).reply.isOk = false →
    ∀ m ∈ (w.after (conduct E P) (first ++ [.aside (.session (.build announce))])).history
      (conduct E P) rest,
    ∀ i c, (m.stage? i).bind Stage.rulesAt? = some c →
      (m.before.shared.session.status = .buildFailed ∨
        m.before.shared.session.status = .closed) ∧
      ∃ t, (w.after (conduct E P) moves).parties[i]? = some t ∧
        t.stage.reply? = some (.error (.misuse m.before.shared.session.status.misuse))

theorem after_close_phase (w : World κ β π) (first : List Move) :
    (w.after (conduct E P)
      (first ++ [.aside (.session .close)])).shared.session.phase = .closed := by
  rw [Crowd.after_concat]
  exact Session.perform_close_phase E _

/-- **Every run is orderly**, for every engine and every strategy, whatever the session starts with,
whatever the plugins are and however the scanner is set up, and for all moves in any order. -/
theorem runs_orderly (o : κ ⊕ β) (s : Scanner κ β π) (moves : List Move) :
    Orderly E P o (start o s) moves where
  undisturbed sample :=
    Crowd.after_alone (conduct E P) (Scanner.scanDetailed_alone E P _ _ sample _)
  samples_eq := Crowd.after_errands (conduct E P) (start o s) moves
  reply_eq i t reply ht hreply := by
    have hsound := sound E P (w := start o s) rfl moves i
    rw [ht] at hsound
    exact hsound.reply_eq hreply
  seen_in_order i t ht := by
    have hsound := sound E P (w := start o s) rfl moves i
    rw [ht] at hsound
    exact hsound.inOrder
  finished_of_fair run i t ht hfair := by
    have hstart : (((start o s).after (conduct E P) moves).stateAt
        (conduct E P) run 0).parties[i]? = some t := ht
    exact World.finished_of_fair E P hfair hstart
  session_run := run_session E P (start o s) moves
  calls_legal := by
    obtain ⟨hsession, hcalls⟩ := run_session E P (start o s) moves
    have hlegal := ((Session.Reached.start o).run (E := E)
      (operations E P (start o s) moves)).legal
    rw [List.nil_append] at hlegal
    rw [hsession, hcalls, Session.drop_calls]
    exact hlegal
  silent_after_close first rest _ := by
    rw [(run_session E P _ rest).2]
    exact (Session.run_of_closed E (after_close_phase E P _ first) _).2
  refused_after_close first rest hmoves m hm i c hc := by
    have hclosed := closed_of_mem E P (after_close_phase E P _ first) hm
    have hrefused := refused_of_isBroken E P hm hc (by rw [hclosed]; rfl)
    rw [hclosed, ← Crowd.after_split, ← hmoves] at hrefused
    exact hrefused
  refused_after_failed_build first announce rest hmoves hstatus hfail m hm i c hc := by
    have hfailed := isBroken_of_failed_build E P hstatus hfail
    rw [← Crowd.after_concat] at hfailed
    have hbroken := isBroken_of_mem E P hfailed hm
    have hrefused := refused_of_isBroken E P hm hc hbroken
    rw [← Crowd.after_split, ← hmoves] at hrefused
    refine ⟨?_, hrefused⟩
    revert hbroken
    cases m.before.shared.session.status with
    | ingesting => exact fun h => by cases h
    | built => exact fun h => by cases h
    | buildFailed => exact fun _ => .inl rfl
    | closed => exact fun _ => .inr rfl

/-- A scan of two buffers, with a close between them: what was found in the first one is not
answered. -/
example :
    let s : Scanner Scripted.Compiler Scripted.Backend Pacer :=
      { session := .ofBackend {}, pacing := .unthrottled 0 }
    let found : Findings := { rules := [{ identifier := "r", space := "s" }] }
    let w := start (.inr { hits := [(.empty, found)] }) s
    let step : Move := .advance 0
    let moves := [.enter { content := some .empty, comment := some .empty }, step, step, step, step,
      step, .aside (.session .close), step, step, step]
    (w.after (conduct Scripted.engine Pacer.strategy) moves).parties.map (·.stage) =
      [.finished (.error (.misuse .closed))] := by
  rfl

end World

end RuleScan
