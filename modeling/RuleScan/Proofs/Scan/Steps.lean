import RuleScan.Proofs.Carries
import RuleScan.Proofs.Scan.Reference

/-!
# Scans in steps

A scan of a sample that runs beside others is not done at once. It begins its batch; before each
buffer it waits, asks the rules, and takes the list of plugins that are there by then; it asks these
one by one, puts together what was found, and at last finishes its batch. `Stage` is where a scan is
between two such steps, and `Stage.next` does one step, with the operations of which scans are made.

Steps that follow each other without anything in between are a scan: `scanDetailed_alone` goes
through the definition of a scan, with one lemma for each part of it.
-/

namespace RuleScan

variable {κ β π ω α γ : Type}

namespace PluginScan

@[simp] theorem append_none (a : PluginScan) : a.append {} = a := by simp [append]

@[simp] theorem none_append (a : PluginScan) : append {} a = a := rfl

theorem append_assoc (a b c : PluginScan) : (a.append b).append c = a.append (b.append c) := by
  simp [append]

end PluginScan

namespace Outcome

@[simp] theorem append_none (a : Outcome) : a.append {} = a := by simp [append]

@[simp] theorem none_append (a : Outcome) : append {} a = a := rfl

theorem append_assoc (a b c : Outcome) : (a.append b).append c = a.append (b.append c) := by
  simp [append]

end Outcome

namespace Scanner

/-- Does something with the pacing strategy. -/
def onPacing (x : Action π α) : Action (Scanner κ β π) α :=
  .zoom (·.pacing) (fun s pacing => { s with pacing }) x

end Scanner

/-! ## Stages -/

/-- A buffer that a scan is at: its batch, the buffers after it, and what the ones before it
gave. -/
structure Post where
  token : Nat
  channel : Channel
  data : ByteArray
  rest : List (Channel × ByteArray)
  sofar : Outcome

/-- What is to be done next at a buffer. -/
inductive Task
  | wait
  | rules
  /-- Take the list of plugins. -/
  | snapshot (found : Option Findings)
  /-- Ask the next of the plugins that are left, or put together what was found. -/
  | plugins (found : Option Findings) (left : List Plugin) (scan : PluginScan)

/-- Where a scan is between two steps. -/
inductive Stage
  | entered
  | busy (post : Post) (task : Task)
  /-- The reply is settled, but the batch is not finished. -/
  | closing (token : Nat) (reply : Reply Outcome)
  | finished (reply : Reply Outcome)

namespace Stage

/-- The stage before some buffers. -/
def before (token : Nat) (sofar : Outcome) : List (Channel × ByteArray) → Stage
  | [] => .closing token (.ok sofar)
  | (channel, data) :: rest => .busy ⟨token, channel, data, rest, sofar⟩ .wait

/-- The scan ends, without an answer. -/
def halted (token : Nat) (h : Halt) : Stage := .closing token h.reply

open Scanner in
/-- One step of a scan. -/
def next (E : Engine κ β) (P : Strategy π) (sample : Sample) :
    Stage → Scanner κ β π → Stage × Scanner κ β π × List Event
  | .entered =>
    (onPacing P.beginBatch).into
      (Reply.follow (fun h => .finished h.reply) fun token => before token {} sample.buffers)
  | .busy p .wait => (pause P p.token).into (Reply.follow (halted p.token) fun _ => .busy p .rules)
  | .busy p .rules =>
    (scanRules E p.data).into
      (Reply.follow (halted p.token) fun found => .busy p (.snapshot found))
  | .busy p (.snapshot found) =>
    (onRegistry .get).into
      (Reply.follow (halted p.token) fun r => .busy p (.plugins found r.plugins {}))
  | .busy p (.plugins found (plugin :: left) scan) =>
    (onRegistry (Registry.ask p.data plugin)).into
      (Reply.follow (halted p.token) fun one => .busy p (.plugins found left (scan.append one)))
  | .busy p (.plugins found [] scan) =>
    (settle p.token p.channel p.data found scan).into
      (Reply.follow (halted p.token) fun outcome =>
        before p.token (p.sofar.append outcome) p.rest)
  | .closing token reply => (onPacing (P.finishBatch token)).into fun _ => .finished reply
  | .finished reply => fun s => (.finished reply, s, [])

/-- How scans of samples behave that share a scanner, with which other things are done as well. -/
def conduct (E : Engine κ β) (P : Strategy π)
    (aside : ω → Scanner κ β π → Scanner κ β π × List Event) :
    Conduct (Scanner κ β π) Sample Stage ω where
  start _ := .entered
  step _ := next E P
  aside := aside

end Stage

/-! ## Uninterrupted steps -/

namespace Scanner

open Crowd (Carries)

variable (E : Engine κ β) (P : Strategy π)
  (aside : ω → Scanner κ β π → Scanner κ β π × List Event) (i : Nat) (sample : Sample)

theorem onRegistry_bind (x : Action Registry α) (f : α → Action Registry γ) :
    (onRegistry (x.bind f) : Action (Scanner κ β π) γ) =
      (onRegistry x).bind fun a => onRegistry (f a) := by
  funext s
  have hreply : (onRegistry x s).reply = (x s.registry).reply := rfl
  rcases hr : (x s.registry).reply with a | e | words
  · rw [Action.bind_of_ok (hreply.trans hr), onRegistry, Action.zoom, Action.bind_of_ok hr]
    rfl
  · rw [Action.bind_of_error (hreply.trans hr), onRegistry, Action.zoom, Action.bind_of_error hr]
    rfl
  · rw [Action.bind_of_crash (hreply.trans hr), onRegistry, Action.zoom, Action.bind_of_crash hr]
    rfl

/-- Asking plugins one by one. -/
theorem askEach_carries (p : Post) (found : Option Findings) (left : List Plugin)
    (scan : PluginScan) :
    Carries (Stage.conduct E P aside) i sample (onRegistry (Registry.askEach p.data left))
      (.busy p (.plugins found left scan)) (.halted p.token)
      fun more => .busy p (.plugins found [] (scan.append more)) := by
  induction left generalizing scan with
  | nil =>
    have hstage : Stage.busy p (.plugins found [] (scan.append {})) =
      .busy p (.plugins found [] scan) := by rw [PluginScan.append_none]
    exact .pure hstage
  | cons plugin left ih =>
    simp only [Registry.askEach, Action.bind_eq, Action.pure_eq, onRegistry_bind]
    refine .bind (.one rfl) fun one => ?_
    have hrest := ih (scan.append one)
    simp only [PluginScan.append_assoc] at hrest
    exact .map hrest

theorem askPlugins_carries (p : Post) (found : Option Findings) :
    Carries (Stage.conduct E P aside) i sample (askPlugins p.token p.channel p.data found)
      (.busy p (.snapshot found)) (.halted p.token)
      fun outcome => .before p.token (p.sofar.append outcome) p.rest := by
  have hsettle (scan : PluginScan) :
      Carries (Stage.conduct E P aside) i sample (settle p.token p.channel p.data found scan)
        (.busy p (.plugins found [] scan)) (.halted p.token)
        fun outcome => .before p.token (p.sofar.append outcome) p.rest := .one rfl
  rw [askPlugins_eq]
  refine .bind ?_ hsettle
  simp only [scanPlugins, Registry.scanAll, Action.bind_eq, onRegistry_bind]
  exact .bind (.one rfl) fun r => askEach_carries E P aside i sample p found r.plugins {}

/-- **One channel**, step by step. -/
theorem scanChannel_carries (p : Post) :
    Carries (Stage.conduct E P aside) i sample (scanChannel E P p.token p.channel p.data)
      (.busy p .wait) (.halted p.token)
      fun outcome => .before p.token (p.sofar.append outcome) p.rest :=
  .bind (.one rfl) fun _ =>
    .bind (.one rfl) fun found => askPlugins_carries E P aside i sample p found

/-- Some channels. -/
theorem scanChannels_carries (token : Nat) (sofar : Outcome)
    (buffers : List (Channel × ByteArray)) :
    Carries (Stage.conduct E P aside) i sample (scanChannels E P token buffers)
      (.before token sofar buffers) (.halted token)
      fun outcome => .closing token (.ok (sofar.append outcome)) := by
  induction buffers generalizing sofar with
  | nil => exact .pure (congrArg (fun o => Stage.closing token (.ok o)) sofar.append_none)
  | cons b rest ih =>
    obtain ⟨c, data⟩ := b
    simp only [scanChannels, Action.bind_eq, Action.pure_eq]
    refine .bind (scanChannel_carries E P aside i sample ⟨token, c, data, rest, sofar⟩)
      fun first => ?_
    have hrest := ih (sofar.append first)
    simp only [Outcome.append_assoc] at hrest
    exact .map hrest

/-- **A scan is its steps**: from the start they lead to its reply, with its trace and the state
that it leaves. -/
theorem scanDetailed_alone (s : Scanner κ β π) :
    Crowd.Alone (Stage.conduct E P aside) i sample .entered s (scanDetailed E P sample s).trace
      (.finished (scanDetailed E P sample s).reply) (scanDetailed E P sample s).state := by
  have hbegin : (onPacing P.beginBatch s).reply = .ok (P.begin s.pacing).1 := rfl
  have hscan : scanDetailed E P sample s = ((onPacing P.beginBatch).bind fun token =>
    (scanChannels E P token sample.buffers).always (onPacing (P.finishBatch token))) s := rfl
  have hchannels :=
    scanChannels_carries E P aside i sample (P.begin s.pacing).1 {} sample.buffers
  simp only [Outcome.none_append] at hchannels
  have hrest := hchannels.always (Stage.closing (P.begin s.pacing).1) Stage.finished
    (fun _ => rfl) (onPacing P.beginBatch s).state
  rw [hscan, Action.bind_of_ok hbegin]
  exact .step rfl hrest

end Scanner

end RuleScan
