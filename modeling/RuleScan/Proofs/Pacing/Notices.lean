import RuleScan.Proofs.Scan.BatchSteps
import RuleScan.Proofs.Scan.Threads

/-!
# What a strategy is told

A strategy is told when a batch begins, before each of its buffers, and when it is finished, each
time with the token of the batch (`Notice`). As far as its batch goes, scans of samples and scans of
some buffers do the same: `BatchView` forgets all else about their stages, and `BatchView.Advance`
says what one step tells the strategy (`Stage.next_view`, `BatchStage.next_view`). What a scan told
up to any moment follows from that, step by step (`BatchView.Course.next`).
-/

namespace RuleScan

variable {κ β α γ : Type}

/-! ## What a strategy is told -/

/-- What a strategy is told about the batch with some token. -/
inductive Notice
  | begin (token : Nat)
  | step (token : Nat)
  | finish (token : Nat)
  deriving DecidableEq

namespace Notice

/-- The batch that it is about. -/
def token : Notice → Nat
  | begin t => t
  | step t => t
  | finish t => t

/-- The token that is handed out. -/
def begun? : Notice → Option Nat
  | begin t => some t
  | _ => none

/-- What a call tells a strategy, if anything. A batch that begins is given a token. -/
def ofCall? (p : Pacer) : Call → Option Notice
  | .begin => some (begin p.begin.1)
  | .step t => some (step t)
  | .finish t => some (finish t)
  | _ => none

end Notice

/-- What a trace tells a strategy. -/
def notices (p : Pacer) (trace : List Event) : List Notice :=
  (calls trace).filterMap (Notice.ofCall? p)

/-- The tokens that are handed out, in the order of the beginnings. -/
def tokens (told : List Notice) : List Nat := told.filterMap Notice.begun?

/-- What is told of a batch that has begun, after a step before each of some buffers. -/
def stepped (token : Nat) (buffers : List ByteArray) : List Notice :=
  .begin token :: buffers.map fun _ => .step token

theorem notices_of_calls {trace : List Event} {cs : List Call} (h : calls trace = cs) (p : Pacer) :
    notices p trace = cs.filterMap (Notice.ofCall? p) := by
  rw [notices, h]

theorem tokens_append (told told' : List Notice) :
    tokens (told ++ told') = tokens told ++ tokens told' :=
  List.filterMap_append

theorem mem_tokens {t : Nat} {told : List Notice} : t ∈ tokens told ↔ .begin t ∈ told := by
  rw [tokens, List.mem_filterMap]
  constructor
  · rintro ⟨n, hn, hbegun⟩
    cases n with
    | begin t' => cases hbegun; exact hn
    | _ => cases hbegun
  · exact fun h => ⟨_, h, rfl⟩

theorem stepped_concat (token : Nat) (buffers : List ByteArray) (data : ByteArray) :
    stepped token (buffers ++ [data]) = stepped token buffers ++ [.step token] := by
  rw [stepped, List.map_append]
  rfl

theorem token_of_stepped {token : Nat} {buffers : List ByteArray} {n : Notice}
    (hn : n ∈ stepped token buffers) : n.token = token := by
  rcases List.mem_cons.1 hn with rfl | hn
  · rfl
  · obtain ⟨_, -, rfl⟩ := List.mem_map.1 hn
    rfl

theorem token_of_stepped_concat {token : Nat} {buffers : List ByteArray} {last n : Notice}
    (hlast : last.token = token) (hn : n ∈ stepped token buffers ++ [last]) : n.token = token := by
  rcases List.mem_append.1 hn with hn | hn
  · exact token_of_stepped hn
  · rw [List.mem_singleton.1 hn, hlast]

/-- What a strategy is told with the token of a scan of some buffers, and the buffers about which
the scan asked the rules. -/
structure Batch (buffers : List ByteArray) (token : Nat) (told : List Notice)
    (asked : List ByteArray) (ended? : Option Bool) : Prop where
  /-- The rules are asked about one buffer after the other. -/
  asked_first : ∃ left, buffers = asked ++ left
  /-- The batch begins, with a step before each of these; the next one may have been taken. -/
  running : ended? = none →
    told = stepped token asked ∨ told = stepped token asked ++ [.step token]
  /-- Once the scan is over, the batch was finished, after all else and once, also if there is no
  answer. -/
  finished : ∀ ok, ended? = some ok → told = stepped token asked ++ [.finish token]
  /-- With an answer, no buffer was left out. -/
  answered : ended? = some true → asked = buffers

namespace Pacer

/-- A strategy that was just made: one that never waits, or one with a fixed delay. -/
def fresh : Option Duration → Pacer
  | none => .unthrottled 0
  | some d => .fixedDelay d 0 false

/-- Whether a strategy counts its batches. -/
def counts : Pacer → Bool
  | recording _ => false
  | _ => true

theorem begin_token {p : Pacer} (h : p.counts) : p.begin.1 = p.begun + 1 := by
  cases p with
  | recording t => cases h
  | _ => rfl

theorem begin_counts {p : Pacer} (h : p.counts) :
    p.begin.2.1.counts ∧ p.begin.2.1.begun = p.begun + 1 := by
  cases p with
  | recording t => cases h
  | _ => exact ⟨rfl, rfl⟩

theorem interrupt_counts (p : Pacer) :
    p.interrupt.1.counts = p.counts ∧ p.interrupt.1.begun = p.begun := by
  cases p <;> exact ⟨rfl, rfl⟩

theorem interrupt_silent (p : Pacer) : calls p.interrupt.2 = [] := by
  cases p <;> rfl

theorem resume_counts (p : Pacer) : p.resume.counts = p.counts ∧ p.resume.begun = p.begun := by
  cases p <;> exact ⟨rfl, rfl⟩

theorem strategy_step (p : Pacer) (token : Nat) : (strategy.step token p).1 = p := by
  cases p <;> rfl

theorem strategy_finish (p : Pacer) (token : Nat) : (strategy.finish token p).1 = p := by
  cases p <;> rfl

end Pacer

/-! ## Scans as batches -/

/-- Where a scan is, as far as its batch goes. -/
inductive BatchView
  | entered
  /-- The batch has begun, and these buffers are left. -/
  | before (token : Nat) (left : List ByteArray)
  /-- The step before a buffer was taken. -/
  | asking (token : Nat) (data : ByteArray) (left : List ByteArray)
  /-- The scan ends, with an answer or without. -/
  | closing (token : Nat) (ok : Bool)
  | finished (ok : Bool)

namespace BatchView

/-- Where a batch can be that has buffers left. It does not end with an answer before they are
done. -/
inductive Onward (token : Nat) (left : List ByteArray) : BatchView → Prop
  | before : Onward token left (.before token left)
  | halted : Onward token left (.closing token false)
  | done (h : left = []) : Onward token left (.closing token true)

/-- What comes after a reply, where it is seen as the stage of a batch. -/
theorem Onward.follow (f : γ → BatchView) {token : Nat} {left : List ByteArray} {halted : Halt → γ}
    {goOn : α → γ} (hhalted : ∀ h, f (halted h) = .closing token false)
    (hgoOn : ∀ a, Onward token left (f (goOn a))) (r : Reply α) :
    Onward token left (f (r.follow halted goOn)) :=
  Reply.follow_cases (p := fun stage => Onward token left (f stage)) halted goOn
    (fun h => hhalted h ▸ .halted) hgoOn r

/-- What a step of a scan of some buffers does: what it tells the strategy, the buffer about which
the rules are asked, and what becomes of the strategy. -/
inductive Advance (buffers : List ByteArray) (p : Pacer) :
    BatchView → List Notice → List ByteArray → BatchView → Pacer → Prop
  | begin {v : BatchView} (h : Onward p.begin.1 buffers v) :
      Advance buffers p .entered [.begin p.begin.1] [] v p.begin.2.1
  | wait (token : Nat) (data : ByteArray) (left : List ByteArray) :
      Advance buffers p (.before token (data :: left)) [.step token] [] (.asking token data left) p
  | ask {token : Nat} {data : ByteArray} {left : List ByteArray} {v : BatchView}
      (h : Onward token left v) : Advance buffers p (.asking token data left) [] [data] v p
  | go {token : Nat} {left : List ByteArray} {v : BatchView} (h : Onward token left v) :
      Advance buffers p (.before token left) [] [] v p
  | finish (token : Nat) (ok : Bool) :
      Advance buffers p (.closing token ok) [.finish token] [] (.finished ok) p
  | stay (ok : Bool) : Advance buffers p (.finished ok) [] [] (.finished ok) p

/-- **What a scan of some buffers told** up to where it is, and the buffers about which the rules
were asked. -/
inductive Course (buffers : List ByteArray) : List Notice → List ByteArray → BatchView → Prop
  | entered : Course buffers [] [] .entered
  | before {token : Nat} {done left : List ByteArray} (h : buffers = done ++ left) :
      Course buffers (stepped token done) done (.before token left)
  | asking {token : Nat} {done left : List ByteArray} {data : ByteArray}
      (h : buffers = done ++ data :: left) :
      Course buffers (stepped token done ++ [.step token]) done (.asking token data left)
  | closing {token : Nat} {done left : List ByteArray} {ok : Bool} (h : buffers = done ++ left)
      (hok : ok = true → left = []) : Course buffers (stepped token done) done (.closing token ok)
  | finished {token : Nat} {done left : List ByteArray} {ok : Bool} (h : buffers = done ++ left)
      (hok : ok = true → left = []) :
      Course buffers (stepped token done ++ [.finish token]) done (.finished ok)

theorem Course.onward {buffers done left : List ByteArray} {token : Nat} {v : BatchView}
    (h : buffers = done ++ left) (hv : Onward token left v) :
    Course buffers (stepped token done) done v := by
  cases hv with
  | before => exact .before h
  | halted => exact .closing h fun hok => by cases hok
  | done hleft => exact .closing h fun _ => hleft

/-- **One step further.** -/
theorem Course.next {buffers : List ByteArray} {told told' : List Notice}
    {asked asked' : List ByteArray} {v v' : BatchView} {p p' : Pacer}
    (h : Course buffers told asked v) (hstep : Advance buffers p v told' asked' v' p') :
    Course buffers (told ++ told') (asked ++ asked') v' := by
  cases hstep with
  | begin honward =>
    cases h with
    | entered => exact .onward (List.nil_append _).symm honward
  | wait token data left =>
    cases h with
    | before hsplit =>
      rw [List.append_nil]
      exact .asking hsplit
  | @ask token data left _ honward =>
    cases h with
    | @asking _ done _ _ hsplit =>
      rw [List.append_nil, ← stepped_concat]
      exact .onward (by rw [hsplit, List.append_cons]) honward
  | go honward =>
    cases h with
    | before hsplit =>
      rw [List.append_nil, List.append_nil]
      exact .onward hsplit honward
  | finish token ok =>
    cases h with
    | closing hsplit hok =>
      rw [List.append_nil]
      exact .finished hsplit hok
  | stay ok =>
    rw [List.append_nil, List.append_nil]
    exact h

/-- All that a scan told has one token, with which its batch began. -/
theorem Course.token {buffers : List ByteArray} {told : List Notice} {asked : List ByteArray}
    {v : BatchView} (h : Course buffers told asked v) :
    told = [] ∧ v = .entered ∨ ∃ t, .begin t ∈ told ∧ ∀ n ∈ told, n.token = t := by
  have hbegin (t : Nat) (done : List ByteArray) : Notice.begin t ∈ stepped t done :=
    List.mem_cons_self
  cases h with
  | entered => exact .inl ⟨rfl, rfl⟩
  | before _ => exact .inr ⟨_, hbegin _ _, fun n hn => token_of_stepped hn⟩
  | asking _ => exact .inr ⟨_, List.mem_append_left _ (hbegin _ _),
      fun n hn => token_of_stepped_concat rfl hn⟩
  | closing _ _ => exact .inr ⟨_, hbegin _ _, fun n hn => token_of_stepped hn⟩
  | finished _ _ => exact .inr ⟨_, List.mem_append_left _ (hbegin _ _),
      fun n hn => token_of_stepped_concat rfl hn⟩

/-- Whether a scan is over, and if it is whether it gave an answer. -/
def ended? : BatchView → Option Bool
  | finished ok => some ok
  | _ => none

/-- **The course of a batch that has begun.** -/
theorem Course.batch {buffers : List ByteArray} {told : List Notice} {asked : List ByteArray}
    {v : BatchView} (h : Course buffers told asked v) {token : Nat} (ht : .begin token ∈ told) :
    Batch buffers token told asked v.ended? := by
  -- the token of the course is that of the beginning
  cases h with
  | entered => cases ht
  | before hsplit =>
    obtain rfl := token_of_stepped ht
    exact ⟨⟨_, hsplit⟩, fun _ => .inl rfl, nofun, nofun⟩
  | @asking t _ _ _ hsplit =>
    have hlast : (Notice.step t).token = t := rfl
    obtain rfl := token_of_stepped_concat hlast ht
    exact ⟨⟨_, hsplit⟩, fun _ => .inr rfl, nofun, nofun⟩
  | closing hsplit _ =>
    obtain rfl := token_of_stepped ht
    exact ⟨⟨_, hsplit⟩, fun _ => .inl rfl, nofun, nofun⟩
  | @finished t _ _ _ hsplit hok =>
    have hlast : (Notice.finish t).token = t := rfl
    obtain rfl := token_of_stepped_concat hlast ht
    refine ⟨⟨_, hsplit⟩, nofun, fun ok _ => rfl, fun h => ?_⟩
    rw [hsplit, hok (Option.some.inj h), List.append_nil]

/-- A step takes the next numbers for the batches that begin. -/
theorem Advance.counts {buffers asked : List ByteArray} {told : List Notice} {v v' : BatchView}
    {p p' : Pacer} (h : Advance buffers p v told asked v' p') (hp : p.counts) :
    p'.counts ∧ ∃ k, tokens told = List.range' (p.begun + 1) k ∧ p'.begun = p.begun + k := by
  have hnone : p.counts ∧ ∃ k, [] = List.range' (p.begun + 1) k ∧ p.begun = p.begun + k :=
    ⟨hp, 0, rfl, rfl⟩
  cases h with
  | begin _ =>
    obtain ⟨hcounts, hbegun⟩ := Pacer.begin_counts hp
    refine ⟨hcounts, 1, ?_, hbegun⟩
    rw [Pacer.begin_token hp]
    rfl
  | _ => exact hnone

/-- A step that does an action with a scanner. -/
theorem Advance.of_does {buffers asked : List ByteArray} {v : BatchView}
    {x : Action (Scanner κ β Pacer) α} {s t : Scanner κ β Pacer} {r : Reply α} {cs : List Call}
    {f : Reply α → γ} {view : γ → BatchView} (hx : x.Does s r t cs)
    (h : Advance buffers s.pacing v (cs.filterMap (Notice.ofCall? s.pacing)) asked (view (f r))
      t.pacing) :
    Advance buffers s.pacing v (notices s.pacing (x.into f s).2.2) asked (view (x.into f s).1)
      (x.into f s).2.1.pacing := by
  obtain ⟨rfl, rfl, rfl⟩ := hx
  exact h

end BatchView

open BatchView (Advance Onward)

namespace Scanner

theorem onPacing_does {x : Action Pacer α} {s : Scanner κ β Pacer} {r : Reply α} {p : Pacer}
    {cs : List Call} (h : x.Does s.pacing r p cs) :
    (onPacing x).Does s r { s with pacing := p } cs :=
  h.zoom fun (s : Scanner κ β Pacer) pacing => { s with pacing }

/-- What the rules are asked about is not told to the strategy. -/
theorem scanRules_untold (E : Engine κ β) (data : ByteArray) (s : Scanner κ β Pacer) :
    ∃ t cs, (scanRules E data).Does s (scanRules E data s).reply t cs ∧ t.pacing = s.pacing ∧
      cs.filterMap (Notice.ofCall? s.pacing) = [] := by
  have hrules := scanRules_does E data s
  refine ⟨_, _, ⟨rfl, hrules.state_eq, hrules.calls_eq⟩, rfl, ?_⟩
  split <;> rfl

end Scanner

open Scanner

namespace Stage

/-- A scan of a sample, as far as its batch goes. -/
def view : Stage → BatchView
  | .entered => .entered
  | .busy p .wait => .before p.token (p.data :: p.rest.map Prod.snd)
  | .busy p .rules => .asking p.token p.data (p.rest.map Prod.snd)
  | .busy p _ => .before p.token (p.rest.map Prod.snd)
  | .closing token reply => .closing token reply.isOk
  | .finished reply => .finished reply.isOk

/-- The buffer about which the rules are asked next. -/
def asked? : Stage → Option ByteArray
  | .busy p .rules => some p.data
  | _ => none

theorem before_onward (token : Nat) (sofar : Outcome) (rest : List (Channel × ByteArray)) :
    Onward token (rest.map Prod.snd) (before token sofar rest).view := by
  cases rest with
  | nil => exact .done rfl
  | cons b rest => exact .before

theorem view_halted (token : Nat) (h : Halt) : (halted token h).view = .closing token false := by
  cases h <;> rfl

/-- **A step of a scan of a sample**, as far as its batch goes. -/
theorem next_view (E : Engine κ β) (sample : Sample) (stage : Stage) (s : Scanner κ β Pacer) :
    Advance (sample.buffers.map Prod.snd) s.pacing stage.view
      (notices s.pacing (stage.next E Pacer.strategy sample s).2.2) stage.asked?.toList
      (stage.next E Pacer.strategy sample s).1.view
      (stage.next E Pacer.strategy sample s).2.1.pacing := by
  cases stage with
  | entered =>
    exact .of_does (onPacing_does (beginBatch_does Pacer.strategy s.pacing))
      (.begin (before_onward _ {} sample.buffers))
  | busy p task =>
    cases task with
    | wait =>
      refine .of_does (pause_does Pacer.strategy p.token s) ?_
      have hpacing := Pacer.strategy_step s.pacing p.token
      rw [inPhase, hpacing]
      exact .wait _ _ _
    | rules =>
      obtain ⟨t, cs, hrules, hpacing, htold⟩ := scanRules_untold E p.data s
      refine .of_does hrules ?_
      rw [hpacing, htold]
      exact .ask (.follow view (view_halted p.token) (fun _ => .before) _)
    | snapshot found => exact .go .before
    | plugins found left scan =>
      cases left with
      | nil =>
        obtain ⟨r, hsettle⟩ := settle_quiet p.token p.channel p.data found scan s
        exact .of_does hsettle
          (.go (.follow view (view_halted p.token) (fun o => before_onward _ _ _) r))
      | cons plugin left => exact .go .before
  | closing token reply =>
    refine .of_does (onPacing_does (finishBatch_does Pacer.strategy token s.pacing)) ?_
    rw [Pacer.strategy_finish]
    exact .finish _ _
  | finished reply => exact .stay _

end Stage

namespace BatchStage

/-- A scan of some buffers, as far as its batch goes. -/
def view : BatchStage → BatchView
  | .entered => .entered
  | .waiting token data rest _ => .before token (data :: rest)
  | .asking token data rest _ => .asking token data rest
  | .closing token reply => .closing token reply.isOk
  | .finished reply => .finished reply.isOk

/-- The buffer about which the rules are asked next. -/
def asked? : BatchStage → Option ByteArray
  | .asking _ data _ _ => some data
  | _ => none

theorem before_onward (token : Nat) (sofar : List (Option Findings)) (rest : List ByteArray) :
    Onward token rest (before token sofar rest).view := by
  cases rest with
  | nil => exact .done rfl
  | cons data rest => exact .before

theorem view_halted (token : Nat) (h : Halt) :
    (closing token h.reply).view = .closing token false := by
  cases h <;> rfl

/-- **A step of a scan of some buffers**, as far as its batch goes. -/
theorem next_view (E : Engine κ β) (buffers : List ByteArray) (stage : BatchStage)
    (s : Scanner κ β Pacer) :
    Advance buffers s.pacing stage.view
      (notices s.pacing (stage.next E Pacer.strategy buffers s).2.2) stage.asked?.toList
      (stage.next E Pacer.strategy buffers s).1.view
      (stage.next E Pacer.strategy buffers s).2.1.pacing := by
  cases stage with
  | entered =>
    exact .of_does (onPacing_does (beginBatch_does Pacer.strategy s.pacing))
      (.begin (before_onward _ [] buffers))
  | waiting token data rest sofar =>
    refine .of_does (pause_does Pacer.strategy token s) ?_
    have hpacing := Pacer.strategy_step s.pacing token
    rw [inPhase, hpacing]
    exact .wait _ _ _
  | asking token data rest sofar =>
    obtain ⟨t, cs, hrules, hpacing, htold⟩ := scanRules_untold E data s
    refine .of_does hrules ?_
    rw [hpacing, htold]
    exact .ask (.follow view (view_halted token) (fun _ => before_onward _ _ _) _)
  | closing token reply =>
    refine .of_does (onPacing_does (finishBatch_does Pacer.strategy token s.pacing)) ?_
    rw [Pacer.strategy_finish]
    exact .finish _ _
  | finished reply => exact .stay _

end BatchStage

end RuleScan
