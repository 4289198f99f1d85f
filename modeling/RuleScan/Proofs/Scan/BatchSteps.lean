import RuleScan.Proofs.Scan.Steps

/-!
# Scans of some buffers in steps

A scan of some buffers that runs beside others begins its batch; before each buffer it waits, and
then asks the rules; at last it finishes its batch. `BatchStage` is where it is between two such
steps, and `BatchStage.next` does one, with the operations of which the scan is made.

Steps that follow each other without anything in between are the scan
(`BatchStage.scanBatch_alone`).
-/

namespace RuleScan

variable {κ β π : Type}

/-- Where a scan of some buffers is between two steps. -/
inductive BatchStage
  | entered
  /-- It waits before a buffer, with those after it and what was found so far. -/
  | waiting (token : Nat) (data : ByteArray) (rest : List ByteArray)
      (sofar : List (Option Findings))
  /-- The rules are to be asked about a buffer. -/
  | asking (token : Nat) (data : ByteArray) (rest : List ByteArray)
      (sofar : List (Option Findings))
  /-- The reply is settled, but the batch is not finished. -/
  | closing (token : Nat) (reply : Reply (List (Option Findings)))
  | finished (reply : Reply (List (Option Findings)))

namespace BatchStage

/-- The stage before some buffers. -/
def before (token : Nat) (sofar : List (Option Findings)) : List ByteArray → BatchStage
  | [] => .closing token (.ok sofar)
  | data :: rest => .waiting token data rest sofar

variable (E : Engine κ β) (P : Strategy π)

open Scanner

/-- One step of a scan of some buffers. -/
def next (buffers : List ByteArray) :
    BatchStage → Scanner κ β π → BatchStage × Scanner κ β π × List Event
  | .entered =>
    (onPacing P.beginBatch).into
      (Reply.follow (fun h => .finished h.reply) fun token => before token [] buffers)
  | .waiting token data rest sofar =>
    (pause P token).into
      (Reply.follow (fun h => .closing token h.reply) fun _ => .asking token data rest sofar)
  | .asking token data rest sofar =>
    (scanRules E data).into
      (Reply.follow (fun h => .closing token h.reply) fun found =>
        before token (sofar ++ [found]) rest)
  | .closing token reply => (onPacing (P.finishBatch token)).into fun _ => .finished reply
  | .finished reply => fun s => (.finished reply, s, [])

/-! ## Uninterrupted steps -/

/-- How scans of some buffers behave that share a scanner. -/
def conduct : Conduct (Scanner κ β π) (List ByteArray) BatchStage Empty where
  start _ := .entered
  step _ := next E P
  aside op := op.elim

/-- Some buffers, one after the other. -/
theorem forEach_carries (i : Nat) (all : List ByteArray) (token : Nat)
    (sofar : List (Option Findings)) (buffers : List ByteArray) :
    Crowd.Carries (conduct E P) i all
      (.forEach (fun data => (pause P token).bind fun _ => scanRules E data) buffers)
      (before token sofar buffers) (fun h => .closing token h.reply)
      fun found => .closing token (.ok (sofar ++ found)) := by
  induction buffers generalizing sofar with
  | nil => exact .pure (congrArg (fun o => closing token (.ok o)) (List.append_nil sofar))
  | cons data rest ih =>
    have hwait : Crowd.Carries (conduct E P) i all (pause P token) (.waiting token data rest sofar)
        (fun h => .closing token h.reply) fun _ => .asking token data rest sofar := .one rfl
    have hask : Crowd.Carries (conduct E P) i all (scanRules E data) (.asking token data rest sofar)
        (fun h => .closing token h.reply) fun found => before token (sofar ++ [found]) rest :=
      .one rfl
    refine (hwait.bind fun _ => hask).bind fun found => ?_
    have hrest := ih (sofar ++ [found])
    simp only [List.append_assoc, List.singleton_append] at hrest
    exact .map hrest

/-- **A scan of some buffers is its steps**: from the start they lead to its reply, with its trace
and the state that it leaves. -/
theorem scanBatch_alone (i : Nat) (buffers : List ByteArray) (s : Scanner κ β π) :
    Crowd.Alone (conduct E P) i buffers .entered s (scanBatch E P buffers s).trace
      (.finished (scanBatch E P buffers s).reply) (scanBatch E P buffers s).state := by
  have hbegin : (onPacing P.beginBatch s).reply = .ok (P.begin s.pacing).1 := rfl
  have hscan : scanBatch E P buffers s = ((onPacing P.beginBatch).bind fun token =>
    (Action.forEach (fun data => (pause P token).bind fun _ => scanRules E data) buffers).always
      (onPacing (P.finishBatch token))) s := rfl
  have hrest := (forEach_carries E P i buffers (P.begin s.pacing).1 [] buffers).always
    (closing (P.begin s.pacing).1) finished (fun _ => rfl) (onPacing P.beginBatch s).state
  rw [hscan, Action.bind_of_ok hbegin]
  exact .step rfl hrest

/-! ## Progress -/

/-- Whether a scan is over. -/
def isFinished : BatchStage → Bool
  | .finished _ => true
  | _ => false

/-- How many steps a scan is from its end at most. -/
def rank (buffers : List ByteArray) : BatchStage → Nat
  | .entered => 2 * buffers.length + 2
  | .waiting _ _ rest _ => 2 * rest.length + 3
  | .asking _ _ rest _ => 2 * rest.length + 2
  | .closing _ _ => 1
  | .finished _ => 0

theorem before_rank (all : List ByteArray) (token : Nat) (sofar : List (Option Findings))
    (buffers : List ByteArray) :
    (before token sofar buffers).rank all = 2 * buffers.length + 1 := by
  cases buffers <;> rfl

/-- **Each step brings a scan closer to its end**, until it is over. -/
theorem next_rank (buffers : List ByteArray) (stage : BatchStage) (s : Scanner κ β π) :
    stage.isFinished = true ∨ (stage.next E P buffers s).1.rank buffers < stage.rank buffers := by
  cases stage with
  | entered =>
    refine .inr (Reply.follow_cases (p := (rank buffers · < _)) (fun h => .finished h.reply)
      (fun token => before token [] buffers) (fun h => Nat.succ_pos _) (fun token => ?_)
      (onPacing P.beginBatch s).reply)
    rw [before_rank]
    exact Nat.lt_succ_self _
  | waiting token data rest sofar =>
    exact .inr (Reply.follow_cases (p := (rank buffers · < _)) (fun h => .closing token h.reply)
      (fun _ => .asking token data rest sofar) (fun h => Nat.succ_lt_succ (Nat.succ_pos _))
      (fun _ => Nat.lt_succ_self _) (pause P token s).reply)
  | asking token data rest sofar =>
    refine .inr (Reply.follow_cases (p := (rank buffers · < _)) (fun h => .closing token h.reply)
      (fun found => before token (sofar ++ [found]) rest)
      (fun h => Nat.succ_lt_succ (Nat.succ_pos _)) (fun found => ?_) (scanRules E data s).reply)
    rw [before_rank]
    exact Nat.lt_succ_self _
  | closing token reply => exact .inr Nat.zero_lt_one
  | finished reply => exact .inl rfl

end BatchStage

end RuleScan
