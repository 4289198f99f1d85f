import RuleScan.Config
import RuleScan.Trace

/-!
# Pacing

A pacing strategy is told when a batch of buffers begins, before each buffer, and when the batch is
finished; between these it may make the caller wait. `withBatch` finishes the batch however the work
inside it ends.
-/

namespace RuleScan

/-- What a batch tells its strategy. A strategy never fails and calls nobody. -/
structure Strategy (π : Type) where
  name : π → String
  /-- Starts a batch and gives it a token. -/
  begin : π → Nat × π × List Event
  /-- Waits before a buffer of the batch. -/
  step : Nat → π → π × List Event
  finish : Nat → π → π × List Event
  begin_silent : ∀ p, calls (begin p).2.2 = []
  step_silent : ∀ token p, calls (step token p).2 = []
  finish_silent : ∀ token p, calls (finish token p).2 = []

/-- How a token is shown. -/
def tokenText (token : Nat) : String := "#" ++ decimal token

/-! ## Batches -/

namespace Strategy

variable {π σ : Type} (P : Strategy π)

/-- What is logged about a batch. -/
def batchLog (what : String) (p : π) (token : Nat) : Event :=
  .log .debug ("Pacing batch " ++ what ++ " | Strategy: " ++ P.name p ++ " | Batch: "
    ++ tokenText token)

/-- Begins a batch. -/
def beginBatch : Action π Nat := fun p =>
  let (token, p, trace) := P.begin p
  ⟨.ok token, p, .call .begin :: trace ++ [P.batchLog "begin" p token]⟩

/-- Waits before a buffer. -/
def stepBatch (token : Nat) : Action π Unit := fun p =>
  let (p, trace) := P.step token p
  ⟨.ok (), p, .call (.step token) :: trace⟩

/-- Finishes a batch. -/
def finishBatch (token : Nat) : Action π Unit := fun p =>
  let (p, trace) := P.finish token p
  ⟨.ok (), p, .call (.finish token) :: trace ++ [P.batchLog "finish" p token]⟩

/-- Does some work inside a batch of the strategy in a part of the state. The batch is finished also
when the work fails or crashes. -/
def withBatch (get : σ → π) (put : σ → π → σ) (body : Nat → Action σ α) : Action σ α := do
  let token ← Action.zoom get put P.beginBatch
  Action.always (body token) (Action.zoom get put (P.finishBatch token))

end Strategy

/-! ## The strategies -/

/-- A strategy with its state. -/
inductive Pacer
  /-- Never waits. -/
  | unthrottled (begun : Nat)
  /-- Waits before each buffer, unless it was interrupted. -/
  | fixedDelay (delay : Duration) (begun : Nat) (interrupted : Bool)
  /-- Never waits, gives all batches one token, and notes what it is told. -/
  | recording (token : Nat)
  deriving DecidableEq, Repr

namespace Pacer

/-- The strategy of a pace. A delay of nothing is none. -/
def ofPace : Pace → Pacer
  | .unthrottled => .unthrottled 0
  | .fixedDelay ms => if ms > 0 then .fixedDelay (.ofMillis ms) 0 false else .unthrottled 0

/-- The name of a strategy. -/
def name : Pacer → String
  | unthrottled _ => "unthrottled"
  | fixedDelay .. => "fixed_delay"
  | recording _ => "custom"

/-- The number of batches begun. Tokens of counting strategies start at one. -/
def begun : Pacer → Nat
  | unthrottled n => n
  | fixedDelay _ n _ => n
  | recording _ => 0

/-- Starts a batch. -/
def begin : Pacer → Nat × Pacer × List Event
  | unthrottled n => (n + 1, unthrottled (n + 1), [])
  | fixedDelay d n i => (n + 1, fixedDelay d (n + 1) i, [])
  | recording t => (t, recording t, [.note "begin"])

/-- Whether a step takes the whole delay. -/
def waitsFully : Pacer → Bool
  | fixedDelay d _ interrupted => d.isZero || !interrupted
  | _ => true

/-- Waits before a buffer. -/
def step (token : Nat) (p : Pacer) : Pacer × List Event :=
  match p with
  | recording _ => (p, [.note ("step" ++ tokenText token)])
  | p =>
    (p, if p.waitsFully then []
      else [.log .trace ("Pacing step cut short | Batch: " ++ tokenText token)])

/-- Finishes a batch. -/
def finish (token : Nat) (p : Pacer) : Pacer × List Event :=
  match p with
  | recording _ => (p, [.note ("finish" ++ tokenText token)])
  | p => (p, [])

/-- The strategies as one. -/
def strategy : Strategy Pacer where
  name := name
  begin := begin
  step := step
  finish := finish
  begin_silent p := by cases p <;> rfl
  step_silent token p := by
    cases p with
    | unthrottled n => rfl
    | fixedDelay d n i => by_cases h : (fixedDelay d n i).waitsFully <;> simp [step, h]
    | recording t => rfl
  finish_silent token p := by cases p <;> rfl

/-- Makes steps return at once from now on, also those that are waiting. -/
def interrupt (p : Pacer) : Pacer × List Event :=
  match p with
  | fixedDelay d n _ =>
    (fixedDelay d n true,
      [.log .debug ("Fixed delay pacing interrupted | Delay: " ++ d.display)])
  | p => (p, [])

/-- Makes steps wait again. -/
def resume : Pacer → Pacer
  | fixedDelay d n _ => fixedDelay d n false
  | p => p

/-- Whether steps return at once because of an interruption. -/
def isInterrupted : Pacer → Bool
  | fixedDelay _ _ i => i
  | _ => false

end Pacer

end RuleScan
