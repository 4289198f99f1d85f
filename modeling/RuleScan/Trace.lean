import RuleScan.Failure

/-!
# Actions and what they leave behind

An action changes a state, answers something, and leaves a trace: the calls that it made to the
parts it works with, what those parts noted, and what was logged, all in one order. It may also
fail, or be cut short by a crash of one of the parts; the state and the trace up to that point stay.
-/

namespace RuleScan

/-- How important a log line is. -/
inductive LogLevel
  | error
  | warn
  | info
  | debug
  | trace
  deriving DecidableEq, Repr

/-- The name of a level in log lines. -/
def LogLevel.name : LogLevel → String
  | error => "ERROR"
  | warn => "WARN"
  | info => "INFO"
  | debug => "DEBUG"
  | trace => "TRACE"

/-- The rank of a level; more important levels come first. -/
def LogLevel.rank : LogLevel → Nat
  | error => 1
  | warn => 2
  | info => 3
  | debug => 4
  | trace => 5

/-- Something handed to a compiler while rules are collected. -/
inductive Request
  /-- The namespace of the rules that follow. -/
  | space (name : String)
  | source (text : String)
  | file (path : String)
  /-- Files and directories; each file may get a namespace of its own. -/
  | paths (paths : List String) (spacePerFile : Bool)
  | ignoreModule (module : String)
  | define (name : String) (value : ExternalValue)

/-- A change to the rules that a compiler of rules holds. -/
inductive Change
  | space (name : String)
  | ignoreModule (module : String)
  | define (name : String) (value : ExternalValue)
  /-- Rules to add, and where they come from if that is known. -/
  | source (bytes : ByteArray) (origin : Option String)

/-- A call to one of the parts that a scan works with. -/
inductive Call
  | ingest (r : Request)
  | build
  | releaseCompiler
  | scan (data : ByteArray)
  | ruleCount
  | serialize
  | releaseBackend
  | begin
  | step (token : Nat)
  | finish (token : Nat)
  | plugin (name : String)

/-- An entry of a trace. -/
inductive Event
  | call (c : Call)
  /-- A change that was handed to a compiler of rules, and in what words it was refused, if it
  was. -/
  | change (c : Change) (refusal : Option String)
  /-- What a part noted by itself. -/
  | note (text : String)
  | log (level : LogLevel) (text : String)

/-- How an action ends. -/
inductive Reply (α : Type)
  | ok (a : α)
  | error (e : Failure)
  /-- A part crashed with these words. -/
  | crash (words : String)

/-- The call that an entry of a trace is, if it is one. -/
def Event.call? : Event → Option Call
  | call c => some c
  | _ => none

/-- The calls in a trace. -/
def calls (trace : List Event) : List Call := trace.filterMap Event.call?

@[simp] theorem calls_nil : calls [] = [] := rfl

@[simp] theorem calls_append (t u : List Event) : calls (t ++ u) = calls t ++ calls u :=
  List.filterMap_append

@[simp] theorem calls_call (c : Call) (t : List Event) : calls (.call c :: t) = c :: calls t := rfl

@[simp] theorem calls_log (l : LogLevel) (w : String) (t : List Event) :
    calls (.log l w :: t) = calls t := rfl

@[simp] theorem calls_note (w : String) (t : List Event) : calls (.note w :: t) = calls t := rfl

@[simp] theorem calls_change (c : Change) (r : Option String) (t : List Event) :
    calls (.change c r :: t) = calls t := rfl

/-- How an action ends, with the state that it leaves and its trace. -/
@[ext]
structure Step (σ α : Type) where
  reply : Reply α
  state : σ
  trace : List Event

/-- Something done with a state. -/
def Action (σ α : Type) : Type := σ → Step σ α

namespace Reply

/-- Whether a reply is an answer. -/
def isOk : Reply α → Bool
  | ok _ => true
  | error _ => false
  | crash _ => false

/-- Applies a function to an answer. -/
def map (f : α → β) : Reply α → Reply β
  | ok a => ok (f a)
  | error e => error e
  | crash w => crash w

/-- A result without crashes. -/
def ofExcept : Except Failure α → Reply α
  | .ok a => ok a
  | .error e => error e

end Reply

namespace Action

variable {σ τ α β : Type}

/-- Answers without doing anything. -/
def pure (a : α) : Action σ α := fun s => ⟨.ok a, s, []⟩

/-- Does one thing and then, unless it fails or crashes, another one that may depend on the
answer. -/
def bind (x : Action σ α) (f : α → Action σ β) : Action σ β := fun s =>
  match x s with
  | ⟨.ok a, s, trace⟩ => let r := f a s; ⟨r.reply, r.state, trace ++ r.trace⟩
  | ⟨.error e, s, trace⟩ => ⟨.error e, s, trace⟩
  | ⟨.crash w, s, trace⟩ => ⟨.crash w, s, trace⟩

instance : Monad (Action σ) where
  pure := Action.pure
  bind := Action.bind

/-- The state. -/
def get : Action σ σ := fun s => ⟨.ok s, s, []⟩

/-- Changes the state. -/
def modify (f : σ → σ) : Action σ Unit := fun s => ⟨.ok (), f s, []⟩

/-- Fails. -/
def fail (e : Failure) : Action σ α := fun s => ⟨.error e, s, []⟩

/-- Crashes. -/
def crash (words : String) : Action σ α := fun s => ⟨.crash words, s, []⟩

/-- Adds an entry to the trace. -/
def emit (e : Event) : Action σ Unit := fun s => ⟨.ok (), s, [e]⟩

/-- Adds a call to the trace. -/
def call (c : Call) : Action σ Unit := emit (.call c)

/-- Adds a log line to the trace. -/
def log (level : LogLevel) (text : String) : Action σ Unit := emit (.log level text)

/-- Answers a result or fails with it. -/
def ofExcept (r : Except Failure α) : Action σ α := fun s => ⟨.ofExcept r, s, []⟩

/-- Acts on a part of the state. -/
def zoom (get : σ → τ) (put : σ → τ → σ) (x : Action τ α) : Action σ α := fun s =>
  let r := x (get s)
  ⟨r.reply, put s r.state, r.trace⟩

/-- Does something and then, however it ends, something else. -/
def always (x : Action σ α) (after : Action σ Unit) : Action σ α := fun s =>
  let r := x s
  let t := after r.state
  ⟨r.reply, t.state, r.trace ++ t.trace⟩

/-- Does something for each element of a list, one after the other, and collects the answers. -/
def forEach (f : α → Action σ β) : List α → Action σ (List β)
  | [] => .pure []
  | a :: rest => .bind (f a) fun b => .bind (forEach f rest) fun bs => .pure (b :: bs)

/-! ## Laws -/

@[simp] theorem bind_eq (x : Action σ α) (f : α → Action σ β) : x >>= f = x.bind f := rfl

@[simp] theorem pure_eq (a : α) : (Pure.pure a : Action σ α) = .pure a := rfl

theorem bind_of_ok {x : Action σ α} {f : α → Action σ β} {s : σ} {a : α}
    (h : (x s).reply = .ok a) :
    x.bind f s = ⟨(f a (x s).state).reply, (f a (x s).state).state,
      (x s).trace ++ (f a (x s).state).trace⟩ := by
  unfold bind
  split <;> simp_all

theorem bind_of_error {x : Action σ α} {f : α → Action σ β} {s : σ} {e : Failure}
    (h : (x s).reply = .error e) : x.bind f s = ⟨.error e, (x s).state, (x s).trace⟩ := by
  unfold bind
  split <;> simp_all

theorem bind_of_crash {x : Action σ α} {f : α → Action σ β} {s : σ} {w : String}
    (h : (x s).reply = .crash w) : x.bind f s = ⟨.crash w, (x s).state, (x s).trace⟩ := by
  unfold bind
  split <;> simp_all

/-! ## Actions without calls -/

/-- An action that calls nobody, in any state. -/
def Silent (x : Action σ α) : Prop := ∀ s, calls (x s).trace = []

namespace Silent

theorem pure (a : α) : (Action.pure a : Action σ α).Silent := fun _ => rfl

theorem get : (Action.get : Action σ σ).Silent := fun _ => rfl

theorem fail (e : Failure) : (Action.fail e : Action σ α).Silent := fun _ => rfl

theorem crash (words : String) : (Action.crash words : Action σ α).Silent := fun _ => rfl

theorem log (level : LogLevel) (text : String) : (Action.log level text : Action σ Unit).Silent :=
  fun _ => rfl

theorem note (text : String) : (Action.emit (.note text) : Action σ Unit).Silent := fun _ => rfl

theorem ofExcept (r : Except Failure α) : (Action.ofExcept r : Action σ α).Silent := fun _ => rfl

theorem bind {x : Action σ α} {f : α → Action σ β} (hx : x.Silent) (hf : ∀ a, (f a).Silent) :
    (x.bind f).Silent := fun s => by
  cases h : (x s).reply with
  | ok a => simp [bind_of_ok h, hx s, hf a (x s).state]
  | error e => simp [bind_of_error h, hx s]
  | crash w => simp [bind_of_crash h, hx s]

theorem ite {c : Prop} [Decidable c] {x y : Action σ α} (hx : x.Silent) (hy : y.Silent) :
    (if c then x else y).Silent := by
  split
  · exact hx
  · exact hy

theorem forEach {f : α → Action σ β} (hf : ∀ a, (f a).Silent) (l : List α) :
    (Action.forEach f l).Silent := by
  induction l with
  | nil => exact pure []
  | cons a rest ih => exact (hf a).bind fun _ => ih.bind fun _ => pure _

end Silent

end Action

end RuleScan
