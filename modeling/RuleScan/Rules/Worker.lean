import Mathlib.Logic.Function.Basic
import RuleScan.Rules.Engine

/-!
# A compiler on a thread of its own

A compiler may have to stay on the thread that made it. Then a collector has no compiler at hand but
a worker, a thread that makes the compiler and takes commands through a pipe. For each command the
client opens another pipe, through which the answer comes back. The worker is started by the first
change, and ends with the build or when nobody can send it commands any more; whoever gives the
collector up waits for that.

A workshop (`Workshop`) is the two threads with the pipes between them. Each of them makes its steps
at its own pace (`clientStep`, `workerStep`); a step that would have to wait is none.
-/

namespace RuleScan

/-! ## Requests -/

namespace Request

open Rules

variable {C R : Type} (T : Toolchain C R) (fs : Files)

/-- A change that opens a namespace, whose name must not be blank. -/
def spaceChange (name : String) : Except Failure Change :=
  if Text.isBlankText name then .error (.compile .blankNamespace) else .ok (.space name)

/-- A change that adds the rules of a file. -/
def fileChange (path : String) : Except Failure Change :=
  ((fs.read path).mapError fun e => .compile (.unreadable path e)).map fun source =>
    .source source (some path)

/-- The changes that some files come to. -/
def filesChanges (spacePerFile : Bool) (files : List String) : List (Except Failure Change) :=
  files.flatMap fun path =>
    (if spacePerFile then [spaceChange path] else []) ++ [fileChange fs path]

/-- The changes that a path comes to; none can be made when it cannot be told what files it stands
for. -/
def pathChanges (spacePerFile : Bool) (path : String) : List (Except Failure Change) :=
  match T.ruleFiles fs path with
  | .ok files => filesChanges fs spacePerFile files
  | .error fault => [.error (.compile fault)]

/-- The files that a path stands for; none where that cannot be told. -/
def filesOf (path : String) : List String := (T.ruleFiles fs path).toOption.getD []

/-- The changes that a request comes to, up to the first one that cannot be made. -/
def changes : Request → List (Except Failure Change)
  | .space name => [spaceChange name]
  | .source text => [.ok (.source text.toUTF8 none)]
  | .file path => [fileChange fs path]
  | .paths roots spacePerFile => roots.flatMap (pathChanges T fs spacePerFile)
  | .ignoreModule module => [.ok (.ignoreModule module)]
  | .define name value => [.ok (.define name value)]

/-- What a request answers and logs once its changes are made. -/
def closing : Request → Nat × List Event
  | .paths roots spacePerFile =>
    let added := (roots.flatMap (filesOf T fs)).length
    (added,
      [.log .debug ("Rule paths added | Paths: " ++ decimal roots.length ++ " | Files: "
        ++ decimal added ++ " | Path as namespace: " ++ boolText spacePerFile)])
  | _ => (0, [])

end Request

namespace Rules

/-! ## Pipes -/

/-- Messages on their way from one thread to another. -/
structure Pipe (μ : Type) where
  queue : List μ := []
  /-- Whether the end where messages go in is still held. -/
  sending : Bool := true
  /-- Whether the end where messages come out is still held. -/
  receiving : Bool := true

/-- What comes of looking for a message. -/
inductive Received (μ : Type)
  /-- The next message, and the pipe without it. -/
  | message (m : μ) (rest : Pipe μ)
  | wait
  /-- No message will ever come. -/
  | lost

namespace Pipe

variable {μ : Type}

/-- Sends a message, if there is somebody to receive it. -/
def send (m : μ) (p : Pipe μ) : Option (Pipe μ) :=
  if p.receiving then some { p with queue := p.queue ++ [m] } else none

/-- Looks for the next message. -/
def receive (p : Pipe μ) : Received μ :=
  match p.queue with
  | m :: rest => .message m { p with queue := rest }
  | [] => if p.sending then .wait else .lost

/-- Gives up the end where messages go in. -/
def hangUp (p : Pipe μ) : Pipe μ := { p with sending := false }

/-- Gives up the end where messages come out. Those that are on their way are lost. -/
def close (p : Pipe μ) : Pipe μ := { p with queue := [], receiving := false }

/-- Sends the only message of a pipe, whether or not somebody receives it. -/
def deliver (m : μ) (p : Pipe μ) : Pipe μ := ((p.send m).getD p).hangUp

end Pipe

/-! ## Two threads -/

/-- What a client can ask a worker to do. -/
inductive Command
  /-- Makes a change; the answer goes into the pipe of that number. -/
  | apply (change : Change) (reply : Nat)
  | build

/-- Where a worker is. -/
inductive Worker (C R : Type)
  /-- Not started yet. -/
  | absent
  | starting
  | ready (compiler : C)
  | applying (compiler : C) (change : Change) (reply : Nat)
  /-- Has the answer to a change. -/
  | answering (compiler : C) (answer : Option String) (reply : Nat)
  | building (compiler : C)
  | delivering (rules : R)
  | leaving
  | gone

/-- Where a client is. -/
inductive Client
  /-- Between two requests. -/
  | ready
  /-- Has changes left to make for a request. -/
  | busy (r : Request) (rest : List (Except Failure Change))
  /-- Waits for the answer to a change, in the pipe of that number. -/
  | awaiting (r : Request) (change : Change) (rest : List (Except Failure Change)) (reply : Nat)
  /-- Waits for the rules. -/
  | awaitingRules
  /-- Has to give up the worker. -/
  | leaving
  /-- Waits for the end of the worker. -/
  | joining
  | done

/-- What becomes of a collector after its requests. -/
inductive Ending
  | build
  | giveUp

/-- A client with a worker, and what came of it so far. -/
structure Workshop (C R : Type) where
  options : CompileOptions
  /-- The time that a scan with the rules may take. -/
  timeout : Option Duration := none
  /-- The requests that the client has yet to make. -/
  todo : List Request
  ending : Ending
  client : Client := .ready
  worker : Worker C R := .absent
  commands : Pipe Command := {}
  /-- The pipes for answers to changes; so many of them were opened. -/
  answers : Nat → Pipe (Option String) := fun _ => {}
  opened : Nat := 0
  /-- The pipe for the rules. -/
  product : Pipe R := {}
  /-- The replies to the requests made. -/
  replies : List (Reply Nat) := []
  /-- What the build has answered. -/
  built : Option (Reply (Ready R)) := none
  trace : List Event := []

/-- The failure of a client whose worker ended before its time. -/
def workerLost : Failure := .build "规则编译线程已退出"

/-- What is logged by a worker that nobody can send commands to any more. -/
def releaseLog : Event := .log .debug "Compiler worker released without build"

namespace Workshop

variable {C R : Type} (T : Toolchain C R) (fs : Files)

/-! ### The client -/

/-- Ends a request. -/
def reply (r : Reply Nat) (w : Workshop C R) : Workshop C R :=
  { w with client := .ready, replies := w.replies ++ [r] }

/-- Ends the build. -/
def conclude (r : Reply (Ready R)) (w : Workshop C R) : Workshop C R :=
  { w with client := .leaving, built := some r }

/-- Asks the worker for a change. -/
def submit (r : Request) (change : Change) (rest : List (Except Failure Change))
    (w : Workshop C R) : Workshop C R :=
  let w' := { w with opened := w.opened + 1 }
  match w.commands.send (.apply change w.opened) with
  | some commands => { w' with commands, client := .awaiting r change rest w.opened }
  | none => w'.reply (.error workerLost)

/-- Builds, or gives the collector up, after all requests. A collector that never had a change to
make needs no worker for that. -/
def finish (w : Workshop C R) : Workshop C R :=
  match w.ending, w.worker with
  | .build, .absent =>
    { w with
      client := .done
      built := some (.ok { rules := T.build (T.start w.options), timeout := w.timeout }) }
  | .build, _ =>
    match w.commands.send .build with
    | some commands => { w with commands, client := .awaitingRules }
    | none => w.conclude (.error workerLost)
  | .giveUp, .absent => { w with client := .done }
  | .giveUp, _ => { w with client := .leaving }

/-- The next step of the client, if it does not have to wait. -/
def clientStep (w : Workshop C R) : Option (Workshop C R) :=
  match w.client with
  | .ready =>
    match w.todo with
    | r :: rest => some { w with todo := rest, client := .busy r (r.changes T fs) }
    | [] => some (w.finish T)
  | .busy r [] =>
    let (n, logs) := r.closing T fs
    some ({ w with trace := w.trace ++ logs }.reply (.ok n))
  | .busy _ (.error e :: _) => some (w.reply (.error e))
  | .busy r (.ok change :: rest) =>
    match w.worker with
    | .absent =>
      some { w with worker := .starting, trace := w.trace ++ [Collector.startLog w.options] }
    | _ => some (w.submit r change rest)
  | .awaiting r _ rest i =>
    match (w.answers i).receive with
    | .message answer pipe =>
      let w := { w with answers := Function.update w.answers i pipe.close }
      match answer with
      | none => some { w with client := .busy r rest }
      | some words => some (w.reply (.error (.compile (.refused words))))
    | .wait => none
    | .lost => some (w.reply (.error workerLost))
  | .awaitingRules =>
    match w.product.receive with
    | .message rules pipe =>
      some ({ w with product := pipe.close }.conclude (.ok { rules, timeout := w.timeout }))
    | .wait => none
    | .lost => some (w.conclude (.error workerLost))
  | .leaving => some { w with commands := w.commands.hangUp, client := .joining }
  | .joining =>
    match w.worker with
    | .gone => some { w with client := .done }
    | _ => none
  | .done => none

/-! ### The worker -/

/-- Gives up a command that is on its way, and with it the pipe for its answer. -/
def forget (w : Workshop C R) : Command → Workshop C R
  | .apply _ i => { w with answers := Function.update w.answers i (w.answers i).hangUp }
  | .build => { w with product := w.product.hangUp }

/-- Gives up all commands that are on their way. -/
def abandon (w : Workshop C R) : Workshop C R :=
  w.commands.queue.foldl forget { w with commands := w.commands.close }

/-- The next step of the worker, if it does not have to wait. -/
def workerStep (w : Workshop C R) : Option (Workshop C R) :=
  match w.worker with
  | .absent => none
  | .starting => some { w with worker := .ready (T.start w.options) }
  | .ready c =>
    match w.commands.receive with
    | .message (.apply change i) commands =>
      some { w with commands, worker := .applying c change i }
    | .message .build commands => some { w with commands, worker := .building c }
    | .wait => none
    | .lost => some { w with worker := .leaving, trace := w.trace ++ [releaseLog] }
  | .applying c change i =>
    let (answer, c) := T.apply fs change c
    some { w with worker := .answering c answer i, trace := w.trace ++ [.change change answer] }
  | .answering c answer i =>
    some
      { w with
        worker := .ready c
        answers := Function.update w.answers i ((w.answers i).deliver answer) }
  | .building c => some { w with worker := .delivering (T.build c) }
  | .delivering rules => some { w with worker := .leaving, product := w.product.deliver rules }
  | .leaving => some { w.abandon with worker := .gone }
  | .gone => none

/-! ### Both -/

/-- One of the two threads. -/
inductive Party
  | client
  | worker

/-- The next step of a thread, if it does not have to wait. -/
def move? : Party → Workshop C R → Option (Workshop C R)
  | .client => clientStep T fs
  | .worker => workerStep T fs

/-- A thread gets its turn. -/
def turn (w : Workshop C R) (p : Party) : Workshop C R := (move? T fs p w).getD w

/-- A workshop after some turns. -/
def after (w : Workshop C R) (turns : List Party) : Workshop C R := turns.foldl (turn T fs) w

/-- A workshop with the compiler and the settings of a collector. -/
def ofCollector (c : Collector C) (todo : List Request) (ending : Ending) : Workshop C R :=
  { options := c.options
    timeout := c.timeout
    todo
    ending
    worker := c.compiler.elim .absent .ready }

end Workshop

end Rules

end RuleScan
