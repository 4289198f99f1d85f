import RuleScan.Scanner

/-!
# A scanner behind a lock

A scanner may be used from several threads, so its session stands behind a lock. A holder of the
lock that crashes poisons it, which is never cured: whoever takes it from then on is told so. A
scanner does not mind and goes on with the session as the crash left it.

Each call to the session takes the lock once (`Guarded.onSession`). A scan takes it anew for each
buffer; it waits and asks the plugins without it.
-/

namespace RuleScan

variable {κ β π σ α : Type}

/-- Whether a reply is a crash. -/
def Reply.isCrash : Reply α → Bool
  | crash _ => true
  | _ => false

/-! ## Locks -/

/-- A value behind a lock. -/
structure Lock (σ : Type) where
  value : σ
  /-- Whether a holder of the lock has crashed. -/
  poisoned : Bool := false

namespace Lock

/-- Takes a lock; what stands behind a poisoned one is given as an error. -/
def take (l : Lock σ) : Except σ σ := if l.poisoned then .error l.value else .ok l.value

/-- What stands behind a lock, poisoned or not. -/
def enter (l : Lock σ) : σ :=
  match l.take with
  | .ok value => value
  | .error value => value

/-- Does something with what stands behind a lock. A crash poisons the lock. -/
def access (x : Action σ α) : Action (Lock σ) α := fun l =>
  let r := x l.enter
  ⟨r.reply, { value := r.state, poisoned := l.poisoned || r.reply.isCrash }, r.trace⟩

end Lock

/-! ## Scanners -/

/-- A scanner whose session stands behind a lock. -/
structure Guarded (κ β π : Type) where
  scanner : Scanner κ β π
  /-- Whether the lock is poisoned. -/
  poisoned : Bool := false

namespace Guarded

/-- The session behind its lock. -/
def session (g : Guarded κ β π) : Lock (Session κ β) := ⟨g.scanner.session, g.poisoned⟩

/-- Takes the lock and does something with the session. -/
def onSession (x : Action (Session κ β) α) : Action (Guarded κ β π) α :=
  .zoom session (fun g l => ⟨{ g.scanner with session := l.value }, l.poisoned⟩) (Lock.access x)

/-- Does something without the lock, with the parts of the scanner that do not stand behind it. -/
def aside (x : Action (Scanner κ β π) α) : Action (Guarded κ β π) α :=
  .zoom (·.scanner) (fun g s => { g with scanner := { s with session := g.scanner.session } }) x

variable (E : Engine κ β) (P : Strategy π)

/-- Scans a buffer with the rules alone. -/
def scanRules (data : ByteArray) : Action (Guarded κ β π) (Option Findings) :=
  onSession (Session.scanIfBuilt E data)

/-- Does some work inside a batch of the pacing strategy. -/
def withBatch (body : Nat → Action (Guarded κ β π) α) : Action (Guarded κ β π) α :=
  P.withBatch (·.scanner.pacing) (fun g pacing => { g with scanner := { g.scanner with pacing } })
    body

/-- Scans one channel: waits, asks the rules, then the plugins. -/
def scanChannel (token : Nat) (c : Channel) (data : ByteArray) :
    Action (Guarded κ β π) Outcome := do
  aside (Scanner.pause P token)
  let rules ← scanRules E data
  aside (Scanner.askPlugins token c data rules)

/-- Scans some channels, one after the other. -/
def scanChannels (token : Nat) : List (Channel × ByteArray) → Action (Guarded κ β π) Outcome
  | [] => .pure {}
  | (c, data) :: rest => do
    let first ← scanChannel E P token c data
    let others ← scanChannels token rest
    return first.append others

/-- Scans a sample: findings with their weights, and the plugins that failed. -/
def scanDetailed (sample : Sample) : Action (Guarded κ β π) Outcome :=
  withBatch P fun token => scanChannels E P token sample.buffers

/-- Scans a sample: findings with their weights. -/
def scan (sample : Sample) : Action (Guarded κ β π) (List WeightedFindings) := do
  return (← scanDetailed E P sample).results

/-- Scans buffers with the rules alone, inside one batch. -/
def scanBatch (buffers : List ByteArray) : Action (Guarded κ β π) (List (Option Findings)) :=
  withBatch P fun token =>
    .forEach (fun data => do aside (Scanner.pause P token); scanRules E data) buffers

end Guarded

end RuleScan
