import RuleScan.Trace

/-!
# Engines

What a session asks of the thing that compiles and scans. A compiler has states in `κ`; building
turns one into a backend with states in `β`, which is bound to the rules collected so far. An engine
is free to fail, crash, note things and change state in any of its operations; calls are entered in
a trace by those who make them, and an engine makes none. Two engines side by side make one engine.
-/

namespace RuleScan

/-- The operations of a compiler and of the backends that it builds. -/
structure Engine (κ β : Type) where
  /-- Takes a request; answers how many files it added, where that was asked for. -/
  ingest : Request → Action κ Nat
  /-- Builds a backend from all that was accepted. The compiler is of no use afterwards. -/
  build : Action κ β
  /-- What giving up a compiler does. -/
  releaseCompiler : κ → List Event
  /-- Scans a buffer; nothing found may be answered by none. -/
  scan : ByteArray → Action β (Option Findings)
  ruleCount : Action β Nat
  /-- The rules as bytes from which they can be restored. -/
  serialize : Action β ByteArray
  /-- What giving up a backend does. -/
  releaseBackend : β → List Event
  ingest_silent : ∀ r, (ingest r).Silent
  build_silent : build.Silent
  releaseCompiler_silent : ∀ c, calls (releaseCompiler c) = []
  scan_silent : ∀ data, (scan data).Silent
  ruleCount_silent : ruleCount.Silent
  serialize_silent : serialize.Silent
  releaseBackend_silent : ∀ b, calls (releaseBackend b) = []

/-- An action on one of two kinds of states. -/
def Action.either (f : Action σ α) (g : Action τ α) : Action (σ ⊕ τ) α
  | .inl s => let r := f s; ⟨r.reply, .inl r.state, r.trace⟩
  | .inr t => let r := g t; ⟨r.reply, .inr r.state, r.trace⟩

theorem Action.Silent.either {f : Action σ α} {g : Action τ α} (hf : f.Silent) (hg : g.Silent) :
    (f.either g).Silent
  | .inl s => hf s
  | .inr t => hg t

/-- Two engines as one, whose states are those of either. -/
def Engine.either (a : Engine κ β) (b : Engine κ' β') : Engine (κ ⊕ κ') (β ⊕ β') where
  ingest r := (a.ingest r).either (b.ingest r)
  build
    | .inl c => let r := a.build c; ⟨r.reply.map .inl, .inl r.state, r.trace⟩
    | .inr c => let r := b.build c; ⟨r.reply.map .inr, .inr r.state, r.trace⟩
  releaseCompiler
    | .inl c => a.releaseCompiler c
    | .inr c => b.releaseCompiler c
  scan data := (a.scan data).either (b.scan data)
  ruleCount := a.ruleCount.either b.ruleCount
  serialize := a.serialize.either b.serialize
  releaseBackend
    | .inl s => a.releaseBackend s
    | .inr s => b.releaseBackend s
  ingest_silent r := (a.ingest_silent r).either (b.ingest_silent r)
  build_silent
    | .inl c => a.build_silent c
    | .inr c => b.build_silent c
  releaseCompiler_silent
    | .inl c => a.releaseCompiler_silent c
    | .inr c => b.releaseCompiler_silent c
  scan_silent data := (a.scan_silent data).either (b.scan_silent data)
  ruleCount_silent := a.ruleCount_silent.either b.ruleCount_silent
  serialize_silent := a.serialize_silent.either b.serialize_silent
  releaseBackend_silent
    | .inl s => a.releaseBackend_silent s
    | .inr s => b.releaseBackend_silent s

end RuleScan
