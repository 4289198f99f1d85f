import RuleScan.Scanner

/-!
# The shared scanner

One place for a scanner that a whole program shares. It is filled once; later attempts change
nothing. A scanner that does not get there is given up.
-/

namespace RuleScan

/-- The place of the shared scanner. -/
abbrev Shared (κ β π : Type) := Option (Scanner κ β π)

namespace Shared

variable {κ β π : Type} (E : Engine κ β)

/-- The shared scanner. -/
def current : Action (Shared κ β π) (Scanner κ β π) := fun cell =>
  match cell with
  | some s => ⟨.ok s, cell, []⟩
  | none => ⟨.error .notSetUp, cell, []⟩

/-- Puts a scanner in its place, if that is still empty. -/
def place (s : Scanner κ β π) : Action (Shared κ β π) Unit := fun cell =>
  match cell with
  | some _ => ⟨.error (.setup .taken), cell, s.session.drop E⟩
  | none => ⟨.ok (), some s, [.log .info "Global scanner initialized successfully"]⟩

/-- Shares a scanner, unless there is one already. -/
def shareScanner (s : Scanner κ β π) : Action (Shared κ β π) Unit := fun cell =>
  if cell.isSome then
    ⟨.ok (), cell,
      .log .debug "Global scanner already initialized, skip injected scanner" :: s.session.drop E⟩
  else place E s cell

/-- Adds sources to a scanner and builds them. -/
def prepare (announce : Bool) (sources : List String) : Action (Scanner κ β π) Unit := do
  let _ ← Action.forEach (fun text => Scanner.onSession (Session.addSource E text)) sources
  fun s =>
    let r := Scanner.onSession (Session.build E announce) s
    match r.reply with
    | .error e => { r with reply := .error (.setup (.build e.message)) }
    | _ => r

/-- Shares a new scanner with some sources, unless there is one already. A scanner whose rules are
refused is given up. -/
def shareSources (announce : Bool) (fresh : Scanner κ β π) (sources : List String) :
    Action (Shared κ β π) Unit := fun cell =>
  if cell.isSome then
    ⟨.ok (), cell, [.log .debug "Global scanner already initialized, skip reinitialization"]⟩
  else
    let r := prepare E announce sources fresh
    match r.reply with
    | .ok () =>
      let t := shareScanner E r.state cell
      ⟨t.reply, t.state, r.trace ++ t.trace⟩
    | .error e => ⟨.error e, cell, r.trace ++ r.state.session.drop E⟩
    | .crash w => ⟨.crash w, cell, r.trace ++ r.state.session.drop E⟩

/-- Does something with the shared scanner. -/
def withScanner {α : Type} (x : Action (Scanner κ β π) α) : Action (Shared κ β π) α := fun cell =>
  match cell with
  | none => ⟨.error .notSetUp, none, []⟩
  | some s =>
    let r := x s
    ⟨r.reply, some r.state, r.trace⟩

end Shared

end RuleScan
