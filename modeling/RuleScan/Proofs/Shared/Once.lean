import RuleScan.Proofs.Action
import RuleScan.Proofs.Rules.Sequential
import RuleScan.Proofs.Session.Lifecycle
import RuleScan.Proofs.Turns
import RuleScan.Rules.Engine
import RuleScan.Shared

/-!
# The shared scanner is set once

Any number of callers race to set up the shared scanner, or ask for it, while it may be used
already. To set it up is to look for one, to prepare another, to look again and to put that one in
its place, and all the others may get in between (`Shared.Stage.next`). Nobody in between, these
steps are what the program does (`Shared.undisturbed`).

A scanner that is in its place stays there (`Shared.after_filled`), and it got there by the last
step of a caller that found the place empty up to then (`Shared.filled_by`). Everything else is read
off these two: whom a caller is told of, who is too late and why, and who need not prepare anything.
-/

namespace RuleScan

/-- Whether a call hands something to a compiler or has it build. -/
def Call.compiles : Call → Bool
  | ingest _ => true
  | build => true
  | _ => false

/-- What the engine of a toolchain refuses is a matter of compiling. -/
theorem Rules.Toolchain.engine_ingest_error {C R : Type} (T : Toolchain C R) (fs : Files)
    {r : Request} {c : Collector C} {e : Failure}
    (h : ((T.engine fs).ingest r c).reply = .error e) : ∃ fault, e = .compile fault := by
  have hdirect := (Collector.ingest_direct T fs r c).reply_eq
  rw [Reply.map_id] at hdirect
  exact direct_error T fs (hdirect.symm.trans h)

namespace Shared

variable {κ β π : Type} (E : Engine κ β) (announce : Bool)

/-- The shared scanner, with the number of the caller that set it up. -/
structure Entry (κ β π : Type) where
  owner : Nat
  scanner : Scanner κ β π

/-- The place of the shared scanner, if nobody asks whose it is. -/
def plain (cell : Option (Entry κ β π)) : Shared κ β π := cell.map (·.scanner)

/-- What someone comes for. -/
inductive Errand (κ β π : Type)
  /-- To share a new scanner with some sources. -/
  | sources (fresh : Scanner κ β π) (texts : List String)
  /-- To share a scanner at hand. -/
  | scanner (s : Scanner κ β π)
  /-- To have the shared scanner. -/
  | current

/-- Whether someone comes to set up the shared scanner. -/
def Errand.isSetup : Errand κ β π → Bool
  | sources _ _ => true
  | scanner _ => true
  | current => false

/-- The scanner that someone can put in the shared place, once it is prepared. -/
inductive Errand.Offers : Errand κ β π → Scanner κ β π → Prop
  | sources {fresh : Scanner κ β π} {texts : List String}
      (hprepared : (prepare E announce texts fresh).reply = .ok ()) :
      Offers (.sources fresh texts) (prepare E announce texts fresh).state
  | scanner (s : Scanner κ β π) : Offers (.scanner s) s

/-- What someone does who gets what they came for at once. -/
def perform : Errand κ β π → Action (Shared κ β π) (Option (Scanner κ β π))
  | .sources fresh texts => do shareSources E announce fresh texts; return none
  | .scanner s => do shareScanner E s; return none
  | .current => do return some (← current)

/-- How an errand ends. -/
inductive Ending (κ β π : Type)
  /-- There was a shared scanner already. -/
  | found
  /-- The scanner of this caller is shared now. -/
  | placed
  /-- Another scanner was shared after this caller had looked. -/
  | late
  /-- The sources were refused. -/
  | refused (h : Halt)
  | told (e : Entry κ β π)
  /-- There was no shared scanner to be told of. -/
  | missing

/-- What the caller is answered. -/
def Ending.reply : Ending κ β π → Reply (Option (Scanner κ β π))
  | found => .ok none
  | placed => .ok none
  | late => .error (.setup .taken)
  | refused h => h.reply
  | told e => .ok (some e.scanner)
  | missing => .error .notSetUp

/-- Where someone is with their errand. -/
inductive Stage (κ β π : Type)
  | looking (fresh : Scanner κ β π) (texts : List String)
  | preparing (fresh : Scanner κ β π) (texts : List String)
  | lookingAgain (s : Scanner κ β π)
  | placing (s : Scanner κ β π)
  | asking
  | finished (ending : Ending κ β π)

/-- Where an errand begins. A scanner at hand needs no preparation. -/
def Errand.start : Errand κ β π → Stage κ β π
  | sources fresh texts => .looking fresh texts
  | scanner s => .lookingAgain s
  | current => .asking

/-- Where the preparation of a scanner leads, with its trace. A scanner whose rules are refused is
given up. -/
def Stage.prepared (r : Step (Scanner κ β π) Unit) : Stage κ β π × List Event :=
  match r.reply with
  | .ok () => (lookingAgain r.state, r.trace)
  | .error e => (finished (.refused (.failure e)), r.trace ++ r.state.session.drop E)
  | .crash w => (finished (.refused (.crash w)), r.trace ++ r.state.session.drop E)

/-- The next step of the caller of some number. -/
def Stage.next (i : Nat) :
    Stage κ β π → Option (Entry κ β π) → Stage κ β π × Option (Entry κ β π) × List Event
  | looking fresh texts, none => (preparing fresh texts, none, [])
  | looking fresh texts, some e =>
    (finished .found, some e, (shareSources E announce fresh texts (some e.scanner)).trace)
  | preparing fresh texts, cell =>
    let (stage, trace) := prepared E (prepare E announce texts fresh)
    (stage, cell, trace)
  | lookingAgain s, none => (placing s, none, [])
  | lookingAgain s, some e => (finished .found, some e, (shareScanner E s (some e.scanner)).trace)
  | placing s, none => (finished .placed, some ⟨i, s⟩, (place E s none).trace)
  | placing s, some e => (finished .late, some e, (place E s (some e.scanner)).trace)
  | asking, none => (finished .missing, none, [])
  | asking, some e => (finished (.told e), some e, [])
  | finished ending, cell => (finished ending, cell, [])

/-- Something done with the shared scanner, if there is one. -/
def use (x : Action (Scanner κ β π) Unit) :
    Option (Entry κ β π) → Option (Entry κ β π) × List Event
  | none => (none, [])
  | some e => let r := x e.scanner; (some { e with scanner := r.state }, r.trace)

/-- How callers behave. -/
def conduct : Conduct (Option (Entry κ β π)) (Errand κ β π) (Stage κ β π)
    (Action (Scanner κ β π) Unit) where
  start := Errand.start
  step i _ := Stage.next E announce i
  aside := use

/-- A turn of a caller, or of something done with the shared scanner. -/
abbrev Turn (κ β π : Type) : Type := RuleScan.Turn (Errand κ β π) (Action (Scanner κ β π) Unit)

/-- The callers and the place of the shared scanner. -/
abbrev Callers (κ β π : Type) : Type :=
  Crowd (Option (Entry κ β π)) (Errand κ β π) (Stage κ β π)

/-- Nobody came yet, and nothing is shared. -/
def nobody : Callers κ β π := { shared := none }

/-- What is after some turns. -/
def after (turns : List (Turn κ β π)) : Callers κ β π := nobody.after (conduct E announce) turns

/-- What a scanner becomes by what is done with it on some turns. -/
def used (s : Scanner κ β π) (turns : List (Turn κ β π)) : Scanner κ β π :=
  turns.foldl (fun s turn => match turn with
    | .aside x => (x s).state
    | _ => s) s

variable {E announce}

/-! ## A step -/

theorem Stage.prepared_of_ok {r : Step (Scanner κ β π) Unit} (h : r.reply = .ok ()) :
    prepared E r = (lookingAgain r.state, r.trace) := by
  unfold prepared
  simp only [h]

theorem Stage.prepared_of_halt {r : Step (Scanner κ β π) Unit} {h : Halt}
    (hr : r.reply = h.reply) :
    prepared E r = (finished (.refused h), r.trace ++ r.state.session.drop E) := by
  unfold prepared
  cases h <;> simp only [Halt.reply] at hr <;> simp only [hr]

variable {i : Nat} {stage : Stage κ β π} {cell : Option (Entry κ β π)} {e : Entry κ β π}

/-- A step leaves a shared scanner where it is. -/
theorem Stage.next_filled (i : Nat) (stage : Stage κ β π) (e : Entry κ β π) :
    (stage.next E announce i (some e)).2.1 = some e := by
  cases stage <;> rfl

/-- Only a caller that puts its scanner in an empty place fills it. -/
theorem Stage.next_fills (h : (stage.next E announce i none).2.1 = some e) :
    stage = .placing e.scanner ∧ e.owner = i := by
  cases stage with
  | placing s => cases h; exact ⟨rfl, rfl⟩
  | _ => cases h

variable (E announce) in
/-- From where a step leads to a stage, and what the caller saw in the shared place then. -/
inductive Stage.Led : Stage κ β π → Option (Entry κ β π) → Stage κ β π → Prop
  | looked (fresh : Scanner κ β π) (texts : List String) :
      Led (looking fresh texts) none (preparing fresh texts)
  | prepared {fresh : Scanner κ β π} {texts : List String} (cell : Option (Entry κ β π))
      (h : (prepare E announce texts fresh).reply = .ok ()) :
      Led (preparing fresh texts) cell (lookingAgain (prepare E announce texts fresh).state)
  | refused {fresh : Scanner κ β π} {texts : List String} {h : Halt} (cell : Option (Entry κ β π))
      (hr : (prepare E announce texts fresh).reply = h.reply) :
      Led (preparing fresh texts) cell (finished (.refused h))
  | lookedAgain (s : Scanner κ β π) : Led (lookingAgain s) none (placing s)
  | found (fresh : Scanner κ β π) (texts : List String) (e : Entry κ β π) :
      Led (looking fresh texts) (some e) (finished .found)
  | foundAgain (s : Scanner κ β π) (e : Entry κ β π) :
      Led (lookingAgain s) (some e) (finished .found)
  | placed (s : Scanner κ β π) : Led (placing s) none (finished .placed)
  | late (s : Scanner κ β π) (e : Entry κ β π) : Led (placing s) (some e) (finished .late)
  | told (e : Entry κ β π) : Led asking (some e) (finished (.told e))
  | missing : Led asking none (finished .missing)
  | stayed (ending : Ending κ β π) (cell : Option (Entry κ β π)) :
      Led (finished ending) cell (finished ending)

variable (E announce) in
theorem Stage.next_led (i : Nat) (stage : Stage κ β π) (cell : Option (Entry κ β π)) :
    Led E announce stage cell (stage.next E announce i cell).1 := by
  cases stage with
  | preparing fresh texts =>
    rcases (prepare E announce texts fresh).reply.ok_or_halt with ⟨⟨⟩, hok⟩ | ⟨h, hhalt⟩
    · rw [next, prepared_of_ok hok]
      exact .prepared cell hok
    · rw [next, prepared_of_halt hhalt]
      exact .refused cell hhalt
  | looking fresh texts => cases cell <;> constructor
  | lookingAgain s => cases cell <;> constructor
  | placing s => cases cell <;> constructor
  | asking => cases cell <;> constructor
  | finished ending => exact .stayed ending cell

/-! ## What fits an errand -/

variable (E announce) in
/-- The stages that an errand goes through. -/
inductive Stage.Fits : Errand κ β π → Stage κ β π → Prop
  | looking (fresh : Scanner κ β π) (texts : List String) :
      Fits (.sources fresh texts) (looking fresh texts)
  | preparing (fresh : Scanner κ β π) (texts : List String) :
      Fits (.sources fresh texts) (preparing fresh texts)
  | lookingAgain {r : Errand κ β π} {s : Scanner κ β π} (h : r.Offers E announce s) :
      Fits r (lookingAgain s)
  | placing {r : Errand κ β π} {s : Scanner κ β π} (h : r.Offers E announce s) :
      Fits r (placing s)
  | asking : Fits .current asking
  | found {r : Errand κ β π} (h : r.isSetup) : Fits r (finished .found)
  | placed {r : Errand κ β π} {s : Scanner κ β π} (h : r.Offers E announce s) :
      Fits r (finished .placed)
  | late {r : Errand κ β π} {s : Scanner κ β π} (h : r.Offers E announce s) :
      Fits r (finished .late)
  | refused {fresh : Scanner κ β π} {texts : List String} {h : Halt}
      (hr : (prepare E announce texts fresh).reply = h.reply) :
      Fits (.sources fresh texts) (finished (.refused h))
  | told (e : Entry κ β π) : Fits .current (finished (.told e))
  | missing : Fits .current (finished .missing)

theorem Errand.Offers.isSetup {r : Errand κ β π} {s : Scanner κ β π} (h : r.Offers E announce s) :
    r.isSetup := by
  cases h <;> rfl

theorem Errand.start_fits (r : Errand κ β π) : Stage.Fits E announce r r.start := by
  cases r with
  | sources fresh texts => exact .looking fresh texts
  | scanner s => exact .lookingAgain (.scanner s)
  | current => exact .asking

theorem Stage.Fits.next {r : Errand κ β π} (h : Fits E announce r stage) (i : Nat)
    (cell : Option (Entry κ β π)) : Fits E announce r (stage.next E announce i cell).1 := by
  have hled := next_led E announce i stage cell
  revert hled
  generalize (stage.next E announce i cell).1 = last
  intro hled
  cases hled with
  | looked fresh texts => cases h; exact .preparing fresh texts
  | prepared _ hok => cases h; exact .lookingAgain (.sources hok)
  | refused _ hr => cases h; exact .refused hr
  | lookedAgain s => cases h with | lookingAgain h => exact .placing h
  | found fresh texts e => cases h; exact .found rfl
  | foundAgain s e => cases h with | lookingAgain h => exact .found h.isSetup
  | placed s => cases h with | placing h => exact .placed h
  | late s e => cases h with | placing h => exact .late h
  | told e => cases h; exact .told e
  | missing => cases h; exact .missing
  | stayed ending cell => exact h

/-- Everyone is at a stage that fits their errand. -/
theorem fits {turns : List (Turn κ β π)} {p : Party (Errand κ β π) (Stage κ β π)}
    (hp : (after E announce turns).parties[i]? = some p) : Stage.Fits E announce p.errand p.stage :=
  Crowd.party_induction (conduct E announce) (w := nobody) rfl
    (q := fun r _ stage => Stage.Fits E announce r stage) (fun r => r.start_fits)
    (fun _ _ _ _ _ hfits => hfits.next i _) hp

/-! ## The shared place -/

/-- A turn leaves a shared scanner where it is, but for what is done with it. -/
theorem take_filled {w : Callers κ β π} (h : w.shared = some e) (turn : Turn κ β π) :
    (w.take (conduct E announce) turn).1.shared = some ⟨e.owner, used e.scanner [turn]⟩ := by
  cases turn with
  | enter r => exact h
  | advance i =>
    cases hp : w.parties[i]? with
    | none =>
      rw [Crowd.take_of_none _ hp]
      exact h
    | some p =>
      rw [Crowd.take_of_some _ hp, h]
      exact Stage.next_filled i p.stage e
  | aside x =>
    have huse : (w.take (conduct E announce) (.aside x)).1.shared = (use x w.shared).1 := rfl
    rw [huse, h]
    rfl

/-- **A scanner that is shared stays shared**, and only what is done with it changes it. -/
theorem after_filled {w : Callers κ β π} (h : w.shared = some e) (turns : List (Turn κ β π)) :
    (w.after (conduct E announce) turns).shared = some ⟨e.owner, used e.scanner turns⟩ := by
  induction turns generalizing w e with
  | nil => exact h
  | cons turn rest ih => exact ih (take_filled h turn)

/-- An empty place is filled by a caller that puts its scanner there. -/
theorem take_fills {w : Callers κ β π} {turn : Turn κ β π} (h : w.shared = none)
    (he : (w.take (conduct E announce) turn).1.shared = some e) :
    turn = .advance e.owner ∧
      ∃ r, w.parties[e.owner]? = some ⟨r, .placing e.scanner⟩ := by
  cases turn with
  | enter r => exact absurd (h.symm.trans he) (by simp)
  | advance i =>
    cases hp : w.parties[i]? with
    | none =>
      rw [Crowd.take_of_none _ hp] at he
      exact absurd (h.symm.trans he) (by simp)
    | some p =>
      rw [Crowd.take_of_some _ hp, h] at he
      obtain ⟨hstage, rfl⟩ := Stage.next_fills he
      exact ⟨rfl, p.errand, by rw [hp, ← hstage]⟩
  | aside x =>
    have huse : (w.take (conduct E announce) (.aside x)).1.shared = (use x w.shared).1 := rfl
    rw [huse, h] at he
    cases he

/-- **A shared scanner was put in its place by its owner**, who found the place empty up to then. -/
theorem filled_by {w : Callers κ β π} (h : w.shared = none) {turns : List (Turn κ β π)}
    (he : (w.after (conduct E announce) turns).shared = some e) :
    ∃ first rest r s, turns = first ++ .advance e.owner :: rest ∧
      (w.after (conduct E announce) first).shared = none ∧
      (w.after (conduct E announce) first).parties[e.owner]? = some ⟨r, .placing s⟩ ∧
      e.scanner = used s rest := by
  have hnot : ¬w.shared.isSome := by simp [h]
  have hfilled : (w.after (conduct E announce) turns).shared.isSome := by simp [he]
  obtain ⟨first, turn, rest, rfl, hempty, hsome⟩ :=
    Crowd.begins _ (q := fun v : Callers κ β π => v.shared.isSome) hnot hfilled
  obtain ⟨d, hd⟩ := Option.isSome_iff_exists.1 hsome
  have hempty : (w.after (conduct E announce) first).shared = none := by simpa using hempty
  obtain ⟨rfl, r, hr⟩ := take_fills hempty hd
  rw [Crowd.after_append, Crowd.after_cons, after_filled hd] at he
  obtain rfl := Option.some.inj he
  exact ⟨first, rest, r, d.scanner, rfl, hempty, hr, rfl⟩

theorem after_append (first rest : List (Turn κ β π)) :
    after E announce (first ++ rest) = (after E announce first).after (conduct E announce) rest :=
  nobody.after_append _ first rest

theorem after_advance {first : List (Turn κ β π)} (rest : List (Turn κ β π))
    {p : Party (Errand κ β π) (Stage κ β π)} (hp : (after E announce first).parties[i]? = some p) :
    after E announce (first ++ .advance i :: rest) =
      (Crowd.mk (p.stage.next E announce i (after E announce first).shared).2.1
        ((after E announce first).parties.set i
          ⟨p.errand, (p.stage.next E announce i (after E announce first).shared).1⟩)).after
        (conduct E announce) rest := by
  rw [after_append, Crowd.after_cons, Crowd.take_of_some _ hp]
  rfl

theorem kept {first : List (Turn κ β π)} (h : (after E announce first).shared = some e)
    (rest : List (Turn κ β π)) :
    (after E announce (first ++ rest)).shared = some ⟨e.owner, used e.scanner rest⟩ := by
  rw [after_append]
  exact after_filled h rest

/-! ## Callers -/

/-- Whoever is done stays done. -/
theorem after_finished {w : Callers κ β π} {r : Errand κ β π} {ending : Ending κ β π}
    (hp : w.parties[i]? = some ⟨r, .finished ending⟩) (turns : List (Turn κ β π)) :
    (w.after (conduct E announce) turns).parties[i]? = some ⟨r, .finished ending⟩ :=
  Crowd.party_stays _ hp (fun _ => rfl) turns

/-- A caller that did not just enter came from another stage. -/
theorem arrived {turns : List (Turn κ β π)} {r : Errand κ β π}
    (hp : (after E announce turns).parties[i]? = some ⟨r, stage⟩) (hstart : stage ≠ r.start) :
    ∃ first rest before, turns = first ++ .advance i :: rest ∧
      (after E announce first).parties[i]? = some ⟨r, before⟩ ∧ before ≠ stage ∧
      Stage.Led E announce before (after E announce first).shared stage := by
  rcases Crowd.came_from _ (w := nobody) rfl hp with
    h | ⟨first, rest, before, hsplit, hbefore, hne, h⟩
  · exact absurd h hstart
  · refine ⟨first, rest, before, hsplit, hbefore, hne, ?_⟩
    have hled := Stage.next_led E announce i before (after E announce first).shared
    have h : (before.next E announce i (after E announce first).shared).1 = stage := h
    rwa [h] at hled

theorem start_ne_finished (r : Errand κ β π) (ending : Ending κ β π) :
    Stage.finished ending ≠ r.start := by
  cases r <;> exact fun h => by cases h

/-- A caller that puts its scanner in an empty place is the owner and done. -/
theorem placing_done {first : List (Turn κ β π)} {r : Errand κ β π} {s : Scanner κ β π}
    (hp : (after E announce first).parties[i]? = some ⟨r, .placing s⟩)
    (hempty : (after E announce first).shared = none) (rest : List (Turn κ β π)) :
    (after E announce (first ++ .advance i :: rest)).shared = some ⟨i, used s rest⟩ ∧
      (after E announce (first ++ .advance i :: rest)).parties[i]? =
        some ⟨r, .finished .placed⟩ := by
  rw [after_advance rest hp, hempty]
  refine ⟨after_filled (e := ⟨i, s⟩) rfl rest, after_finished ?_ rest⟩
  exact List.getElem?_set_self (List.getElem?_eq_some_iff.1 hp).1

/-- The owner of the shared scanner is done. -/
theorem owner_placed {turns : List (Turn κ β π)} (he : (after E announce turns).shared = some e) :
    ∃ r, (after E announce turns).parties[e.owner]? = some ⟨r, .finished .placed⟩ := by
  obtain ⟨first, rest, r, s, rfl, hempty, hplacing, -⟩ := filled_by (w := nobody) rfl he
  exact ⟨r, (placing_done hplacing hempty rest).2⟩

/-- Nobody else is done in that way. -/
theorem placed_owner {turns : List (Turn κ β π)} {r : Errand κ β π}
    (hp : (after E announce turns).parties[i]? = some ⟨r, .finished .placed⟩) :
    ∃ s, (after E announce turns).shared = some ⟨i, s⟩ := by
  obtain ⟨first, rest, before, rfl, hbefore, hne, hled⟩ := arrived hp (start_ne_finished r .placed)
  generalize hcell : (after E announce first).shared = cell at hled
  cases hled with
  | placed s => exact ⟨_, (placing_done hbefore hcell rest).1⟩
  | stayed => exact absurd rfl hne

/-- Who is told of a scanner is told of the one that is shared, for good. -/
theorem told_shared {turns : List (Turn κ β π)} {r : Errand κ β π}
    (hp : (after E announce turns).parties[i]? = some ⟨r, .finished (.told e)⟩) :
    ∃ first rest, turns = first ++ .advance i :: rest ∧ (after E announce first).shared = some e ∧
      (after E announce turns).shared = some ⟨e.owner, used e.scanner rest⟩ := by
  obtain ⟨first, rest, before, rfl, hbefore, hne, hled⟩ :=
    arrived hp (start_ne_finished r (.told e))
  generalize hcell : (after E announce first).shared = cell at hled
  cases hled with
  | told e => exact ⟨first, rest, rfl, hcell, kept hcell (.advance i :: rest)⟩
  | stayed => exact absurd rfl hne

/-- Who found a scanner to be shared already was right. -/
theorem found_shared {turns : List (Turn κ β π)} {r : Errand κ β π}
    (hp : (after E announce turns).parties[i]? = some ⟨r, .finished .found⟩) :
    (after E announce turns).shared.isSome := by
  obtain ⟨first, rest, before, rfl, hbefore, hne, hled⟩ := arrived hp (start_ne_finished r .found)
  generalize hcell : (after E announce first).shared = cell at hled
  have hshared {e : Entry κ β π} (he : cell = some e) :
      (after E announce (first ++ .advance i :: rest)).shared.isSome :=
    Option.isSome_iff_exists.2 ⟨_, kept (hcell.trans he) (.advance i :: rest)⟩
  cases hled with
  | found fresh texts e => exact hshared rfl
  | foundAgain s e => exact hshared rfl
  | stayed => exact absurd rfl hne

variable (E announce) in
/-- A caller found the place empty when it looked for the last time, and another one put a scanner
there before this caller came to do so. -/
inductive Overtaken (i : Nat) : List (Turn κ β π) → Prop
  | mk {before between since last : List (Turn κ β π)} {j : Nat} {r r' : Errand κ β π}
      {s s' : Scanner κ β π} (hne : j ≠ i)
      (hlooks : (after E announce before).parties[i]? = some ⟨r, .lookingAgain s⟩)
      (hempty : (after E announce before).shared = none)
      (hplaces : (after E announce (before ++ .advance i :: between)).parties[j]? =
        some ⟨r', .placing s'⟩)
      (hstill : (after E announce (before ++ .advance i :: between)).shared = none)
      (hlate : (after E announce
        (before ++ .advance i :: (between ++ .advance j :: since))).parties[i]? =
          some ⟨r, .placing s⟩) :
      Overtaken i (before ++ .advance i :: (between ++ .advance j :: since) ++ .advance i :: last)

/-- **Who is too late was overtaken.** -/
theorem overtaken {turns : List (Turn κ β π)} {r : Errand κ β π}
    (hp : (after E announce turns).parties[i]? = some ⟨r, .finished .late⟩) :
    Overtaken E announce i turns := by
  obtain ⟨upto, last, stage, rfl, hstage, hne, hled⟩ := arrived hp (start_ne_finished r .late)
  generalize hcell : (after E announce upto).shared = cell at hled
  cases hled with
  | stayed => exact absurd rfl hne
  | late s e =>
    have hstart : Stage.placing s ≠ r.start := by cases r <;> exact fun h => by cases h
    obtain ⟨before, mid, stage, rfl, hlooks, -, hled⟩ := arrived hstage hstart
    generalize hempty : (after E announce before).shared = seen at hled
    cases hled with
    | lookedAgain s =>
      -- the look changes nothing, so that the place is filled later, by another caller
      have hlooked := after_advance mid hlooks
      rw [hempty] at hlooked
      rw [hlooked] at hcell
      obtain ⟨between, since, r', s', rfl, hstill, hplaces, -⟩ := filled_by (by rfl) hcell
      have hthen := after_advance between hlooks
      rw [hempty] at hthen
      rw [← hthen] at hstill hplaces
      refine .mk (fun hown => ?_) hlooks hempty hplaces hstill hstage
      rw [hown] at hplaces
      have hdone := (placing_done hplaces hstill since).2
      rw [List.append_assoc, List.cons_append, ← hown] at hdone
      rw [← hown] at hstage
      exact absurd (hdone.symm.trans hstage) (by simp)

/-! ## Who comes later -/

/-- To give up a scanner compiles nothing. -/
theorem drop_compiles (s : Session κ β) : ∀ c ∈ calls (s.drop E), ¬c.compiles := by
  rw [Session.drop_calls]
  intro c hc
  unfold Session.releaseTrace at hc
  split at hc
  · rw [calls_call, E.releaseCompiler_silent, List.mem_singleton] at hc
    subst hc
    exact Bool.false_ne_true
  · rw [calls_call, E.releaseBackend_silent, List.mem_singleton] at hc
    subst hc
    exact Bool.false_ne_true
  · cases hc
  · cases hc

/-- What becomes of an errand that finds a shared scanner at once. -/
inductive Errand.Spared (r : Errand κ β π) : Stage κ β π → Prop
  | start : Spared r r.start
  | found (h : r.isSetup) : Spared r (.finished .found)
  | told (h : r.isSetup = false) (e : Entry κ β π) : Spared r (.finished (.told e))

variable (E announce) in
theorem Errand.Spared.next {r : Errand κ β π} (h : r.Spared stage) (i : Nat) (e : Entry κ β π) :
    r.Spared (stage.next E announce i (some e)).1 ∧
      ∀ c ∈ calls (stage.next E announce i (some e)).2.2, ¬Call.compiles c := by
  cases h with
  | start =>
    cases r with
    | sources fresh texts => exact ⟨.found rfl, fun c hc => by cases hc⟩
    | scanner s => exact ⟨.found rfl, drop_compiles s.session⟩
    | current => exact ⟨.told rfl e, fun c hc => by cases hc⟩
  | found h => exact ⟨.found h, fun c hc => by cases hc⟩
  | told h e => exact ⟨.told h e, fun c hc => by cases hc⟩

/-- **Who comes when a scanner is shared** finds it, and compiles nothing. -/
theorem later_spared {first rest : List (Turn κ β π)}
    (hfilled : (after E announce first).shared = some e)
    (hi : (after E announce first).parties[i]? = none)
    {p : Party (Errand κ β π) (Stage κ β π)}
    (hp : (after E announce (first ++ rest)).parties[i]? = some p) :
    p.errand.Spared p.stage ∧
      ∀ m ∈ Crowd.stepsOf i ((after E announce first).history (conduct E announce) rest),
        ∀ c ∈ calls m.trace, ¬c.compiles := by
  rw [after_append] at hp
  refine Crowd.party_induction (conduct E announce) hi
    (q := fun r steps stage => r.Spared stage ∧ ∀ m ∈ steps, ∀ c ∈ calls m.trace, ¬c.compiles)
    (fun r => ⟨.start, fun m hm => by cases hm⟩) (fun before _ p _ hp ⟨hspared, hsteps⟩ => ?_) hp
  have hnext := hspared.next E announce i ⟨e.owner, used e.scanner before⟩
  rw [after_filled hfilled before]
  refine ⟨hnext.1, fun m hm => ?_⟩
  rcases List.mem_append.1 hm with hm | hm
  · exact hsteps m hm
  · rw [List.mem_singleton.1 hm, Crowd.trace_advance _ hp, after_filled hfilled before]
    exact hnext.2

/-! ## Nobody in between -/

theorem perform_sources (fresh : Scanner κ β π) (texts : List String) (cell : Shared κ β π) :
    perform E announce (.sources fresh texts) cell =
      ⟨(shareSources E announce fresh texts cell).reply.map fun _ => none,
        (shareSources E announce fresh texts cell).state,
        (shareSources E announce fresh texts cell).trace⟩ :=
  Step.ext (Action.reply_map _ _ _) (Action.state_map _ _ _) (Action.trace_map _ _ _)

theorem perform_scanner (s : Scanner κ β π) (cell : Shared κ β π) :
    perform E announce (.scanner s) cell =
      ⟨(shareScanner E s cell).reply.map fun _ => none, (shareScanner E s cell).state,
        (shareScanner E s cell).trace⟩ :=
  Step.ext (Action.reply_map _ _ _) (Action.state_map _ _ _) (Action.trace_map _ _ _)

theorem perform_current (cell : Shared κ β π) :
    perform E announce .current cell =
      ⟨(current cell).reply.map some, (current cell).state, (current cell).trace⟩ :=
  Step.ext (Action.reply_map _ _ _) (Action.state_map _ _ _) (Action.trace_map _ _ _)

theorem shareSources_of_ok {fresh : Scanner κ β π} {texts : List String}
    (h : (prepare E announce texts fresh).reply = .ok ()) :
    shareSources E announce fresh texts none =
      ⟨.ok (), some (prepare E announce texts fresh).state,
        (prepare E announce texts fresh).trace ++
          (place E (prepare E announce texts fresh).state none).trace⟩ := by
  simp only [shareSources, Option.isSome_none, Bool.false_eq_true, if_false, h]
  rfl

theorem shareSources_of_halt {fresh : Scanner κ β π} {texts : List String} {h : Halt}
    (hr : (prepare E announce texts fresh).reply = h.reply) :
    shareSources E announce fresh texts none =
      ⟨h.reply, none, (prepare E announce texts fresh).trace ++
        (prepare E announce texts fresh).state.session.drop E⟩ := by
  simp only [shareSources, Option.isSome_none, Bool.false_eq_true, if_false]
  cases h <;> simp only [Halt.reply] at hr ⊢ <;> simp only [hr]

/-- A caller that looks again at an empty place goes on to put its scanner there. -/
theorem alone_placing (r : Errand κ β π) (s : Scanner κ β π) :
    Crowd.Alone (conduct E announce) i r (.lookingAgain s) none (place E s none).trace
      (.finished .placed) (some ⟨i, s⟩) :=
  .silent rfl (.single (conduct E announce) i r (Stage.placing s) none)

/-- **A caller whose scanner can be shared** puts it in an empty place. -/
theorem alone_offers {r : Errand κ β π} {s : Scanner κ β π} (h : r.Offers E announce s) :
    Crowd.Alone (conduct E announce) i r r.start none (perform E announce r none).trace
        (.finished .placed) (some ⟨i, s⟩) ∧
      (perform E announce r none).reply = .ok none ∧
      (perform E announce r none).state = some s := by
  cases h with
  | @sources fresh texts hok =>
    rw [perform_sources, shareSources_of_ok hok]
    refine ⟨.silent rfl (.step ?_ (alone_placing _ _)),
      rfl, rfl⟩
    simp only [conduct, Stage.next, Stage.prepared_of_ok hok]
  | scanner s =>
    rw [perform_scanner]
    exact ⟨alone_placing _ s, rfl, rfl⟩

variable (E announce) in
/-- **Nobody in between**, the steps of an errand are what the program does. -/
theorem alone_perform (i : Nat) (r : Errand κ β π) (cell : Option (Entry κ β π)) :
    ∃ ending cell', Crowd.Alone (conduct E announce) i r r.start cell
        (perform E announce r (plain cell)).trace (.finished ending) cell' ∧
      (perform E announce r (plain cell)).reply = ending.reply ∧
      (perform E announce r (plain cell)).state = plain cell' := by
  cases r with
  | sources fresh texts =>
    cases cell with
    | some e =>
      rw [perform_sources]
      exact ⟨.found, some e, .single (conduct E announce) i _ (Stage.looking fresh texts) (some e),
        rfl, rfl⟩
    | none =>
      rcases (prepare E announce texts fresh).reply.ok_or_halt with ⟨⟨⟩, hok⟩ | ⟨h, hhalt⟩
      · obtain ⟨halone, hreply, hstate⟩ := alone_offers (i := i) (.sources hok)
        exact ⟨.placed, _, halone, hreply, hstate⟩
      · rw [perform_sources, plain, Option.map_none, shareSources_of_halt hhalt]
        refine ⟨.refused h, none, ?_, h.map_reply _, rfl⟩
        have hrefused := Crowd.Alone.single (conduct E announce) i (.sources fresh texts)
          (Stage.preparing fresh texts) none
        simp only [conduct, Stage.next, Stage.prepared_of_halt hhalt] at hrefused
        exact .silent rfl hrefused
  | scanner s =>
    cases cell with
    | some e =>
      rw [perform_scanner]
      exact ⟨.found, some e, .single (conduct E announce) i _ (Stage.lookingAgain s) (some e),
        rfl, rfl⟩
    | none =>
      obtain ⟨halone, hreply, hstate⟩ := alone_offers (i := i) (.scanner s)
      exact ⟨.placed, _, halone, hreply, hstate⟩
  | current =>
    rw [perform_current]
    cases cell with
    | some e =>
      exact ⟨.told e, some e, .single (conduct E announce) i _ Stage.asking (some e), rfl, rfl⟩
    | none =>
      exact ⟨.missing, none, .single (conduct E announce) i _ Stage.asking none, rfl, rfl⟩

/-! ## Refusals -/

variable (E) in
/-- Why sources are refused: in the words of the engine, or for the state that the session is in. -/
inductive Refusal : Failure → Prop
  | ingest {text : String} {c : κ} {e : Failure}
      (h : (E.ingest (.source text) c).reply = .error e) : Refusal e
  | misuse (m : Misuse) : Refusal (.misuse m)
  | build (words : String) : Refusal (.setup (.build words))

theorem addSource_errs (text : String) :
    Action.Errs (Refusal E) (Session.addSource E text) := by
  have hrequest : Action.Errs (Refusal E) (Session.request E (.source text)) := by
    intro s e h
    unfold Session.request at h
    split at h
    · exact .ingest h
    · cases h
      exact .misuse _
  exact hrequest.bind fun _ s e h => by cases h

theorem prepare_errs (texts : List String) :
    Action.Errs (Refusal E) (prepare E announce texts : Action (Scanner κ β π) Unit) := by
  have hadd : Action.Errs (Refusal E) (Action.forEach
      (fun text => Scanner.onSession (Session.addSource E text)) texts :
        Action (Scanner κ β π) (List Unit)) :=
    .forEach (fun text s e h => addSource_errs text s.session e h) texts
  refine hadd.bind fun _ s e h => ?_
  dsimp only at h
  split at h
  · cases h
    exact .build _
  · next hne => exact absurd h (hne e)

/-! ## The shared scanner is set once -/

/-- What holds of the callers after any turns. -/
structure SetOnce (E : Engine κ β) (announce : Bool) (turns : List (Turn κ β π)) : Prop where
  /-- Who comes now, with nobody in between, gets what the program gives. -/
  undisturbed (r : Errand κ β π) : ∃ n ending cell,
    let k := (after E announce turns).parties.length
    let comes := RuleScan.Turn.enter r :: List.replicate n (.advance k)
    let whole := perform E announce r (plain (after E announce turns).shared)
    (after E announce turns).after (conduct E announce) comes =
        ⟨cell, (after E announce turns).parties ++ [⟨r, .finished ending⟩]⟩ ∧
      ((after E announce turns).history (conduct E announce) comes).flatMap (·.trace) =
        whole.trace ∧
      whole.reply = ending.reply ∧ whole.state = plain cell
  /-- A scanner that was shared at some time is shared now, as what was done with it left it. -/
  kept {first rest : List (Turn κ β π)} {e : Entry κ β π} (hturns : turns = first ++ rest)
    (he : (after E announce first).shared = some e) :
    (after E announce turns).shared = some ⟨e.owner, used e.scanner rest⟩
  /-- It is the one that its owner could share, and put in an empty place. -/
  filled {e : Entry κ β π} (he : (after E announce turns).shared = some e) :
    ∃ first rest r s, turns = first ++ .advance e.owner :: rest ∧
      (after E announce first).shared = none ∧
      (after E announce first).parties[e.owner]? = some ⟨r, .placing s⟩ ∧
      r.Offers E announce s ∧ e.scanner = used s rest
  /-- Whoever is told of a scanner is told of that one. -/
  told {i : Nat} {r : Errand κ β π} {e : Entry κ β π}
    (hp : (after E announce turns).parties[i]? = some ⟨r, .finished (.told e)⟩) :
    ∃ first rest, turns = first ++ .advance i :: rest ∧ (after E announce first).shared = some e ∧
      (after E announce turns).shared = some ⟨e.owner, used e.scanner rest⟩
  /-- After a setup that is answered there is a shared scanner. -/
  answered {i : Nat} {r : Errand κ β π} {ending : Ending κ β π}
    (hp : (after E announce turns).parties[i]? = some ⟨r, .finished ending⟩) (hr : r.isSetup)
    (hok : ending.reply.isOk) : (after E announce turns).shared.isSome
  /-- Who ends without an answer owns nothing. -/
  failed {i : Nat} {r : Errand κ β π} {ending : Ending κ β π}
    (hp : (after E announce turns).parties[i]? = some ⟨r, .finished ending⟩)
    (hfailed : ending.reply.isOk = false) :
    ∀ e, (after E announce turns).shared = some e → e.owner ≠ i
  /-- As long as nobody was answered there is no shared scanner. -/
  empty (hfailed : ∀ (i : Nat) (r : Errand κ β π) (ending : Ending κ β π),
      (after E announce turns).parties[i]? = some ⟨r, .finished ending⟩ →
        ending.reply.isOk = false) : (after E announce turns).shared = none
  /-- Who asks for one then is told that there is none. -/
  missing {i : Nat} {r : Errand κ β π} (hempty : (after E announce turns).shared = none)
    (hp : (after E announce turns).parties[i]? = some ⟨r, .asking⟩) :
    ∃ ending, ending.reply = .error .notSetUp ∧
      (after E announce (turns ++ [.advance i])).parties[i]? = some ⟨r, .finished ending⟩
  /-- A setup that is not refused succeeds then. -/
  retried {r : Errand κ β π} {s : Scanner κ β π} (hempty : (after E announce turns).shared = none)
    (hr : r.Offers E announce s) : ∃ n,
    let k := (after E announce turns).parties.length
    (after E announce turns).after (conduct E announce)
        (.enter r :: List.replicate n (.advance k)) =
      ⟨some ⟨k, s⟩, (after E announce turns).parties ++ [⟨r, .finished .placed⟩]⟩
  /-- Whoever comes in between, all that can happen to it is to be late. -/
  offered {i : Nat} {r : Errand κ β π} {s : Scanner κ β π} {ending : Ending κ β π}
    (hr : r.Offers E announce s)
    (hp : (after E announce turns).parties[i]? = some ⟨r, .finished ending⟩)
    (hfailed : ending.reply.isOk = false) : ending = .late
  /-- Who is told that another scanner was set up in the meantime was overtaken, unless the engine
  itself said so. -/
  taken {i : Nat} {r : Errand κ β π} {ending : Ending κ β π}
    (hp : (after E announce turns).parties[i]? = some ⟨r, .finished ending⟩)
    (htaken : ending.reply = .error (.setup .taken)) :
    Overtaken E announce i turns ∨
      ∃ text c, (E.ingest (.source text) c).reply = .error (.setup .taken)
  /-- Who comes when there is a shared scanner has nothing compiled. -/
  spared {i : Nat} {first rest : List (Turn κ β π)} (hturns : turns = first ++ rest)
    (hfilled : (after E announce first).shared.isSome)
    (hi : (after E announce first).parties[i]? = none) :
    ∀ m ∈ Crowd.stepsOf i ((after E announce first).history (conduct E announce) rest),
      ∀ c ∈ calls m.trace, ¬c.compiles

theorem retried {turns : List (Turn κ β π)} {r : Errand κ β π} {s : Scanner κ β π}
    (hempty : (after E announce turns).shared = none) (hr : r.Offers E announce s) : ∃ n,
    let k := (after E announce turns).parties.length
    (after E announce turns).after (conduct E announce)
        (.enter r :: List.replicate n (.advance k)) =
      ⟨some ⟨k, s⟩, (after E announce turns).parties ++ [⟨r, .finished .placed⟩]⟩ := by
  have halone := (alone_offers (i := (after E announce turns).parties.length) hr).1
  rw [← hempty] at halone
  obtain ⟨n, hafter, -⟩ := Crowd.after_alone (conduct E announce) halone
  exact ⟨n, hafter⟩

theorem undisturbed (turns : List (Turn κ β π)) (r : Errand κ β π) : ∃ n ending cell,
    let k := (after E announce turns).parties.length
    let comes := RuleScan.Turn.enter r :: List.replicate n (.advance k)
    let whole := perform E announce r (plain (after E announce turns).shared)
    (after E announce turns).after (conduct E announce) comes =
        ⟨cell, (after E announce turns).parties ++ [⟨r, .finished ending⟩]⟩ ∧
      ((after E announce turns).history (conduct E announce) comes).flatMap (·.trace) =
        whole.trace ∧
      whole.reply = ending.reply ∧ whole.state = plain cell := by
  obtain ⟨ending, cell, halone, hreply, hstate⟩ :=
    alone_perform E announce (after E announce turns).parties.length r
      (after E announce turns).shared
  obtain ⟨n, hafter, htrace⟩ := Crowd.after_alone (conduct E announce) halone
  exact ⟨n, ending, cell, hafter, htrace, hreply, hstate⟩

theorem missing {turns : List (Turn κ β π)} {r : Errand κ β π}
    (hempty : (after E announce turns).shared = none)
    (hp : (after E announce turns).parties[i]? = some ⟨r, .asking⟩) :
    (after E announce (turns ++ [.advance i])).parties[i]? = some ⟨r, .finished .missing⟩ := by
  rw [after_append, Crowd.after_cons, Crowd.after_nil, Crowd.take_advance_party _ hp, hempty]
  rfl

theorem taken {turns : List (Turn κ β π)} {r : Errand κ β π} {ending : Ending κ β π}
    (hp : (after E announce turns).parties[i]? = some ⟨r, .finished ending⟩)
    (htaken : ending.reply = .error (.setup .taken)) :
    Overtaken E announce i turns ∨
      ∃ text c, (E.ingest (.source text) c).reply = .error (.setup .taken) := by
  cases ending with
  | late => exact .inl (overtaken hp)
  | refused h =>
    cases fits hp with
    | refused hr =>
      obtain rfl : h = .failure (.setup .taken) := Halt.reply_inj.1 htaken
      cases prepare_errs _ _ _ hr with
      | ingest h => exact .inr ⟨_, _, h⟩
  | _ => cases htaken

theorem setOnce_after (E : Engine κ β) (announce : Bool) (turns : List (Turn κ β π)) :
    SetOnce E announce turns where
  undisturbed := undisturbed turns
  kept hturns he := by
    subst hturns
    exact kept he _
  filled {e} he := by
    obtain ⟨first, rest, r, s, hsplit, hempty, hplacing, hused⟩ := filled_by (w := nobody) rfl he
    have hplacing : (after E announce first).parties[e.owner]? = some ⟨r, .placing s⟩ := hplacing
    cases fits hplacing with
    | placing hr => exact ⟨first, rest, r, s, hsplit, hempty, hplacing, hr, hused⟩
  told := told_shared
  answered hp hr hok := by
    cases fits hp with
    | found _ => exact found_shared hp
    | placed _ =>
      obtain ⟨s, hs⟩ := placed_owner hp
      exact Option.isSome_iff_exists.2 ⟨_, hs⟩
    | late _ => cases hok
    | @refused _ _ h _ => exact absurd (h.reply_isOk.symm.trans hok) Bool.false_ne_true
    | told e => cases hr
    | missing => cases hr
  failed hp hfailed e he hown := by
    obtain ⟨r, hplaced⟩ := owner_placed he
    rw [hown, hp] at hplaced
    cases hplaced
    cases hfailed
  empty hfailed := by
    cases he : (after E announce turns).shared with
    | none => rfl
    | some e =>
      obtain ⟨r, hplaced⟩ := owner_placed he
      exact absurd (hfailed _ _ _ hplaced) (by simp [Ending.reply, Reply.isOk])
  missing hempty hp := ⟨.missing, rfl, missing hempty hp⟩
  retried := retried
  offered hr hp hfailed := by
    cases fits hp with
    | late _ => rfl
    | @refused _ _ h hhalt =>
      cases hr with
      | sources hok => exact absurd (congrArg Reply.isOk (hok.symm.trans hhalt)) (by
          rw [h.reply_isOk]
          exact fun h => by cases h)
    | found _ => cases hfailed
    | placed _ => cases hfailed
    | told e => cases hfailed
    | missing => cases hr
  taken := taken
  spared {i first rest} hturns hfilled hi := by
    obtain ⟨e, he⟩ := Option.isSome_iff_exists.1 hfilled
    cases hp : (after E announce (first ++ rest)).parties[i]? with
    | none =>
      rw [after_append] at hp
      rw [Crowd.stepsOf_of_none _ hp]
      exact fun m hm => by cases hm
    | some p => exact (later_spared he hi hp).2

/-- **The shared scanner is set once**, however its callers get in between each other; and the
engine of a toolchain does not say that it was set up in the meantime. -/
theorem set_once : (∀ (E : Engine κ β) (announce : Bool) (turns : List (Turn κ β π)),
      SetOnce E announce turns) ∧
    ∀ {C R : Type} (T : Rules.Toolchain C R) (fs : Files) (text : String) (c : Rules.Collector C),
      ((T.engine fs).ingest (.source text) c).reply ≠ .error (.setup .taken) := by
  refine ⟨setOnce_after, fun T fs text c h => ?_⟩
  obtain ⟨fault, hfault⟩ := T.engine_ingest_error fs h
  cases hfault

end Shared

end RuleScan
