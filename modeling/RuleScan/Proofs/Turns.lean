import Mathlib.Data.List.Induction
import Mathlib.Order.WellFounded
import RuleScan.Trace

/-!
# Parties that take turns

Parties such as threads work with one state that they share. What they do comes in some order, as a
list of turns: a new party enters with an errand, a party makes its next step, or something else is
done with the state. No order is excluded, so that what holds for every list of turns holds for
every way in which parties may get in between each other. A step that would have to wait leaves
everything as it is, and is tried again at a later turn.

A turn concerns one party at most (`Crowd.party_take`). What holds before the first turn and is kept
by each of them holds after all (`Crowd.run_induction`), and what becomes of one party can be told
from its own steps (`Crowd.party_induction`). A party whose steps bring it closer to its end is done
at some time if it always gets another turn (`Crowd.done_of_fair`). A party that nothing comes in
between is the subject of `Crowd.after_alone`.
-/

namespace RuleScan

variable {σ ρ τ ω : Type}

/-- Someone with an errand, and where they are with it. -/
structure Party (ρ τ : Type) where
  errand : ρ
  stage : τ

/-- Parties beside each other, and the state that they share. They stay also when they are done. -/
structure Crowd (σ ρ τ : Type) where
  shared : σ
  parties : List (Party ρ τ) := []

/-- What happens next. -/
inductive Turn (ρ ω : Type)
  /-- A new party enters. -/
  | enter (errand : ρ)
  /-- A party makes its next step. -/
  | advance (i : Nat)
  /-- Something else is done with the shared state. -/
  | aside (op : ω)

/-- The errand with which a party enters. -/
def Turn.errand? : Turn ρ ω → Option ρ
  | .enter errand => some errand
  | _ => none

/-- How parties behave that share a state. -/
structure Conduct (σ ρ τ ω : Type) where
  start : ρ → τ
  /-- The next step of the party of that number. -/
  step : Nat → ρ → τ → σ → τ × σ × List Event
  aside : ω → σ → σ × List Event

/-- A turn, with what was before it and after it and the trace that it left. -/
structure Occasion (σ ρ τ ω : Type) where
  turn : Turn ρ ω
  before : Crowd σ ρ τ
  after : Crowd σ ρ τ
  trace : List Event

/-- The party of some number that makes a step on an occasion, if it does. -/
def Occasion.party? (i : Nat) (m : Occasion σ ρ τ ω) : Option (Party ρ τ) :=
  match m.turn with
  | .advance j => if j = i then m.before.parties[i]? else none
  | _ => none

/-- The stage from which the party of some number makes a step on an occasion, if it does. -/
def Occasion.stage? (i : Nat) (m : Occasion σ ρ τ ω) : Option τ := (m.party? i).map (·.stage)

namespace Crowd

variable (C : Conduct σ ρ τ ω)

/-- Takes a turn. A party that is not there makes no steps. -/
def take (w : Crowd σ ρ τ) : Turn ρ ω → Crowd σ ρ τ × List Event
  | .enter r => ({ w with parties := w.parties ++ [⟨r, C.start r⟩] }, [])
  | .advance i =>
    match w.parties[i]? with
    | none => (w, [])
    | some p =>
      let (stage, shared, trace) := C.step i p.errand p.stage w.shared
      ({ shared, parties := w.parties.set i { p with stage } }, trace)
  | .aside op =>
    let (shared, trace) := C.aside op w.shared
    ({ w with shared }, trace)

/-- What a turn is in the course of things. -/
def occasion (w : Crowd σ ρ τ) (turn : Turn ρ ω) : Occasion σ ρ τ ω :=
  ⟨turn, w, (w.take C turn).1, (w.take C turn).2⟩

/-- What is after some turns. -/
def after (w : Crowd σ ρ τ) (turns : List (Turn ρ ω)) : Crowd σ ρ τ :=
  turns.foldl (fun w turn => (w.take C turn).1) w

/-- The course of some turns. -/
def history (w : Crowd σ ρ τ) : List (Turn ρ ω) → List (Occasion σ ρ τ ω)
  | [] => []
  | turn :: rest => w.occasion C turn :: history (w.take C turn).1 rest

/-- The trace of some turns. -/
def trace (w : Crowd σ ρ τ) (turns : List (Turn ρ ω)) : List Event :=
  (w.history C turns).flatMap (·.trace)

/-- The steps that a party made in the course of things. -/
def stepsOf (i : Nat) (h : List (Occasion σ ρ τ ω)) : List (Occasion σ ρ τ ω) :=
  h.filter fun m => (m.party? i).isSome

/-- Where a party is. -/
def stage? (w : Crowd σ ρ τ) (i : Nat) : Option τ := w.parties[i]?.map (·.stage)

@[simp] theorem after_nil (w : Crowd σ ρ τ) : w.after C [] = w := rfl

theorem after_append (w : Crowd σ ρ τ) (first rest : List (Turn ρ ω)) :
    w.after C (first ++ rest) = (w.after C first).after C rest :=
  List.foldl_append

theorem after_cons (w : Crowd σ ρ τ) (turn : Turn ρ ω) (rest : List (Turn ρ ω)) :
    w.after C (turn :: rest) = (w.take C turn).1.after C rest := rfl

theorem after_concat (w : Crowd σ ρ τ) (first : List (Turn ρ ω)) (turn : Turn ρ ω) :
    w.after C (first ++ [turn]) = ((w.after C first).take C turn).1 :=
  w.after_append C first [turn]

theorem after_split (w : Crowd σ ρ τ) (first : List (Turn ρ ω)) (turn : Turn ρ ω)
    (rest : List (Turn ρ ω)) :
    w.after C (first ++ turn :: rest) = (w.after C (first ++ [turn])).after C rest := by
  rw [← after_append, List.append_assoc]
  rfl

theorem trace_cons (w : Crowd σ ρ τ) (turn : Turn ρ ω) (rest : List (Turn ρ ω)) :
    w.trace C (turn :: rest) = (w.take C turn).2 ++ (w.take C turn).1.trace C rest := rfl

theorem history_append (w : Crowd σ ρ τ) (first rest : List (Turn ρ ω)) :
    w.history C (first ++ rest) =
      w.history C first ++ (w.after C first).history C rest := by
  induction first generalizing w with
  | nil => rfl
  | cons turn first ih => exact congrArg (_ :: ·) (ih _)

theorem history_concat (w : Crowd σ ρ τ) (first : List (Turn ρ ω)) (turn : Turn ρ ω) :
    w.history C (first ++ [turn]) = w.history C first ++ [(w.after C first).occasion C turn] :=
  w.history_append C first [turn]

theorem trace_append (w : Crowd σ ρ τ) (first rest : List (Turn ρ ω)) :
    w.trace C (first ++ rest) = w.trace C first ++ (w.after C first).trace C rest := by
  rw [trace, history_append, List.flatMap_append]
  rfl

/-- An occasion comes after some of the turns and before the others. -/
theorem split_of_mem {w : Crowd σ ρ τ} {turns : List (Turn ρ ω)} {m : Occasion σ ρ τ ω}
    (hm : m ∈ w.history C turns) :
    ∃ first rest, turns = first ++ m.turn :: rest ∧ m = (w.after C first).occasion C m.turn := by
  induction turns generalizing w with
  | nil => cases hm
  | cons turn rest ih =>
    rcases List.mem_cons.1 hm with rfl | hm
    · exact ⟨[], rest, rfl, rfl⟩
    · obtain ⟨first, rest, rfl, hoccasion⟩ := ih hm
      exact ⟨turn :: first, rest, rfl, hoccasion⟩

/-! ## Parties -/

theorem take_of_none {w : Crowd σ ρ τ} {i : Nat} (hi : w.parties[i]? = none) :
    w.take C (.advance i) = (w, []) := by
  unfold take
  simp only [hi]

theorem take_of_some {w : Crowd σ ρ τ} {i : Nat} {p : Party ρ τ} (hp : w.parties[i]? = some p) :
    w.take C (.advance i) =
      (⟨(C.step i p.errand p.stage w.shared).2.1,
        w.parties.set i ⟨p.errand, (C.step i p.errand p.stage w.shared).1⟩⟩,
        (C.step i p.errand p.stage w.shared).2.2) := by
  unfold take
  simp only [hp]

/-- What a turn does to the party of some number. -/
inductive PartyTake (i : Nat) (w : Crowd σ ρ τ) : Turn ρ ω → Option (Party ρ τ) → Prop
  | advance {p : Party ρ τ} (hp : w.parties[i]? = some p) :
      PartyTake i w (.advance i)
        (some ⟨p.errand, (C.step i p.errand p.stage w.shared).1⟩)
  | enter {r : ρ} (hi : w.parties[i]? = none) : PartyTake i w (.enter r) (some ⟨r, C.start r⟩)
  | stay {turn : Turn ρ ω} (hturn : turn = .advance i → w.parties[i]? = none) :
      PartyTake i w turn w.parties[i]?

/-- **A turn concerns one party at most.** -/
theorem party_take (i : Nat) (w : Crowd σ ρ τ) (turn : Turn ρ ω) :
    PartyTake C i w turn (w.take C turn).1.parties[i]? := by
  cases turn with
  | enter r =>
    have hparties : (w.take C (.enter r)).1.parties = w.parties ++ [⟨r, C.start r⟩] := rfl
    rw [hparties]
    rcases Nat.lt_trichotomy i w.parties.length with hi | rfl | hi
    · rw [List.getElem?_append_left hi]
      exact .stay fun h => by cases h
    · rw [List.getElem?_concat_length]
      exact .enter (List.getElem?_eq_none (Nat.le_refl _))
    · have hlength : (w.parties ++ [Party.mk r (C.start r)]).length ≤ i := by
        rw [List.length_append]
        exact hi
      have hnone : (w.parties ++ [Party.mk r (C.start r)])[i]? = w.parties[i]? := by
        rw [List.getElem?_eq_none (Nat.le_of_lt hi), List.getElem?_eq_none hlength]
      rw [hnone]
      exact .stay fun h => by cases h
  | advance j =>
    cases hj : w.parties[j]? with
    | none =>
      rw [take_of_none C hj]
      exact .stay fun h => by cases h; exact hj
    | some p =>
      rw [take_of_some C hj]
      by_cases hij : j = i
      · subst hij
        rw [List.getElem?_set_self (List.getElem?_eq_some_iff.1 hj).1]
        exact .advance hj
      · rw [List.getElem?_set_ne hij]
        exact .stay fun h => by cases h; exact absurd rfl hij
  | aside op => exact .stay fun h => by cases h

/-- After its step a party is at the next stage. -/
theorem take_advance_party {w : Crowd σ ρ τ} {i : Nat} {p : Party ρ τ}
    (hp : w.parties[i]? = some p) :
    (w.take C (.advance i)).1.parties[i]? =
      some ⟨p.errand, (C.step i p.errand p.stage w.shared).1⟩ := by
  rw [take_of_some C hp]
  exact List.getElem?_set_self (List.getElem?_eq_some_iff.1 hp).1

theorem stage?_eq_some {w : Crowd σ ρ τ} {i : Nat} {stage : τ} :
    w.stage? i = some stage ↔ ∃ r, w.parties[i]? = some ⟨r, stage⟩ := by
  rw [stage?, Option.map_eq_some_iff]
  constructor
  · rintro ⟨p, hp, rfl⟩
    exact ⟨p.errand, hp⟩
  · rintro ⟨r, hr⟩
    exact ⟨_, hr, rfl⟩

theorem stage?_advance {w : Crowd σ ρ τ} {i : Nat} {p : Party ρ τ} (hp : w.parties[i]? = some p) :
    (w.take C (.advance i)).1.stage? i = some (C.step i p.errand p.stage w.shared).1 := by
  rw [stage?, take_advance_party C hp]
  rfl

/-- A step of another party does not move a party. -/
theorem stage?_other {i j : Nat} (hij : i ≠ j) (w : Crowd σ ρ τ) :
    (w.take C (.advance i)).1.stage? j = w.stage? j := by
  cases hp : w.parties[i]? with
  | none => rw [take_of_none C hp]
  | some p => rw [take_of_some C hp, stage?, stage?, List.getElem?_set_ne hij]

/-- Who was there is not moved when another party enters. -/
theorem stage?_enter (w : Crowd σ ρ τ) (r : ρ) (i : Nat) :
    (w.take C (.enter r)).1.stage? i = w.stage? i ∨
      w.stage? i = none ∧ (w.take C (.enter r)).1.stage? i = some (C.start r) := by
  have htake := party_take C i w (.enter r)
  unfold stage?
  generalize (w.take C (.enter r)).1.parties[i]? = o at htake
  cases htake with
  | enter hi => exact .inr ⟨by rw [hi]; rfl, rfl⟩
  | stay _ => exact .inl rfl

/-- No party is lost, and none changes its errand. -/
theorem party_of_some {w : Crowd σ ρ τ} {i : Nat} {p : Party ρ τ} (hp : w.parties[i]? = some p)
    (turns : List (Turn ρ ω)) :
    ∃ q, (w.after C turns).parties[i]? = some q ∧ q.errand = p.errand := by
  induction turns generalizing w p with
  | nil => exact ⟨p, hp, rfl⟩
  | cons turn rest ih =>
    have htake := party_take C i w turn
    rw [after_cons]
    generalize ho : (w.take C turn).1.parties[i]? = o at htake
    cases htake with
    | @advance q hq =>
      obtain rfl : p = q := Option.some.inj (hp.symm.trans hq)
      obtain ⟨q, hq, herrand⟩ := ih ho
      exact ⟨q, hq, herrand⟩
    | enter hi => exact absurd (hp.symm.trans hi) (by simp)
    | stay _ => exact ih (ho.trans hp)

/-- **The parties are those that entered**, in this order, behind those that were there. -/
theorem after_errands (w : Crowd σ ρ τ) (turns : List (Turn ρ ω)) :
    (w.after C turns).parties.map (·.errand) =
      w.parties.map (·.errand) ++ turns.filterMap Turn.errand? := by
  induction turns generalizing w with
  | nil => exact (List.append_nil _).symm
  | cons turn rest ih =>
    rw [after_cons, ih]
    cases turn with
    | enter r =>
      have hparties : (w.take C (.enter r)).1.parties = w.parties ++ [⟨r, C.start r⟩] := rfl
      rw [hparties, List.map_append, List.append_assoc]
      rfl
    | advance i =>
      refine congrArg (· ++ rest.filterMap Turn.errand?) ?_
      cases hi : w.parties[i]? with
      | none => rw [take_of_none C hi]
      | some p =>
        rw [take_of_some C hi]
        dsimp only
        rw [List.map_set]
        refine List.ext_getElem? fun j => ?_
        by_cases hij : i = j
        · subst hij
          rw [List.getElem?_set_self', List.getElem?_map, hi]
          rfl
        · rw [List.getElem?_set_ne hij]
    | aside op => rfl

/-- What does not hold at first and holds later begins to hold at some turn. -/
theorem begins {w : Crowd σ ρ τ} {q : Crowd σ ρ τ → Prop} (hnot : ¬q w)
    {turns : List (Turn ρ ω)} (h : q (w.after C turns)) :
    ∃ first turn rest, turns = first ++ turn :: rest ∧ ¬q (w.after C first) ∧
      q ((w.after C first).take C turn).1 := by
  induction turns using List.reverseRecOn with
  | nil => exact absurd h hnot
  | append_singleton before turn ih =>
    rw [after_concat] at h
    by_cases hbefore : q (w.after C before)
    · obtain ⟨first, last, rest, rfl, hsplit⟩ := ih hbefore
      exact ⟨first, last, rest ++ [turn], by simp, hsplit⟩
    · exact ⟨before, turn, [], rfl, hbefore, h⟩

/-- A party that was not there at first is where it started or has made a step that led to where it
is. -/
theorem came_from {w : Crowd σ ρ τ} {i : Nat} (hi : w.parties[i]? = none)
    {turns : List (Turn ρ ω)} {p : Party ρ τ} (hp : (w.after C turns).parties[i]? = some p) :
    p.stage = C.start p.errand ∨ ∃ first rest stage,
      turns = first ++ .advance i :: rest ∧
      (w.after C first).parties[i]? = some ⟨p.errand, stage⟩ ∧ stage ≠ p.stage ∧
      (C.step i p.errand stage (w.after C first).shared).1 = p.stage := by
  have hnot : ¬w.parties[i]? = some p := by simp [hi]
  obtain ⟨first, turn, rest, rfl, hbefore, hafter⟩ :=
    begins C (q := fun v => v.parties[i]? = some p) hnot hp
  have htake := party_take C i (w.after C first) turn
  rw [hafter] at htake
  generalize ho : some p = o at htake
  cases htake with
  | @advance q hq =>
    obtain rfl := Option.some.inj ho
    refine .inr ⟨first, rest, q.stage, rfl, hq, fun hsame => hbefore ?_, rfl⟩
    dsimp only at hsame
    rw [hq, ← hsame]
  | enter _ =>
    obtain rfl := Option.some.inj ho
    exact .inl rfl
  | stay _ => exact absurd ho.symm hbefore

/-- A party that its steps leave where it is stays there. -/
theorem party_stays {w : Crowd σ ρ τ} {i : Nat} {p : Party ρ τ} (hp : w.parties[i]? = some p)
    (hstays : ∀ s, (C.step i p.errand p.stage s).1 = p.stage) (turns : List (Turn ρ ω)) :
    (w.after C turns).parties[i]? = some p := by
  induction turns using List.reverseRecOn with
  | nil => exact hp
  | append_singleton before turn ih =>
    have htake := party_take C i (w.after C before) turn
    rw [after_concat]
    generalize ((w.after C before).take C turn).1.parties[i]? = o at htake
    cases htake with
    | @advance q hq =>
      obtain rfl : p = q := Option.some.inj (ih.symm.trans hq)
      rw [hstays]
    | enter hi => exact absurd (ih.symm.trans hi) (by simp)
    | stay _ => exact ih

theorem party?_eq_some {i : Nat} {m : Occasion σ ρ τ ω} {p : Party ρ τ}
    (h : m.party? i = some p) : m.turn = .advance i ∧ m.before.parties[i]? = some p := by
  unfold Occasion.party? at h
  split at h
  · next j hturn =>
    split at h
    · next hij => exact ⟨hij ▸ hturn, h⟩
    · cases h
  · cases h

theorem trace_advance {w : Crowd σ ρ τ} {i : Nat} {p : Party ρ τ} (hp : w.parties[i]? = some p) :
    (w.occasion C (.advance i)).trace = (C.step i p.errand p.stage w.shared).2.2 := by
  rw [occasion, take_of_some C hp]

theorem party?_advance (i : Nat) (w : Crowd σ ρ τ) :
    (w.occasion C (.advance i)).party? i = w.parties[i]? := by
  simp [Occasion.party?, occasion]

theorem party?_eq_none {i : Nat} {w : Crowd σ ρ τ} {turn : Turn ρ ω}
    (h : turn = .advance i → w.parties[i]? = none) : (w.occasion C turn).party? i = none := by
  cases hparty : (w.occasion C turn).party? i with
  | none => rfl
  | some p =>
    obtain ⟨hturn, hp⟩ := party?_eq_some hparty
    have hnone : w.parties[i]? = none := h hturn
    exact absurd (hp.symm.trans hnone) (by simp)

theorem stage?_occasion (i : Nat) (w : Crowd σ ρ τ) :
    (w.occasion C (.advance i)).stage? i = w.stage? i := by
  rw [Occasion.stage?, party?_advance, stage?]

theorem occasion_stage?_eq_none {i : Nat} {w : Crowd σ ρ τ} {turn : Turn ρ ω}
    (h : turn = .advance i → w.parties[i]? = none) : (w.occasion C turn).stage? i = none := by
  rw [Occasion.stage?, party?_eq_none C h, Option.map_none]

theorem occasion_stage?_eq_some {i : Nat} {m : Occasion σ ρ τ ω} {stage : τ}
    (h : m.stage? i = some stage) :
    m.turn = .advance i ∧ ∃ r, m.before.parties[i]? = some ⟨r, stage⟩ := by
  obtain ⟨p, hp, rfl⟩ := Option.map_eq_some_iff.1 h
  obtain ⟨hturn, hp⟩ := party?_eq_some hp
  exact ⟨hturn, p.errand, hp⟩

theorem stepsOf_concat (i : Nat) (h : List (Occasion σ ρ τ ω)) (m : Occasion σ ρ τ ω) :
    stepsOf i (h ++ [m]) = stepsOf i h ++ if (m.party? i).isSome then [m] else [] := by
  rw [stepsOf, stepsOf, List.filter_append, List.filter_cons]
  rfl

/-! ## Runs -/

/-- **What every turn keeps** holds after all turns, with their course. -/
theorem run_induction {w : Crowd σ ρ τ} {q : List (Occasion σ ρ τ ω) → Crowd σ ρ τ → Prop}
    (hstart : q [] w)
    (hturn : ∀ h v turn, q h v → q (h ++ [v.occasion C turn]) (v.take C turn).1)
    (turns : List (Turn ρ ω)) : q (w.history C turns) (w.after C turns) := by
  induction turns using List.reverseRecOn with
  | nil => exact hstart
  | append_singleton first turn ih =>
    rw [history_concat, after_concat]
    exact hturn _ _ turn ih

/-- Who is not there made no steps. -/
theorem stepsOf_of_none {w : Crowd σ ρ τ} {turns : List (Turn ρ ω)} {i : Nat}
    (hi : (w.after C turns).parties[i]? = none) : stepsOf i (w.history C turns) = [] := by
  rw [stepsOf, List.filter_eq_nil_iff]
  intro m hm hsome
  obtain ⟨p, hp⟩ := Option.isSome_iff_exists.1 hsome
  obtain ⟨first, rest, hsplit, hoccasion⟩ := split_of_mem C hm
  obtain ⟨-, hp⟩ := party?_eq_some hp
  rw [hoccasion] at hp
  have hp : (w.after C first).parties[i]? = some p := hp
  obtain ⟨q, hq, -⟩ := party_of_some C hp (m.turn :: rest)
  rw [hsplit, after_append, hq] at hi
  cases hi

/-- **What becomes of a party** can be told from its own steps: what holds when it enters and is
kept by each of its steps holds at its stage, whatever comes in between. -/
theorem party_induction {w : Crowd σ ρ τ} {i : Nat} (hi : w.parties[i]? = none)
    {q : ρ → List (Occasion σ ρ τ ω) → τ → Prop} (hstart : ∀ r, q r [] (C.start r))
    {turns : List (Turn ρ ω)}
    (hstep : ∀ first rest p, turns = first ++ .advance i :: rest →
      (w.after C first).parties[i]? = some p →
      q p.errand (stepsOf i (w.history C first)) p.stage →
      q p.errand
        (stepsOf i (w.history C first) ++ [(w.after C first).occasion C (.advance i)])
        (C.step i p.errand p.stage (w.after C first).shared).1)
    {p : Party ρ τ} (hp : (w.after C turns).parties[i]? = some p) :
    q p.errand (stepsOf i (w.history C turns)) p.stage := by
  induction turns using List.reverseRecOn generalizing p with
  | nil => exact absurd (hi.symm.trans hp) (by simp)
  | append_singleton first turn ih =>
    have ih {p : Party ρ τ} := @ih (fun before rest p hsplit =>
      hstep before (rest ++ [turn]) p (by rw [hsplit, List.append_assoc, List.cons_append])) p
    have htake := party_take C i (w.after C first) turn
    rw [after_concat] at hp
    rw [hp] at htake
    rw [history_concat, stepsOf_concat]
    generalize ho : some p = o at htake
    cases htake with
    | @advance q hq =>
      obtain rfl := Option.some.inj ho
      rw [party?_advance, hq]
      exact hstep first [] q rfl hq (ih hq)
    | enter hnone =>
      obtain rfl := Option.some.inj ho
      rw [party?_eq_none C (fun h => by cases h), Option.isSome_none, if_neg Bool.false_ne_true,
        List.append_nil, stepsOf_of_none C hnone]
      exact hstart _
    | stay hturn =>
      rw [party?_eq_none C hturn, Option.isSome_none, if_neg Bool.false_ne_true, List.append_nil]
      exact ih ho.symm

/-! ## Endless runs -/

/-- What is after the first turns of an endless run. -/
def stateAt (w : Crowd σ ρ τ) (run : Nat → Turn ρ ω) (n : Nat) : Crowd σ ρ τ :=
  w.after C ((List.range n).map run)

theorem stateAt_succ (w : Crowd σ ρ τ) (run : Nat → Turn ρ ω) (n : Nat) :
    w.stateAt C run (n + 1) = ((w.stateAt C run n).take C (run n)).1 := by
  rw [stateAt, List.range_succ, List.map_append, List.map_singleton, after_concat]
  rfl

section Progress

variable {δ : Type} [Preorder δ] {rank : ρ → τ → δ} {isDone : τ → Bool}
  (hstep : ∀ i r stage s, isDone stage ∨ rank r (C.step i r stage s).1 < rank r stage)

include hstep

/-- Until a party is done it does not get further away from its end. -/
theorem done_or_rank_le {w : Crowd σ ρ τ} {run : Nat → Turn ρ ω} {i n : Nat} {p : Party ρ τ}
    (hp : (w.stateAt C run n).parties[i]? = some p) (k : Nat) :
    (∃ m q, (w.stateAt C run m).parties[i]? = some q ∧ q.errand = p.errand ∧ isDone q.stage) ∨
      ∃ q, (w.stateAt C run (n + k)).parties[i]? = some q ∧ q.errand = p.errand ∧
        rank p.errand q.stage ≤ rank p.errand p.stage := by
  induction k with
  | zero => exact .inr ⟨p, hp, rfl, le_rfl⟩
  | succ k ih =>
    rcases ih with hdone | ⟨q, hq, herrand, hle⟩
    · exact .inl hdone
    · rw [← Nat.add_assoc, stateAt_succ]
      generalize run (n + k) = turn
      have htake := party_take C i (w.stateAt C run (n + k)) turn
      generalize ((w.stateAt C run (n + k)).take C turn).1.parties[i]? = o at htake
      cases htake with
      | @advance q' hq' =>
        obtain rfl : q = q' := Option.some.inj (hq.symm.trans hq')
        refine (hstep i q.errand q.stage (w.stateAt C run (n + k)).shared).imp
          (fun hdone => ⟨n + k, q, hq, herrand, hdone⟩) fun hlt => ?_
        rw [herrand] at hlt
        exact ⟨_, rfl, herrand, herrand ▸ hlt.le.trans hle⟩
      | enter hi => exact absurd (hq.symm.trans hi) (by simp)
      | stay _ => exact .inr ⟨q, hq, herrand, hle⟩

/-- **A party that always gets another turn is done at some time**, whatever comes in between, if
each of its steps before that brings it closer to its end. -/
theorem done_of_fair [WellFoundedLT δ] {w : Crowd σ ρ τ} {run : Nat → Turn ρ ω} {i : Nat}
    (hfair : ∀ n, ∃ m, n ≤ m ∧ run m = .advance i) {n : Nat} {p : Party ρ τ}
    (hp : (w.stateAt C run n).parties[i]? = some p) :
    ∃ m q, (w.stateAt C run m).parties[i]? = some q ∧ q.errand = p.errand ∧ isDone q.stage := by
  -- every step that is made before the end takes the rank down
  induction hrank : rank p.errand p.stage using WellFoundedLT.induction generalizing n p with
  | ind r ih =>
    obtain ⟨m, hm, hrun⟩ := hfair n
    obtain ⟨k, rfl⟩ := Nat.exists_eq_add_of_le hm
    rcases done_or_rank_le C hstep hp k with hdone | ⟨q, hq, herrand, hle⟩
    · exact hdone
    · rcases hstep i q.errand q.stage (w.stateAt C run (n + k)).shared with hdone | hlt
      · exact ⟨n + k, q, hq, herrand, hdone⟩
      · have hnext := take_advance_party C hq
        rw [← hrun, ← stateAt_succ] at hnext
        rw [herrand] at hlt
        obtain ⟨l, q', hq', herrand', hdone⟩ := ih _ (hrank ▸ hlt.trans_le hle) hnext
          (by dsimp only; rw [herrand])
        exact ⟨l, q', hq', herrand'.trans herrand, hdone⟩

/-- It is done after some steps of its own, if nothing comes in between. -/
theorem done_after_steps [WellFoundedLT δ] {w : Crowd σ ρ τ} {i : Nat} {p : Party ρ τ}
    (hp : w.parties[i]? = some p) :
    ∃ n q, (w.after C (List.replicate n (.advance i))).parties[i]? = some q ∧
      q.errand = p.errand ∧ isDone q.stage := by
  let run : Nat → Turn ρ ω := Function.const Nat (.advance i)
  have hfair (n : Nat) : ∃ m, n ≤ m ∧ run m = .advance i := ⟨n, le_rfl, rfl⟩
  have hstart : (w.stateAt C run 0).parties[i]? = some p := hp
  obtain ⟨n, q, hq, hdone⟩ := done_of_fair C hstep hfair hstart
  rw [stateAt, List.map_const, List.length_range] at hq
  exact ⟨n, q, hq, hdone⟩

end Progress

/-! ## A party alone -/

/-- The steps of a party that nothing comes in between, with the trace that they leave. -/
inductive Alone (i : Nat) (r : ρ) : τ → σ → List Event → τ → σ → Prop
  | refl (stage : τ) (s : σ) : Alone i r stage s [] stage s
  | step {stage mid last : τ} {s t u : σ} {trace rest : List Event}
      (h : C.step i r stage s = (mid, t, trace)) (hrest : Alone i r mid t rest last u) :
      Alone i r stage s (trace ++ rest) last u

variable {C} in
theorem Alone.trans {i : Nat} {r : ρ} {first mid last : τ} {s t u : σ} {trace rest : List Event}
    (h : Alone C i r first s trace mid t) (hrest : Alone C i r mid t rest last u) :
    Alone C i r first s (trace ++ rest) last u := by
  induction h with
  | refl stage s => exact hrest
  | step hstep _ ih =>
    rw [List.append_assoc]
    exact .step hstep (ih hrest)

variable {C} in
/-- A first step that leaves no trace. -/
theorem Alone.silent {i : Nat} {r : ρ} {stage mid last : τ} {s t u : σ} {trace : List Event}
    (h : C.step i r stage s = (mid, t, [])) (hrest : Alone C i r mid t trace last u) :
    Alone C i r stage s trace last u :=
  .step h hrest

theorem Alone.single (i : Nat) (r : ρ) (stage : τ) (s : σ) :
    Alone C i r stage s (C.step i r stage s).2.2 (C.step i r stage s).1
      (C.step i r stage s).2.1 := by
  rw [← List.append_nil (C.step i r stage s).2.2]
  exact .step rfl (.refl _ _)

variable {C} in
/-- Parties that work with a part of a state, in stages that are a part of others, do there what
they do with that part alone. -/
theorem Alone.embed {σ' ρ' τ' ω' : Type} {D : Conduct σ' ρ' τ' ω'} {i : Nat} {r : ρ} {r' : ρ'}
    {w : τ → τ'} {get : σ' → σ} {put : σ' → σ → σ'} (hget : ∀ u s, get (put u s) = s)
    (hself : ∀ u, put u (get u) = u) (hput : ∀ u s t, put (put u s) t = put u t)
    (hstep : ∀ stage u, D.step i r' (w stage) u =
      (w (C.step i r stage (get u)).1, put u (C.step i r stage (get u)).2.1,
        (C.step i r stage (get u)).2.2))
    {first last : τ} {s t : σ} {trace : List Event} (h : Alone C i r first s trace last t) {u : σ'}
    (hu : get u = s) : Alone D i r' (w first) u trace (w last) (put u t) := by
  induction h generalizing u with
  | refl stage s =>
    rw [← hu, hself]
    exact .refl _ _
  | @step stage mid last s t v trace rest h _ ih =>
    have hfirst := hstep stage u
    have hrest := ih (hget u t)
    rw [hu, h] at hfirst
    rw [hput] at hrest
    exact .step hfirst hrest

theorem set_last {α : Type} (l : List α) (a b : α) : (l ++ [a]).set l.length b = l ++ [b] := by
  rw [List.set_append_right _ _ (Nat.le_refl _), Nat.sub_self, List.set_cons_zero]

/-- The last party makes steps without anything in between. -/
theorem after_steps {r : ρ} {stage stage' : τ} {s s' : σ} {trace : List Event}
    {others : List (Party ρ τ)} (h : Alone C others.length r stage s trace stage' s') :
    ∃ n, (Crowd.mk s (others ++ [⟨r, stage⟩])).after C
          (List.replicate n (.advance others.length)) = ⟨s', others ++ [⟨r, stage'⟩]⟩ ∧
      (Crowd.mk s (others ++ [⟨r, stage⟩])).trace C
          (List.replicate n (.advance others.length)) = trace := by
  induction h with
  | refl stage s => exact ⟨0, rfl, rfl⟩
  | @step stage mid last s t u trace rest hstep _ ih =>
    obtain ⟨n, hafter, htrace⟩ := ih
    have htake : (Crowd.mk s (others ++ [⟨r, stage⟩])).take C (.advance others.length) =
        (⟨t, others ++ [⟨r, mid⟩]⟩, trace) := by
      rw [take_of_some C List.getElem?_concat_length]
      dsimp only
      rw [set_last, hstep]
    refine ⟨n + 1, ?_, ?_⟩
    · rw [List.replicate_succ, after_cons, htake]
      exact hafter
    · rw [List.replicate_succ, trace_cons, htake, htrace]

/-- **A party that nothing comes in between** goes on to where its steps lead. -/
theorem after_alone {w : Crowd σ ρ τ} {r : ρ} {stage : τ} {s : σ} {trace : List Event}
    (h : Alone C w.parties.length r (C.start r) w.shared trace stage s) :
    ∃ n, w.after C (.enter r :: List.replicate n (.advance w.parties.length)) =
        ⟨s, w.parties ++ [⟨r, stage⟩]⟩ ∧
      w.trace C (.enter r :: List.replicate n (.advance w.parties.length)) = trace :=
  after_steps C h

end Crowd

end RuleScan
