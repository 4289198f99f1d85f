import RuleScan.Pacing
import RuleScan.Proofs.Turns

/-!
# Interrupted waits

Several threads use one strategy that delays its steps. Whether it is interrupted is written behind
a lock. A step takes the lock and looks; if it has to wait it gives the lock back and sleeps until
it is woken, or for no reason, and then takes the lock and looks again, as long as its time is not
over (`Pacer.Wait.next`). All others may get in between, and time passes.

To interrupt is to write that down and to wake all who sleep. What is written lasts until steps are
made to wait again, and no longer: a step that was woken finds the interruption if it looks before
that (`Pacer.interruption`), and sleeps on if it does not (`Pacer.resume_before_look`).
-/

namespace RuleScan.Pacer

/-- How long a step waits; nothing where steps never wait. -/
def delay : Pacer → Duration
  | fixedDelay d _ _ => d
  | _ => .ofNanos 0

/-- A strategy with those who wait for it. -/
structure Room where
  pacer : Pacer
  /-- Who holds the lock of what the strategy knows of interruptions. -/
  holder : Option Nat := none
  /-- Those who went to sleep and were not woken. -/
  sleepers : List Nat := []
  now : Nat := 0

/-- How a step returns. -/
inductive Return
  /-- It never had to wait. -/
  | free
  | cutShort
  | timedOut

/-- Where a step is. -/
inductive Wait
  | entered
  /-- It has the lock, and waits since some time. -/
  | looked (since : Nat)
  | asleep (since : Nat)
  | returned (how : Return)

namespace Room

/-- Somebody is awake. -/
def woken (i : Nat) (s : Room) : Room := { s with sleepers := s.sleepers.filter (· ≠ i) }

/-- Somebody has the lock. -/
def lock (i : Nat) (s : Room) : Room := { s.woken i with holder := some i }

/-- The lock is given back. -/
def unlock (s : Room) : Room := { s with holder := none }

/-- The lock is given back, and its holder sleeps. -/
def sleep (i : Nat) (s : Room) : Room := { s.unlock with sleepers := s.sleepers ++ [i] }

/-- Takes the lock and looks whether there is anything to wait for. -/
def look (i token since : Nat) (s : Room) : Wait × Room × List Event :=
  if s.pacer.isInterrupted then (.returned .cutShort, s.woken i, (s.pacer.step token).2)
  else (.looked since, s.lock i, [])

/-- What is done beside the steps. -/
inductive Op
  | interrupt
  | resume
  /-- Time passes. -/
  | pass (nanos : Nat)

/-- Does something beside the steps. To interrupt and to resume takes the lock, while time goes by
without it. -/
def perform : Op → Room → Room × List Event
  | .interrupt, s =>
    if s.holder.isSome then (s, [])
    else ({ s with pacer := s.pacer.interrupt.1, sleepers := [] }, s.pacer.interrupt.2)
  | .resume, s =>
    if s.holder.isSome then (s, []) else ({ s with pacer := s.pacer.resume }, [])
  | .pass nanos, s => ({ s with now := s.now + nanos }, [])

end Room

/-- The next step of the thread of some number, for a batch with that token. Where the lock is taken
it is tried again later. -/
def Wait.next (i token : Nat) : Wait → Room → Wait × Room × List Event
  | entered, s =>
    if s.pacer.delay.isZero then (returned .free, s, (s.pacer.step token).2)
    else if s.holder.isSome then (entered, s, [])
    else s.look i token s.now
  | looked since, s =>
    if s.pacer.delay.toNanos < s.now - since then
      (returned .timedOut, s.unlock, (s.pacer.step token).2)
    else (asleep since, s.sleep i, [])
  | asleep since, s =>
    if s.holder.isSome then (asleep since, s, []) else s.look i token since
  | returned how, s => (returned how, s, [])

/-- How threads behave that wait, each for a batch with some token. -/
def conduct : Conduct Room Nat Wait Room.Op where
  start _ := .entered
  step i token := Wait.next i token
  aside := Room.perform

theorem conduct_step (i token : Nat) (stage : Wait) (s : Room) :
    conduct.step i token stage s = stage.next i token s := rfl

/-- A turn of a thread, or of something beside. -/
abbrev Turn : Type := RuleScan.Turn Nat Room.Op

/-- Nobody came yet. -/
def nobody (p : Pacer) (now : Nat) : Crowd Room Nat Wait := { shared := { pacer := p, now } }

/-- What is after some turns. -/
def after (p : Pacer) (now : Nat) (turns : List Turn) : Crowd Room Nat Wait :=
  (nobody p now).after conduct turns

/-! ## Strategies -/

@[simp] theorem delay_interrupt (p : Pacer) : p.interrupt.1.delay = p.delay := by
  cases p <;> rfl

@[simp] theorem delay_resume (p : Pacer) : p.resume.delay = p.delay := by
  cases p <;> rfl

theorem isInterrupted_interrupt {p : Pacer} (h : p.delay.isZero = false) :
    p.interrupt.1.isInterrupted := by
  cases p with
  | fixedDelay d n i => rfl
  | unthrottled n => cases h
  | recording t => cases h

theorem isInterrupted_interrupt_of {p : Pacer} (h : p.isInterrupted) :
    p.interrupt.1.isInterrupted := by
  cases p with
  | fixedDelay d n i => rfl
  | unthrottled n => cases h
  | recording t => cases h

theorem waitsFully_eq (p : Pacer) : p.waitsFully = (p.delay.isZero || !p.isInterrupted) := by
  cases p <;> rfl

theorem step_fst (p : Pacer) (token : Nat) : (p.step token).1 = p := by
  cases p <;> rfl

@[simp] theorem isInterrupted_resume (p : Pacer) : p.resume.isInterrupted = false := by
  cases p <;> rfl

/-! ## A step -/

/-- What a step of a thread does. -/
inductive Wait.Made (i : Nat) : Wait → Room → Wait → Room → Prop
  | free {s : Room} (h : s.pacer.delay.isZero) : Made i entered s (returned .free) s
  | blocked (stage : Wait) {s : Room} (h : s.holder.isSome) : Made i stage s stage s
  | cutShort {stage : Wait} {s : Room} (hstage : stage = entered ∨ ∃ since, stage = asleep since)
      (hfree : s.holder = none) (hflag : s.pacer.isInterrupted) :
      Made i stage s (returned .cutShort) (s.woken i)
  | held {stage : Wait} {s : Room} {since : Nat} (hstage : stage = entered ∨ stage = asleep since)
      (hfree : s.holder = none) (hflag : s.pacer.isInterrupted = false) :
      Made i stage s (looked since) (s.lock i)
  | timedOut {s : Room} {since : Nat} (h : s.pacer.delay.toNanos < s.now - since) :
      Made i (looked since) s (returned .timedOut) s.unlock
  | slept (s : Room) (since : Nat) : Made i (looked since) s (asleep since) (s.sleep i)
  | stayed (how : Return) (s : Room) : Made i (returned how) s (returned how) s

theorem look_made {i token since : Nat} {s : Room} {stage : Wait}
    (hstage : stage = .entered ∨ stage = .asleep since) (hfree : s.holder = none) :
    Wait.Made i stage s (s.look i token since).1 (s.look i token since).2.1 := by
  unfold Room.look
  by_cases hflag : s.pacer.isInterrupted
  · rw [if_pos hflag]
    exact .cutShort (hstage.imp_right fun h => ⟨since, h⟩) hfree hflag
  · rw [if_neg hflag]
    exact .held hstage hfree (by simpa using hflag)

theorem Wait.next_made (i token : Nat) (stage : Wait) (s : Room) :
    Made i stage s (stage.next i token s).1 (stage.next i token s).2.1 := by
  cases stage with
  | entered =>
    rw [next]
    split
    · next hzero => exact .free hzero
    · split
      · next hheld => exact .blocked _ hheld
      · next hheld => exact look_made (.inl rfl) (by simpa using hheld)
  | looked since =>
    rw [next]
    split
    · next hover => exact .timedOut hover
    · exact .slept s since
  | asleep since =>
    rw [next]
    split
    · next hheld => exact .blocked _ hheld
    · next hheld => exact look_made (.inr rfl) (by simpa using hheld)
  | returned how => exact .stayed how s

/-- Whoever holds the lock gives it back. -/
theorem Wait.next_frees (i token since : Nat) (s : Room) :
    ((looked since).next i token s).2.1.holder = none := by
  rw [next]
  split <;> rfl

namespace Wait.Made

variable {i : Nat} {stage stage' : Wait} {s s' : Room}

/-- A step of a thread changes nothing about the strategy. -/
theorem pacer_eq (h : Made i stage s stage' s') : s'.pacer = s.pacer := by
  cases h <;> rfl

/-- Who holds the lock has looked, before the step as well as after it. -/
theorem holder (h : Made i stage s stage' s')
    (hi : s.holder = some i ↔ ∃ since, stage = .looked since) :
    s'.holder = some i ↔ ∃ since, stage' = .looked since := by
  cases h with
  | free _ => simpa using hi
  | blocked _ _ => exact hi
  | cutShort _ hfree _ => simp [Room.woken, hfree]
  | held _ _ _ => simp [Room.lock]
  | timedOut _ => simp [Room.unlock]
  | slept _ _ => simp [Room.sleep, Room.unlock]
  | stayed _ _ => exact hi

/-- Nobody else gets the lock or loses it. -/
theorem holder_other (h : Made i stage s stage' s')
    (hi : s.holder = some i ↔ ∃ since, stage = .looked since) {j : Nat} (hj : i ≠ j) :
    s'.holder = some j ↔ s.holder = some j := by
  have hheld (since : Nat) (h : stage = .looked since) : s.holder = some i := hi.2 ⟨since, h⟩
  cases h with
  | held _ hfree _ => simp [Room.lock, hfree, hj]
  | timedOut _ => simp [Room.unlock, hheld _ rfl, hj]
  | slept _ _ => simp [Room.sleep, Room.unlock, hheld _ rfl, hj]
  | _ => rfl

/-- Nobody goes to sleep or takes the lock while there is an interruption. -/
theorem calm (h : Made i stage s stage' s')
    (hi : s.holder = some i ↔ ∃ since, stage = .looked since)
    (hcalm : s.pacer.isInterrupted → s.holder = none ∧ s.sleepers = [])
    (hflag : s'.pacer.isInterrupted) : s'.holder = none ∧ s'.sleepers = [] := by
  rw [h.pacer_eq] at hflag
  obtain ⟨hholder, hsleepers⟩ := hcalm hflag
  have hheld (since : Nat) (h : stage = .looked since) : False := by
    rw [hi.2 ⟨since, h⟩] at hholder
    cases hholder
  cases h with
  | cutShort _ _ _ => exact ⟨hholder, by simp [Room.woken, hsleepers]⟩
  | held _ _ hno => exact absurd (hno.symm.trans hflag) Bool.false_ne_true
  | timedOut _ => exact (hheld _ rfl).elim
  | slept _ _ => exact (hheld _ rfl).elim
  | _ => exact ⟨hholder, hsleepers⟩

end Wait.Made

/-! ## All threads -/

theorem take_shared {w : Crowd Room Nat Wait} {i : Nat} {q : Party Nat Wait}
    (hq : w.parties[i]? = some q) :
    (w.take conduct (.advance i)).1.shared = (q.stage.next i q.errand w.shared).2.1 := by
  rw [Crowd.take_of_some _ hq]
  rfl

/-- What holds of the threads at any time. -/
structure Sound (p : Pacer) (w : Crowd Room Nat Wait) : Prop where
  delay_eq : w.shared.pacer.delay = p.delay
  holder_iff (i : Nat) : w.shared.holder = some i ↔ ∃ since, w.stage? i = some (.looked since)
  calm : w.shared.pacer.isInterrupted → w.shared.holder = none ∧ w.shared.sleepers = []

namespace Sound

variable {p : Pacer} {w : Crowd Room Nat Wait}

/-- What is done beside the steps. -/
theorem aside (h : Sound p w) (op : Room.Op) : Sound p (w.take conduct (.aside op)).1 := by
  have htake : (w.take conduct (.aside op)).1 = { w with shared := (w.shared.perform op).1 } := rfl
  rw [htake]
  cases op with
  | pass nanos => exact ⟨h.delay_eq, h.holder_iff, h.calm⟩
  | interrupt =>
    rw [Room.perform]
    split
    · exact h
    · next hfree =>
      have hfree : w.shared.holder = none := by simpa using hfree
      exact ⟨(delay_interrupt _).trans h.delay_eq, h.holder_iff, fun _ => ⟨hfree, rfl⟩⟩
  | resume =>
    rw [Room.perform]
    split
    · exact h
    · refine ⟨(delay_resume _).trans h.delay_eq, h.holder_iff, fun hflag => ?_⟩
      exact absurd ((isInterrupted_resume _).symm.trans hflag) Bool.false_ne_true

/-- What a thread does. -/
theorem advance (h : Sound p w) (i : Nat) : Sound p (w.take conduct (.advance i)).1 := by
  cases hp : w.parties[i]? with
  | none =>
    rw [Crowd.take_of_none _ hp]
    exact h
  | some q =>
    have hmade := Wait.next_made i q.errand q.stage w.shared
    have hi : w.shared.holder = some i ↔ ∃ since, q.stage = .looked since := by
      simp only [h.holder_iff, Crowd.stage?, hp, Option.map_some, Option.some.injEq]
    have hshared := take_shared hp
    refine ⟨?_, fun j => ?_, ?_⟩
    · rw [hshared, hmade.pacer_eq]
      exact h.delay_eq
    · by_cases hij : i = j
      · subst hij
        simp only [Crowd.stage?_advance _ hp, hshared, Option.some.injEq]
        exact hmade.holder hi
      · rw [Crowd.stage?_other _ hij, hshared, ← h.holder_iff]
        exact hmade.holder_other hi hij
    · rw [hshared]
      exact hmade.calm hi h.calm

theorem take (h : Sound p w) (turn : Turn) : Sound p (w.take conduct turn).1 := by
  cases turn with
  | enter token =>
    refine ⟨h.delay_eq, fun i => (h.holder_iff i).trans ?_, h.calm⟩
    rcases Crowd.stage?_enter conduct w token i with hsame | ⟨hnone, hstart⟩
    · rw [hsame]
    · rw [hnone, hstart]
      simp [conduct]
  | advance i => exact h.advance i
  | aside op => exact h.aside op

end Sound

theorem sound (p : Pacer) (now : Nat) (turns : List Turn) : Sound p (after p now turns) :=
  Crowd.run_induction conduct (q := fun _ w => Sound p w)
    ⟨rfl, fun i => by simp [nobody, Crowd.stage?], fun h => ⟨rfl, rfl⟩⟩
    (fun _ _ turn h => h.take turn) turns

/-! ## Interruptions -/

/-- On one of these turns steps were made to wait again. -/
def Resumed (w : Crowd Room Nat Wait) (turns : List Turn) : Prop :=
  ∃ mid last, turns = mid ++ .aside .resume :: last ∧ (w.after conduct mid).shared.holder = none

theorem Resumed.append {w : Crowd Room Nat Wait} {turns : List Turn} (h : Resumed w turns)
    (rest : List Turn) : Resumed w (turns ++ rest) := by
  obtain ⟨mid, last, rfl, hfree⟩ := h
  exact ⟨mid, last ++ rest, by simp, hfree⟩

/-- Only to make steps wait again ends an interruption. -/
theorem take_resumes {w : Crowd Room Nat Wait} {turn : Turn}
    (hflag : w.shared.pacer.isInterrupted)
    (hend : ¬(w.take conduct turn).1.shared.pacer.isInterrupted) :
    turn = .aside .resume ∧ w.shared.holder = none := by
  cases turn with
  | enter token => exact absurd hflag hend
  | advance i =>
    cases hp : w.parties[i]? with
    | none =>
      rw [Crowd.take_of_none _ hp] at hend
      exact absurd hflag hend
    | some q =>
      rw [take_shared hp] at hend
      have hsame := (Wait.next_made i q.errand q.stage w.shared).pacer_eq
      exact absurd (hsame ▸ hflag) hend
  | aside op =>
    have htake : (w.take conduct (.aside op)).1.shared = (w.shared.perform op).1 := rfl
    rw [htake] at hend
    cases op with
    | pass nanos => exact absurd hflag hend
    | interrupt =>
      rw [Room.perform] at hend
      split at hend
      · exact absurd hflag hend
      · exact absurd (isInterrupted_interrupt_of hflag) hend
    | resume =>
      rw [Room.perform] at hend
      split at hend
      · exact absurd hflag hend
      · next hfree => exact ⟨rfl, by simpa using hfree⟩

/-- **An interruption lasts** until steps are made to wait again. -/
theorem lasts {w : Crowd Room Nat Wait} (hflag : w.shared.pacer.isInterrupted) {turns : List Turn}
    (hnot : ¬Resumed w turns) : (w.after conduct turns).shared.pacer.isInterrupted := by
  by_contra hend
  obtain ⟨first, turn, rest, rfl, hbefore, hafter⟩ := Crowd.begins conduct
    (q := fun v : Crowd Room Nat Wait => ¬v.shared.pacer.isInterrupted) (not_not.2 hflag) hend
  obtain ⟨rfl, hfree⟩ := take_resumes (not_not.1 hbefore) hafter
  exact hnot ⟨first, rest, rfl, hfree⟩

/-- A step that looks during an interruption returns. -/
theorem Wait.next_of_isInterrupted {s : Room} (hdelay : s.pacer.delay.isZero = false)
    (hfree : s.holder = none) (hflag : s.pacer.isInterrupted) {stage : Wait}
    (hstage : stage = entered ∨ ∃ since, stage = asleep since) (i token : Nat) :
    (stage.next i token s).1 = returned .cutShort := by
  have hlook (since : Nat) : (s.look i token since).1 = returned .cutShort := by
    rw [Room.look, if_pos hflag]
  have hnone : ¬s.holder.isSome := by simp [hfree]
  rcases hstage with rfl | ⟨since, rfl⟩
  · rw [next, if_neg (by simp [hdelay]), if_neg hnone]
    exact hlook _
  · rw [next, if_neg hnone]
    exact hlook _

section During

variable {p : Pacer} {w : Crowd Room Nat Wait} {i : Nat} {stage : Wait}

/-- The next step of a thread that has not looked yet, or sleeps, during an interruption. -/
theorem returns (h : Sound p w) (hdelay : p.delay.isZero = false)
    (hflag : w.shared.pacer.isInterrupted) (hi : w.stage? i = some stage)
    (hstage : stage = .entered ∨ ∃ since, stage = .asleep since) :
    (w.take conduct (.advance i)).1.stage? i = some (.returned .cutShort) := by
  obtain ⟨token, hp⟩ := Crowd.stage?_eq_some.1 hi
  rw [Crowd.stage?_advance _ hp]
  exact congrArg some
    (Wait.next_of_isInterrupted (h.delay_eq ▸ hdelay) (h.calm hflag).1 hflag hstage i token)

/-- A turn during an interruption: a thread stays where it is or returns. -/
theorem take_during (h : Sound p w) (hdelay : p.delay.isZero = false)
    (hflag : w.shared.pacer.isInterrupted) (hi : w.stage? i = some stage)
    (hstage : stage = .entered ∨ ∃ since, stage = .asleep since) (turn : Turn) :
    (w.take conduct turn).1.stage? i = some stage ∨
      (w.take conduct turn).1.stage? i = some (.returned .cutShort) := by
  cases turn with
  | enter token =>
    rcases Crowd.stage?_enter conduct w token i with hsame | ⟨hnone, -⟩
    · exact .inl (hsame.trans hi)
    · exact absurd (hnone.symm.trans hi) (by simp)
  | advance j =>
    by_cases hji : j = i
    · subst hji
      exact .inr (returns h hdelay hflag hi hstage)
    · rw [Crowd.stage?_other _ hji]
      exact .inl hi
  | aside op => exact .inl hi

/-- **During an interruption nobody goes to sleep**: a thread that has not looked yet, or sleeps,
does so still or has returned. -/
theorem during (h : Sound p w) (hdelay : p.delay.isZero = false)
    (hflag : w.shared.pacer.isInterrupted) (hi : w.stage? i = some stage)
    (hstage : stage = .entered ∨ ∃ since, stage = .asleep since) {turns : List Turn}
    (hnot : ¬Resumed w turns) :
    (w.after conduct turns).stage? i = some stage ∨
      (w.after conduct turns).stage? i = some (.returned .cutShort) := by
  induction turns using List.reverseRecOn with
  | nil => exact .inl hi
  | append_singleton first turn ih =>
    have hfirst : ¬Resumed w first := fun hresumed => hnot (hresumed.append [turn])
    have hsound := Crowd.run_induction conduct (q := fun _ v => Sound p v) h
      (fun _ _ turn h => h.take turn) first
    rw [Crowd.after_concat]
    rcases ih hfirst with hsame | hreturned
    · exact take_during hsound hdelay (lasts hflag hfirst) hsame hstage turn
    · obtain ⟨token, hp⟩ := Crowd.stage?_eq_some.1 hreturned
      have hstays := Crowd.party_stays conduct hp (fun _ => rfl) [turn]
      exact .inr (Crowd.stage?_eq_some.2 ⟨token, hstays⟩)

end During

/-! ## Nobody in between -/

/-- The turns of a thread that comes now and makes some steps before and after some time passes. -/
def comes (k token n nanos m : Nat) : List Turn :=
  .enter token :: (List.replicate n (.advance k) ++
    .aside (.pass nanos) :: List.replicate m (.advance k))

theorem after_comes {w : Crowd Room Nat Wait} {token : Nat} {stage last : Wait} {s t : Room}
    {first rest : List Event} (nanos : Nat)
    (hfirst : Crowd.Alone conduct w.parties.length token .entered w.shared first stage s)
    (hrest : Crowd.Alone conduct w.parties.length token stage { s with now := s.now + nanos }
      rest last t) :
    ∃ n m, w.after conduct (comes w.parties.length token n nanos m) =
        ⟨t, w.parties ++ [⟨token, last⟩]⟩ ∧
      w.trace conduct (comes w.parties.length token n nanos m) = first ++ rest := by
  obtain ⟨n, hafter, htrace⟩ := Crowd.after_alone conduct hfirst
  obtain ⟨m, hafter', htrace'⟩ := Crowd.after_steps conduct hrest
  have hpass : (Crowd.mk s (w.parties ++ [⟨token, stage⟩])).take conduct (.aside (.pass nanos)) =
      (⟨{ s with now := s.now + nanos }, w.parties ++ [⟨token, stage⟩]⟩, []) := rfl
  refine ⟨n, m, ?_, ?_⟩
  · rw [comes, ← List.cons_append, Crowd.after_append, hafter, Crowd.after_cons, hpass]
    exact hafter'
  · rw [comes, ← List.cons_append, Crowd.trace_append, htrace, hafter, Crowd.trace_cons, hpass,
      htrace']
    rfl

section Alone

variable {s : Room} (k token : Nat)

/-- A step that has to wait goes to sleep, if nobody is in between. -/
theorem alone_sleeps (hdelay : s.pacer.delay.isZero = false) (hfree : s.holder = none)
    (hflag : s.pacer.isInterrupted = false) :
    Crowd.Alone conduct k token .entered s [] (.asleep s.now) ((s.lock k).sleep k) := by
  have hlooks : conduct.step k token .entered s = (.looked s.now, s.lock k, []) := by
    rw [conduct_step, Wait.next, if_neg (by simp [hdelay]), if_neg (by simp [hfree]), Room.look,
      if_neg (by simp [hflag])]
  have hsleeps : conduct.step k token (.looked s.now) (s.lock k) =
      (.asleep s.now, (s.lock k).sleep k, []) := by
    rw [conduct_step, Wait.next, if_neg]
    simp [Room.lock, Room.woken]
  exact .step hlooks (.step hsleeps (.refl _ _))

/-- A step that has slept long enough is over, if nobody is in between. -/
theorem alone_timesOut {since : Nat} (hfree : s.holder = none)
    (hflag : s.pacer.isInterrupted = false) (hover : s.pacer.delay.toNanos < s.now - since) :
    Crowd.Alone conduct k token (.asleep since) s ([] ++ ((s.pacer.step token).2 ++ []))
      (.returned .timedOut) (s.lock k).unlock := by
  have hlooks : conduct.step k token (.asleep since) s = (.looked since, s.lock k, []) := by
    rw [conduct_step, Wait.next, if_neg (by simp [hfree]), Room.look, if_neg (by simp [hflag])]
  have hreturns : conduct.step k token (.looked since) (s.lock k) =
      (.returned .timedOut, (s.lock k).unlock, (s.pacer.step token).2) := by
    rw [conduct_step, Wait.next]
    exact if_pos hover
  exact .step hlooks (.step hreturns (.refl _ _))

end Alone

/-- A step that returns at once needs no time. -/
theorem returns_alone {w : Crowd Room Nat Wait} {token : Nat} {how : Return} {t : Room}
    (hnext : Wait.entered.next w.parties.length token w.shared =
      (.returned how, t, (w.shared.pacer.step token).2)) :
    ∃ n m, w.after conduct (comes w.parties.length token n 0 m) =
        ⟨t, w.parties ++ [⟨token, .returned how⟩]⟩ ∧
      (w.history conduct (comes w.parties.length token n 0 m)).flatMap (·.trace) =
        (w.shared.pacer.step token).2 := by
  have hstep : conduct.step w.parties.length token .entered w.shared =
      (.returned how, t, (w.shared.pacer.step token).2) := hnext
  obtain ⟨n, m, hafter, htrace⟩ := after_comes 0 (.step hstep (.refl _ _)) (.refl _ _)
  rw [List.append_nil, List.append_nil] at htrace
  exact ⟨n, m, hafter, htrace⟩

/-- **Nobody in between**, a step leaves the trace that the strategy gives it, and is cut short just
when it does not wait fully. -/
theorem step_alone {w : Crowd Room Nat Wait} (hfree : w.shared.holder = none) (token : Nat) :
    ∃ n nanos m how s,
      w.after conduct (comes w.parties.length token n nanos m) =
        ⟨s, w.parties ++ [⟨token, .returned how⟩]⟩ ∧
      s.pacer = (w.shared.pacer.step token).1 ∧
      (w.history conduct (comes w.parties.length token n nanos m)).flatMap (·.trace) =
        (w.shared.pacer.step token).2 ∧
      (how = .cutShort ↔ w.shared.pacer.waitsFully = false) := by
  rw [step_fst, waitsFully_eq]
  cases hdelay : w.shared.pacer.delay.isZero with
  | true =>
    have hnext : Wait.entered.next w.parties.length token w.shared =
        (.returned .free, w.shared, (w.shared.pacer.step token).2) := by
      rw [Wait.next, if_pos hdelay]
    obtain ⟨n, m, hafter, htrace⟩ := returns_alone hnext
    exact ⟨n, 0, m, .free, _, hafter, rfl, htrace, by simp⟩
  | false =>
    cases hflag : w.shared.pacer.isInterrupted with
    | true =>
      have hnext : Wait.entered.next w.parties.length token w.shared =
          (.returned .cutShort, w.shared.woken w.parties.length,
            (w.shared.pacer.step token).2) := by
        rw [Wait.next, if_neg (by simp [hdelay]), if_neg (by simp [hfree]), Room.look,
          if_pos hflag]
      obtain ⟨n, m, hafter, htrace⟩ := returns_alone hnext
      exact ⟨n, 0, m, .cutShort, _, hafter, rfl, htrace, by simp⟩
    | false =>
      obtain ⟨n, m, hafter, htrace⟩ := after_comes (w.shared.pacer.delay.toNanos + 1)
        (alone_sleeps w.parties.length token hdelay hfree hflag)
        (alone_timesOut w.parties.length token rfl hflag (by
          simp [Room.sleep, Room.lock, Room.unlock, Room.woken]))
      rw [List.nil_append, List.nil_append, List.append_nil] at htrace
      exact ⟨n, _, m, .timedOut, _, hafter, rfl, htrace, by simp⟩

/-! ## Who is reached by an interruption -/

/-- What holds of the threads after any turns. -/
structure Interruption (p : Pacer) (now : Nat) (turns : List Turn) : Prop where
  /-- A thread that comes now, with nobody in between, goes through a step of the strategy. -/
  undisturbed (token : Nat) (hfree : (after p now turns).shared.holder = none) :
    ∃ n nanos m how s,
      let w := after p now turns
      w.after conduct (comes w.parties.length token n nanos m) =
        ⟨s, w.parties ++ [⟨token, .returned how⟩]⟩ ∧
      s.pacer = (w.shared.pacer.step token).1 ∧
      (w.history conduct (comes w.parties.length token n nanos m)).flatMap (·.trace) =
        (w.shared.pacer.step token).2 ∧
      (how = .cutShort ↔ w.shared.pacer.waitsFully = false)
  /-- Whoever holds the lock gives it back with the next step. -/
  freed {i : Nat} (hheld : (after p now turns).shared.holder = some i) :
    (after p now (turns ++ [.advance i])).shared.holder = none
  /-- An interruption lasts until steps are made to wait again. -/
  lasts {first rest : List Turn} (hturns : turns = first ++ rest)
    (hflag : (after p now first).shared.pacer.isInterrupted)
    (hnot : ¬Resumed (after p now first) rest) : (after p now turns).shared.pacer.isInterrupted
  /-- As long as it lasts all are woken, and nobody holds the lock. -/
  woken (hflag : (after p now turns).shared.pacer.isInterrupted) :
    (after p now turns).shared.sleepers = [] ∧ (after p now turns).shared.holder = none
  /-- A thread that slept when the interruption was made sleeps still and will return with its next
  step, or has returned. -/
  reached {first rest : List Turn} {i since : Nat} (hdelay : p.delay.isZero = false)
    (hturns : turns = first ++ .aside .interrupt :: rest)
    (hfree : (after p now first).shared.holder = none)
    (hasleep : (after p now first).stage? i = some (.asleep since))
    (hnot : ¬Resumed (after p now (first ++ [.aside .interrupt])) rest) :
    (after p now turns).stage? i = some (.asleep since) ∧
        (after p now (turns ++ [.advance i])).stage? i = some (.returned .cutShort) ∨
      (after p now turns).stage? i = some (.returned .cutShort)
  /-- Who looks when there is no interruption is not reached. -/
  missed {i since : Nat} (hasleep : (after p now turns).stage? i = some (.asleep since))
    (hfree : (after p now turns).shared.holder = none)
    (hflag : (after p now turns).shared.pacer.isInterrupted = false) :
    (after p now (turns ++ [.advance i])).stage? i = some (.looked since)
  /-- A thread that comes when there is an interruption will return with its first step, or has
  returned. -/
  started {first rest : List Turn} {token : Nat} (hdelay : p.delay.isZero = false)
    (hturns : turns = first ++ .enter token :: rest)
    (hflag : (after p now first).shared.pacer.isInterrupted)
    (hnot : ¬Resumed (after p now (first ++ [.enter token])) rest) :
    let k := (after p now first).parties.length
    (after p now turns).stage? k = some .entered ∧
        (after p now (turns ++ [.advance k])).stage? k = some (.returned .cutShort) ∨
      (after p now turns).stage? k = some (.returned .cutShort)
  /-- So does one whose first step comes when there is an interruption. -/
  looks {i : Nat} (hdelay : p.delay.isZero = false)
    (hentered : (after p now turns).stage? i = some .entered)
    (hflag : (after p now turns).shared.pacer.isInterrupted) :
    (after p now (turns ++ [.advance i])).stage? i = some (.returned .cutShort)

theorem after_append (p : Pacer) (now : Nat) (first rest : List Turn) :
    after p now (first ++ rest) = (after p now first).after conduct rest :=
  (nobody p now).after_append _ first rest

section Reached

variable {p : Pacer} {now : Nat} {turns : List Turn} {i : Nat} {stage : Wait}

/-- The next step during an interruption is the last one. -/
theorem last_step (hdelay : p.delay.isZero = false)
    (hflag : (after p now turns).shared.pacer.isInterrupted)
    (hi : (after p now turns).stage? i = some stage)
    (hstage : stage = .entered ∨ ∃ since, stage = .asleep since) :
    (after p now (turns ++ [.advance i])).stage? i = some (.returned .cutShort) := by
  rw [after_append]
  exact returns (sound p now turns) hdelay hflag hi hstage

/-- A thread that has not looked yet, or sleeps, when there is an interruption. -/
theorem still_or_returned {first rest : List Turn} (hdelay : p.delay.isZero = false)
    (hflag : (after p now first).shared.pacer.isInterrupted)
    (hi : (after p now first).stage? i = some stage)
    (hstage : stage = .entered ∨ ∃ since, stage = .asleep since)
    (hnot : ¬Resumed (after p now first) rest) :
    (after p now (first ++ rest)).stage? i = some stage ∧
        (after p now (first ++ rest ++ [.advance i])).stage? i = some (.returned .cutShort) ∨
      (after p now (first ++ rest)).stage? i = some (.returned .cutShort) := by
  have hflag' : (after p now (first ++ rest)).shared.pacer.isInterrupted := by
    rw [after_append]
    exact lasts hflag hnot
  have hduring := during (sound p now first) hdelay hflag hi hstage hnot
  rw [← after_append] at hduring
  exact hduring.imp_left fun hsame => ⟨hsame, last_step hdelay hflag' hsame hstage⟩

/-- A thread that sleeps when an interruption is made. -/
theorem interrupt_reaches {first rest : List Turn} {since : Nat} (hdelay : p.delay.isZero = false)
    (hfree : (after p now first).shared.holder = none)
    (hasleep : (after p now first).stage? i = some (.asleep since))
    (hnot : ¬Resumed (after p now (first ++ [.aside .interrupt])) rest) :
    (after p now (first ++ .aside .interrupt :: rest)).stage? i = some (.asleep since) ∧
        (after p now (first ++ .aside .interrupt :: rest ++ [.advance i])).stage? i =
          some (.returned .cutShort) ∨
      (after p now (first ++ .aside .interrupt :: rest)).stage? i = some (.returned .cutShort) := by
  have hroom : (after p now (first ++ [.aside .interrupt])).shared =
      ((after p now first).shared.perform .interrupt).1 := by
    rw [after_append]
    rfl
  have hflag : (after p now (first ++ [.aside .interrupt])).shared.pacer.isInterrupted := by
    rw [hroom, Room.perform, if_neg (by simp [hfree])]
    exact isInterrupted_interrupt ((sound p now first).delay_eq ▸ hdelay)
  have hi : (after p now (first ++ [.aside .interrupt])).stage? i = some (.asleep since) := by
    rw [after_append]
    exact hasleep
  have hreached := still_or_returned hdelay hflag hi (.inr ⟨since, rfl⟩) hnot
  rwa [List.append_assoc, List.singleton_append] at hreached

end Reached

/-- **An interruption reaches all who wait**, and all who come while it lasts: whoever looks before
steps are made to wait again returns, and nobody goes to sleep. -/
theorem interruption (p : Pacer) (now : Nat) (turns : List Turn) : Interruption p now turns where
  undisturbed token hfree := step_alone hfree token
  freed {i} hheld := by
    obtain ⟨since, hi⟩ := ((sound p now turns).holder_iff i).1 hheld
    obtain ⟨token, hp⟩ := Crowd.stage?_eq_some.1 hi
    rw [after_append, Crowd.after_cons, Crowd.after_nil, take_shared hp]
    exact Wait.next_frees i token since _
  lasts hturns hflag hnot := by
    rw [hturns, after_append]
    exact Pacer.lasts hflag hnot
  woken hflag := ((sound p now turns).calm hflag).symm
  reached hdelay hturns hfree hasleep hnot := by
    subst hturns
    exact interrupt_reaches hdelay hfree hasleep hnot
  missed {i since} hasleep hfree hflag := by
    obtain ⟨token, hp⟩ := Crowd.stage?_eq_some.1 hasleep
    rw [after_append, Crowd.after_cons, Crowd.after_nil, Crowd.stage?_advance _ hp, conduct_step,
      Wait.next, if_neg (by simp [hfree]), Room.look, if_neg (by simp [hflag])]
  started {first rest token} hdelay hturns hflag hnot := by
    subst hturns
    have henters : (after p now (first ++ [.enter token])).shared = (after p now first).shared := by
      rw [after_append]
      rfl
    have hi : (after p now (first ++ [.enter token])).stage? (after p now first).parties.length =
        some .entered := by
      rw [after_append]
      show ((after p now first).parties ++ [_])[(after p now first).parties.length]?.map _ = _
      rw [List.getElem?_concat_length]
      rfl
    have hstarted := still_or_returned hdelay (henters ▸ hflag) hi (.inl rfl) hnot
    rwa [List.append_assoc, List.singleton_append] at hstarted
  looks hdelay hentered hflag := last_step hdelay hflag hentered (.inl rfl)

/-! ## Who is not -/

/-- A thread falls asleep, an interruption is made, and steps are made to wait again before the
thread looks: it sleeps on. -/
theorem overtaken_run :
    let p := fixedDelay ⟨30, 0, by decide⟩ 0 false
    let sleeps : List Turn := [.enter 1, .advance 0, .advance 0]
    let interrupted := sleeps ++ [.aside .interrupt]
    let resumed := interrupted ++ [.aside .resume]
    (after p 0 sleeps).shared.holder = none ∧
      (after p 0 sleeps).stage? 0 = some (.asleep 0) ∧
      (after p 0 interrupted).shared.pacer.isInterrupted = true ∧
      (after p 0 resumed).shared.holder = none ∧
      (after p 0 (resumed ++ [.advance 0])).stage? 0 = some (.looked 0) ∧
      (after p 0 (resumed ++ [.advance 0, .advance 0])).stage? 0 = some (.asleep 0) :=
  ⟨rfl, rfl, rfl, rfl, rfl, rfl⟩

/-- **An interruption does not reach everybody who waits**: where steps are made to wait again
before a thread that was woken looks, it does not return with its next step. -/
theorem resume_before_look :
    ¬∀ (p : Pacer) (now : Nat) (first rest : List Turn) (i since : Nat),
      p.delay.isZero = false → (after p now first).shared.holder = none →
      (after p now first).stage? i = some (.asleep since) → .advance i ∉ rest →
      (after p now (first ++ .aside .interrupt :: rest)).shared.holder = none →
      ∃ how, (after p now (first ++ .aside .interrupt :: rest ++ [.advance i])).stage? i =
        some (.returned how) := by
  intro h
  obtain ⟨hfree, hasleep, -, hfree', hlooked, -⟩ := overtaken_run
  obtain ⟨how, hreturned⟩ := h (fixedDelay ⟨30, 0, by decide⟩ 0 false) 0
    [.enter 1, .advance 0, .advance 0] [.aside .resume] 0 0 rfl hfree hasleep (by simp) hfree'
  exact absurd (hlooked.symm.trans hreturned) (by simp)

end RuleScan.Pacer
