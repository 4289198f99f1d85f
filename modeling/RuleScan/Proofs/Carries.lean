import RuleScan.Proofs.Action
import RuleScan.Proofs.Turns

/-!
# Actions in steps

A party does an action in steps, with a stage between any two of them, and others may get in
between. `Crowd.Carries` says that its steps are the action if nobody does: from a stage on they
leave its trace and its state, and lead to the stage that `Reply.follow` makes of its reply. There
is one lemma for each way in which actions are put together (`Carries.bind`, `Carries.map`,
`Carries.always`), so that a proof goes through the definition of the action.
-/

namespace RuleScan

variable {σ ρ τ ω α γ : Type}

/-- What comes after a reply: an answer is gone on with. -/
def Reply.follow (halted : Halt → γ) (goOn : α → γ) : Reply α → γ
  | .ok a => goOn a
  | .error e => halted (.failure e)
  | .crash words => halted (.crash words)

@[simp] theorem Reply.follow_halt (halted : Halt → γ) (goOn : α → γ) (h : Halt) :
    Reply.follow halted goOn h.reply = halted h := by
  cases h <;> rfl

/-- What holds of all that can come after a reply. -/
theorem Reply.follow_cases {p : γ → Prop} (halted : Halt → γ) (goOn : α → γ)
    (hhalted : ∀ h, p (halted h)) (hgoOn : ∀ a, p (goOn a)) (r : Reply α) :
    p (r.follow halted goOn) := by
  cases r with
  | ok a => exact hgoOn a
  | error e => exact hhalted _
  | crash words => exact hhalted _

/-- Does something and makes of the reply what comes next. -/
def Action.into (f : Reply α → γ) (x : Action σ α) (s : σ) : γ × σ × List Event :=
  (f (x s).reply, (x s).state, (x s).trace)

namespace Crowd

variable (C : Conduct σ ρ τ ω) (i : Nat) (r : ρ)

/-- An action that the steps of a party carry out, however it ends, if nothing comes in between. -/
def Carries (x : Action σ α) (stage : τ) (halted : Halt → τ) (goOn : α → τ) : Prop :=
  ∀ s, Alone C i r stage s (x s).trace (Reply.follow halted goOn (x s).reply) (x s).state

namespace Carries

variable {C} {i} {r} {stage : τ} {halted : Halt → τ} {x : Action σ α} {f : α → Action σ γ}

theorem pure {a : α} {goOn : α → τ} (h : goOn a = stage) :
    Carries C i r (Action.pure a) stage halted goOn := fun s => by
  subst h
  exact .refl (goOn a) s

/-- A single step. -/
theorem one {goOn : α → τ} (h : C.step i r stage = x.into (Reply.follow halted goOn)) :
    Carries C i r x stage halted goOn := fun s => by
  have hstep := Alone.single C i r stage s
  rw [h] at hstep
  exact hstep

theorem bind {mid : α → τ} {goOn : γ → τ} (hx : Carries C i r x stage halted mid)
    (hf : ∀ a, Carries C i r (f a) (mid a) halted goOn) :
    Carries C i r (x.bind f) stage halted goOn := fun s => by
  have hfirst := hx s
  rcases hr : (x s).reply with a | e | words
  · rw [Action.bind_of_ok hr]
    rw [hr] at hfirst
    exact hfirst.trans (hf a _)
  · rw [Action.bind_of_error hr]
    rw [hr] at hfirst
    exact hfirst
  · rw [Action.bind_of_crash hr]
    rw [hr] at hfirst
    exact hfirst

/-- An answer that is only changed afterwards. -/
theorem map {g : α → γ} {goOn : γ → τ} (hx : Carries C i r x stage halted fun a => goOn (g a)) :
    Carries C i r (x.bind fun a => .pure (g a)) stage halted goOn :=
  hx.bind fun _ => .pure rfl

/-- What is done last, whatever the reply was. -/
theorem always (closing finished : Reply α → τ) {last : Action σ Unit}
    (hx : Carries C i r x stage (fun h => closing h.reply) fun a => closing (.ok a))
    (hlast : ∀ reply, C.step i r (closing reply) = last.into fun _ => finished reply) (s : σ) :
    Alone C i r stage s (x.always last s).trace (finished (x.always last s).reply)
      (x.always last s).state := by
  have hfirst := hx s
  have hclosing : Reply.follow (fun h => closing h.reply) (fun a => closing (.ok a)) (x s).reply =
      closing (x s).reply := by
    cases (x s).reply <;> rfl
  have hstep := Alone.single C i r (closing (x s).reply) (x s).state
  rw [hclosing] at hfirst
  rw [hlast] at hstep
  exact hfirst.trans hstep

end Carries

end Crowd

end RuleScan
