import RuleScan.CommandLine.Run
import RuleScan.Proofs.Action

/-!
# Parts of a run

A part of a run ends with an answer (`Answers`) or a fault (`Fails`), with other files and more in
the trace. Four things are said of parts here, each with one rule for parts in sequence. `Still x`:
however `x` ends, the files are as before. `Leaves x p`: wherever `x` answers, the files are as
before, and `p` holds of the answer. `Same d x y r`: from the desk `d` the parts `x` and `y` end in
the same way, with answers that are related by `r`. `Mimics x y r`: where `x` answers, so does `y`
with the same files to work with, whatever was logged before; the answers are related by `r`, and
the files are again the same.
-/

namespace RuleScan.CommandLine

variable {α β γ δ C R : Type}

/-- A part of a run that answers. -/
def Answers (x : Job α) (d : Desk) (a : α) (e : Desk) : Prop := x.run d = (.ok a, e)

/-- A part of a run that ends in a fault. -/
def Fails (x : Job α) (d : Desk) (fault : RunFault) (e : Desk) : Prop := x.run d = (.error fault, e)

theorem answers_or_fails (x : Job α) (d : Desk) :
    (∃ a e, Answers x d a e) ∨ ∃ fault e, Fails x d fault e := by
  rcases h : x.run d with ⟨fault | a, e⟩
  · exact .inr ⟨fault, e, h⟩
  · exact .inl ⟨a, e, h⟩

theorem run_bind (x : Job α) (f : α → Job β) (d : Desk) :
    (x >>= f).run d = match x.run d with
      | (.ok a, d') => (f a).run d'
      | (.error fault, d') => (.error fault, d') := by
  change (ExceptT.bindCont f (x.run d).1) (x.run d).2 = _
  rcases x.run d with ⟨fault | a, d'⟩ <;> rfl

theorem answers_bind {x : Job α} {f : α → Job β} {d e : Desk} {b : β} :
    Answers (x >>= f) d b e ↔ ∃ a d', Answers x d a d' ∧ Answers (f a) d' b e := by
  simp only [Answers, run_bind]
  rcases x.run d with ⟨fault | a, d'⟩
  · constructor
    · intro h
      cases h
    · rintro ⟨a, d'', h, -⟩
      cases h
  · constructor
    · exact fun h => ⟨a, d', rfl, h⟩
    · rintro ⟨a', d'', h, hf⟩
      cases h
      exact hf

/-- A sequence ends in a fault where its first part does, or where the rest does after an answer. -/
theorem fails_bind {x : Job α} {f : α → Job β} {d e : Desk} {fault : RunFault} :
    Fails (x >>= f) d fault e ↔
      Fails x d fault e ∨ ∃ a d', Answers x d a d' ∧ Fails (f a) d' fault e := by
  simp only [Fails, Answers, run_bind]
  rcases x.run d with ⟨fault' | a, d'⟩
  · constructor
    · intro h
      cases h
      exact .inl rfl
    · rintro (h | ⟨a, d'', h, -⟩)
      · cases h
        rfl
      · cases h
  · constructor
    · exact fun h => .inr ⟨a, d', rfl, h⟩
    · rintro (h | ⟨a', d'', h, hf⟩)
      · cases h
      · cases h
        exact hf

theorem answers_pure {a b : α} {d e : Desk} : Answers (pure a : Job α) d b e ↔ a = b ∧ d = e := by
  change ((Except.ok a, d) : Except RunFault α × Desk) = (.ok b, e) ↔ _
  simp

theorem not_answers_throw {fault : RunFault} {d e : Desk} {a : α} :
    ¬ Answers (throw fault : Job α) d a e := by
  intro h
  cases h

theorem answers_get {d e s : Desk} : Answers (get : Job Desk) d s e ↔ d = s ∧ d = e :=
  answers_pure

theorem answers_modify {g : Desk → Desk} {d e : Desk} {u : Unit} :
    Answers (modify g : Job Unit) d u e ↔ g d = e := by
  change ((Except.ok (), g d) : Except RunFault Unit × Desk) = (.ok u, e) ↔ _
  simp

theorem answers_note {trace : List Event} {d e : Desk} {u : Unit} :
    Answers (note trace) d u e ↔ { d with trace := d.trace ++ trace } = e :=
  answers_modify

theorem answers_answer {wrap : Failure → RunFault} {r : Reply α} {d e : Desk} {a : α} :
    Answers (answer wrap r) d a e ↔ r = .ok a ∧ d = e := by
  rcases r with b | fault | words
  · rw [answer, answers_pure, Reply.ok.injEq]
  · simp [answer, not_answers_throw]
  · simp [answer, not_answers_throw]

/-! ## Actions in a run -/

theorem answers_onFiles {wrap : Failure → RunFault} {x : Action Files α} {d e : Desk} {a : α} :
    Answers (onFiles wrap x) d a e ↔
      (x d.files).reply = .ok a ∧
        e = ⟨(x d.files).state, d.trace ++ (x d.files).trace⟩ := by
  simp only [onFiles, answers_bind, answers_get, answers_modify, answers_note, answers_answer]
  constructor
  · rintro ⟨_, _, ⟨rfl, rfl⟩, _, _, rfl, _, _, rfl, h, rfl⟩
    exact ⟨h, rfl⟩
  · rintro ⟨h, rfl⟩
    exact ⟨_, _, ⟨rfl, rfl⟩, (), _, rfl, (), _, rfl, h, rfl⟩

theorem answers_onScanner {x : Action (RunScanner C R) α} {s s' : RunScanner C R} {d e : Desk}
    {a : α} :
    Answers (onScanner x s) d (a, s') e ↔
      (x s).reply = .ok a ∧ (x s).state = s' ∧ e = { d with trace := d.trace ++ (x s).trace } := by
  simp only [onScanner, answers_bind, answers_note, answers_answer, answers_pure, Prod.mk.injEq]
  constructor
  · rintro ⟨_, _, rfl, _, _, ⟨h, rfl⟩, ⟨rfl, hs⟩, rfl⟩
    exact ⟨h, hs, rfl⟩
  · rintro ⟨h, hs, rfl⟩
    exact ⟨(), _, rfl, a, _, ⟨h, rfl⟩, ⟨rfl, hs⟩, rfl⟩

theorem answers_change {x : Action (RunScanner C R) α} {s s' : RunScanner C R} {d e : Desk} :
    Answers (change x s) d s' e ↔
      (∃ a, (x s).reply = .ok a) ∧ (x s).state = s' ∧
        e = { d with trace := d.trace ++ (x s).trace } := by
  simp only [change, answers_bind, answers_pure, Prod.exists, answers_onScanner]
  constructor
  · rintro ⟨a, _, _, ⟨h, rfl, rfl⟩, rfl, rfl⟩
    exact ⟨⟨a, h⟩, rfl, rfl⟩
  · rintro ⟨⟨a, h⟩, rfl, rfl⟩
    exact ⟨a, _, _, ⟨h, rfl, rfl⟩, rfl, rfl⟩

theorem answers_changeBoth {x : Action (Files × RunScanner C R) α} {s s' : RunScanner C R}
    {d e : Desk} :
    Answers (changeBoth x s) d s' e ↔
      (∃ a, (x (d.files, s)).reply = .ok a) ∧ (x (d.files, s)).state = (e.files, s') ∧
        e.trace = d.trace ++ (x (d.files, s)).trace := by
  simp only [changeBoth, answers_bind, answers_get, answers_modify, answers_note, answers_answer,
    answers_pure]
  constructor
  · rintro ⟨_, _, ⟨rfl, rfl⟩, _, _, rfl, _, _, rfl, a, _, ⟨h, rfl⟩, rfl, rfl⟩
    exact ⟨⟨a, h⟩, rfl, rfl⟩
  · rintro ⟨⟨a, h⟩, hstate, htrace⟩
    refine ⟨_, _, ⟨rfl, rfl⟩, (), _, rfl, (), _, rfl, a, _, ⟨h, rfl⟩, ?_, ?_⟩
    · rw [hstate]
    · rw [hstate, ← htrace]

theorem run_change (x : Action (RunScanner C R) α) (s : RunScanner C R) (d : Desk) :
    (change x s).run d =
      (match (x s).reply with
        | .ok _ => .ok (x s).state
        | .error e => .error (.failed e)
        | .crash words => .error (.crashed words),
        { d with trace := d.trace ++ (x s).trace }) := by
  simp only [change, onScanner, run_bind]
  rcases (x s).reply with _ | _ | _ <;> rfl

theorem run_changeBoth (x : Action (Files × RunScanner C R) α) (s : RunScanner C R) (d : Desk) :
    (changeBoth x s).run d =
      (match (x (d.files, s)).reply with
        | .ok _ => .ok (x (d.files, s)).state.2
        | .error e => .error (.failed e)
        | .crash words => .error (.crashed words),
        ⟨(x (d.files, s)).state.1, d.trace ++ (x (d.files, s)).trace⟩) := by
  rw [changeBoth, run_bind]
  change ((answer .failed (x (d.files, s)).reply >>= fun _ => pure (x (d.files, s)).state.2).run
    ⟨(x (d.files, s)).state.1, d.trace ++ (x (d.files, s)).trace⟩) = _
  rw [run_bind]
  rcases (x (d.files, s)).reply with _ | _ | _ <;> rfl

/-! ## Parts that leave the files -/

/-- However a part ends, the files are as before. -/
def Still (x : Job α) : Prop := ∀ d, (x.run d).2.files = d.files

namespace Still

variable {x : Job α} {f : α → Job β} {d e : Desk}

theorem answers (hx : Still x) {a : α} (h : Answers x d a e) : e.files = d.files := by
  have hfiles := hx d
  rwa [h] at hfiles

theorem fails (hx : Still x) {fault : RunFault} (h : Fails x d fault e) : e.files = d.files := by
  have hfiles := hx d
  rwa [h] at hfiles

theorem bind (hx : Still x) (hf : ∀ a, Still (f a)) : Still (x >>= f) := by
  intro d
  rw [run_bind]
  have hfiles := hx d
  rcases hrun : x.run d with ⟨fault | a, d'⟩
  · rwa [hrun] at hfiles
  · rw [hrun] at hfiles
    exact (hf a d').trans hfiles

theorem pure (a : α) : Still (Pure.pure a) := fun _ => rfl

theorem throw (fault : RunFault) : Still (MonadExcept.throw fault : Job α) := fun _ => rfl

theorem get : Still MonadState.get := fun _ => rfl

theorem note (trace : List Event) : Still (note trace) := fun _ => rfl

theorem answer (wrap : Failure → RunFault) (r : Reply α) : Still (answer wrap r) := by
  cases r <;> exact fun _ => rfl

theorem onFiles (wrap : Failure → RunFault) {x : Action Files α} (hx : ∀ fs, (x fs).state = fs) :
    Still (onFiles wrap x) := by
  intro d
  change ((CommandLine.note _ >>= fun _ => CommandLine.answer wrap _).run
    { d with files := (x d.files).state }).2.files = _
  rw [(note _).bind (fun _ => answer wrap _), hx]

theorem onScanner (x : Action (RunScanner C R) α) (s : RunScanner C R) : Still (onScanner x s) :=
  (note _).bind fun _ => (answer _ _).bind fun _ => pure _

theorem change (x : Action (RunScanner C R) α) (s : RunScanner C R) : Still (change x s) :=
  (onScanner x s).bind fun _ => pure _

end Still

/-- Wherever a part answers, the files are as before, and the answer has a property. -/
def Leaves (x : Job α) (p : α → Prop) : Prop :=
  ∀ d a e, Answers x d a e → e.files = d.files ∧ p a

namespace Leaves

variable {x : Job α} {f : α → Job β} {p : α → Prop} {q : β → Prop}

theorem bind (hx : Leaves x p) (hf : ∀ a, p a → Leaves (f a) q) : Leaves (x >>= f) q := by
  intro d b e h
  obtain ⟨a, d', ha, hb⟩ := answers_bind.1 h
  obtain ⟨hfiles, hp⟩ := hx d a d' ha
  obtain ⟨hfiles', hq⟩ := hf a hp d' b e hb
  exact ⟨hfiles'.trans hfiles, hq⟩

theorem pure {a : α} (h : p a) : Leaves (Pure.pure a) p := by
  intro d b e hb
  obtain ⟨rfl, rfl⟩ := answers_pure.1 hb
  exact ⟨rfl, h⟩

theorem throw (fault : RunFault) : Leaves (MonadExcept.throw fault : Job α) p :=
  fun _ _ _ h => absurd h not_answers_throw

theorem note (trace : List Event) : Leaves (CommandLine.note trace) fun _ => True := by
  intro d u e h
  rw [← answers_note.1 h]
  exact ⟨rfl, trivial⟩

/-- A scanner that keeps a property. -/
theorem change {x : Action (RunScanner C R) α} {p : RunScanner C R → Prop} (hx : Action.Keeps p x)
    {s : RunScanner C R} (hs : p s) : Leaves (change x s) p := by
  intro d s' e h
  obtain ⟨-, rfl, rfl⟩ := answers_change.1 h
  exact ⟨rfl, hx s hs⟩

theorem onScanner {x : Action (RunScanner C R) α} {p : RunScanner C R → Prop}
    (hx : Action.Keeps p x) {s : RunScanner C R} (hs : p s) :
    Leaves (onScanner x s) fun r => p r.2 := by
  rintro d ⟨a, s'⟩ e h
  obtain ⟨-, rfl, rfl⟩ := answers_onScanner.1 h
  exact ⟨rfl, hx s hs⟩

end Leaves

/-! ## Parts that do the same -/

/-- From a desk, two parts end in the same fault or with related answers, and leave the same
desk. -/
inductive Same (d : Desk) (x : Job α) (y : Job β) (r : α → β → Prop) : Prop
  | answers {a : α} {b : β} {e : Desk} (hx : Answers x d a e) (hy : Answers y d b e) (h : r a b)
  | fails {fault : RunFault} {e : Desk} (hx : Fails x d fault e) (hy : Fails y d fault e)

namespace Same

variable {x : Job α} {y : Job β} {f : α → Job γ} {g : β → Job δ} {r : α → β → Prop}
  {q : γ → δ → Prop} {d : Desk}

theorem refl (x : Job α) (d : Desk) : Same d x x Eq := by
  rcases answers_or_fails x d with ⟨a, e, h⟩ | ⟨fault, e, h⟩
  · exact .answers h h rfl
  · exact .fails h h

theorem pure {a : α} {b : β} (h : r a b) : Same d (Pure.pure a) (Pure.pure b) r :=
  .answers rfl rfl h

theorem bind (h : Same d x y r)
    (hf : ∀ a b e, Answers x d a e → Answers y d b e → r a b → Same e (f a) (g b) q) :
    Same d (x >>= f) (y >>= g) q := by
  cases h with
  | fails hx hy => exact .fails (fails_bind.2 (.inl hx)) (fails_bind.2 (.inl hy))
  | answers hx hy hr =>
    cases hf _ _ _ hx hy hr with
    | answers hfx hgy hq =>
      exact .answers (answers_bind.2 ⟨_, _, hx, hfx⟩) (answers_bind.2 ⟨_, _, hy, hgy⟩) hq
    | fails hfx hgy =>
      exact .fails (fails_bind.2 (.inr ⟨_, _, hx, hfx⟩)) (fails_bind.2 (.inr ⟨_, _, hy, hgy⟩))

theorem mono {r' : α → β → Prop} (h : Same d x y r) (hr : ∀ a b, r a b → r' a b) :
    Same d x y r' := by
  cases h with
  | answers hx hy h => exact .answers hx hy (hr _ _ h)
  | fails hx hy => exact .fails hx hy

/-- What is done with the desk at hand. -/
theorem get_left {k : Desk → Job α} (h : Same d (k d) y r) : Same d (MonadState.get >>= k) y r := by
  cases h with
  | answers hx hy h => exact .answers (answers_bind.2 ⟨d, d, rfl, hx⟩) hy h
  | fails hx hy => exact .fails (fails_bind.2 (.inr ⟨d, d, rfl, hx⟩)) hy

theorem get_right {k : Desk → Job β} (h : Same d x (k d) r) :
    Same d x (MonadState.get >>= k) r := by
  cases h with
  | answers hx hy h => exact .answers hx (answers_bind.2 ⟨d, d, rfl, hy⟩) h
  | fails hx hy => exact .fails hx (fails_bind.2 (.inr ⟨d, d, rfl, hy⟩))

/-- An answer that is only changed afterwards. -/
theorem map_left {k : α → γ} {q : γ → β → Prop} (h : Same d x y r)
    (hk : ∀ a b, r a b → q (k a) b) : Same d (x >>= fun a => Pure.pure (k a)) y q := by
  cases h with
  | answers hx hy h => exact .answers (answers_bind.2 ⟨_, _, hx, rfl⟩) hy (hk _ _ h)
  | fails hx hy => exact .fails (fails_bind.2 (.inl hx)) hy

/-- With answers on the other side that are only changed afterwards. -/
theorem map_right {k : β → δ} {q : α → δ → Prop} (h : Same d x y r)
    (hk : ∀ a b, r a b → q a (k b)) : Same d x (y >>= fun b => Pure.pure (k b)) q := by
  cases h with
  | answers hx hy h => exact .answers hx (answers_bind.2 ⟨_, _, hy, rfl⟩) (hk _ _ h)
  | fails hx hy => exact .fails hx (fails_bind.2 (.inl hy))

theorem run_eq {x y : Job α} (h : Same d x y Eq) : x.run d = y.run d := by
  cases h with
  | answers hx hy hr =>
    cases hr
    exact hx.trans hy.symm
  | fails hx hy => exact hx.trans hy.symm

end Same

/-- Where one part answers it leaves the files, and another one that finds the same files does so as
well; the answers are related. -/
def Mimics (x : Job α) (y : Job β) (r : α → β → Prop) : Prop :=
  ∀ d d' a e, d'.files = d.files → Answers x d a e →
    e.files = d.files ∧ ∃ b e', Answers y d' b e' ∧ r a b ∧ e'.files = d.files

namespace Mimics

variable {x : Job α} {y : Job β} {f : α → Job γ} {g : β → Job δ} {r : α → β → Prop}
  {q : γ → δ → Prop}

theorem bind (hx : Mimics x y r) (hf : ∀ a b, r a b → Mimics (f a) (g b) q) :
    Mimics (x >>= f) (y >>= g) q := by
  intro d d' c e hfiles h
  obtain ⟨a, d₁, ha, hc⟩ := answers_bind.1 h
  obtain ⟨hleft, b, d₁', hb, hr, hleft'⟩ := hx d d' a d₁ hfiles ha
  obtain ⟨hleft₂, c', e', hc', hq, hleft₂'⟩ :=
    hf a b hr d₁ d₁' c e (hleft'.trans hleft.symm) hc
  exact ⟨hleft₂.trans hleft, c', e', answers_bind.2 ⟨b, d₁', hb, hc'⟩, hq, hleft₂'.trans hleft⟩

theorem pure {a : α} {b : β} (h : r a b) : Mimics (Pure.pure a) (Pure.pure b) r := by
  intro d d' c e hfiles hc
  obtain ⟨rfl, rfl⟩ := answers_pure.1 hc
  exact ⟨rfl, b, d', answers_pure.2 ⟨rfl, rfl⟩, h, hfiles⟩

theorem throw (fault : RunFault) (y : Job β) : Mimics (MonadExcept.throw fault : Job α) y r :=
  fun _ _ _ _ _ h => absurd h not_answers_throw

theorem note (t t' : List Event) : Mimics (note t) (CommandLine.note t') fun _ _ => True := by
  intro d d' u e hfiles h
  rw [← answers_note.1 h]
  exact ⟨rfl, (), _, answers_note.2 rfl, trivial, hfiles⟩

/-- The files themselves are the same. -/
theorem get : Mimics get MonadStateOf.get fun d d' : Desk => d'.files = d.files := by
  intro d d' s e hfiles h
  obtain ⟨rfl, rfl⟩ := answers_get.1 h
  exact ⟨rfl, d', d', answers_get.2 ⟨rfl, rfl⟩, hfiles, hfiles⟩

theorem answer (wrap wrap' : Failure → RunFault) (r : Reply α) :
    Mimics (answer wrap r) (CommandLine.answer wrap' r) Eq := by
  intro d d' a e hfiles h
  obtain ⟨hr, rfl⟩ := answers_answer.1 h
  exact ⟨rfl, a, d', answers_answer.2 ⟨hr, rfl⟩, rfl, hfiles⟩

end Mimics

end RuleScan.CommandLine
