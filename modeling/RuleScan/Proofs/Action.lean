import RuleScan.Trace

/-!
# What actions do

`x.Does s reply t cs` says all that matters of what an action does in a state: its reply, the state
that it leaves, and its calls in their order. Log lines and notes are left out. An action made of
others does what these do: `Does.bind` after an answer and `Does.bind_halt` where there is none,
`Does.zoom` on a part of a state, and `Does.always` however the first part ends.

`x.Mirrors y read f s` compares two actions, which may be on two kinds of states: they do the same
but for log lines, and the answer of the one is made of that of the other.

`x.Follows read step` is about log lines and notes as well: what is read off the state after the
action is what its trace makes of the reading before, entry by entry.

`Action.Errs p x` is about failures alone: `p` is true of each that `x` may end with.

`Action.steps` and `Action.final` are about a caller that goes on whatever becomes of what it asks
for.
-/

namespace RuleScan

theorem calls_map_eq_nil {f : α → Event} (hf : ∀ a, (f a).call? = none) (l : List α) :
    calls (l.map f) = [] := by
  rw [calls, List.filterMap_map, List.filterMap_eq_nil_iff]
  exact fun a _ => hf a

/-- Whether an entry of a trace is a log line. -/
def Event.isLog : Event → Bool
  | log _ _ => true
  | _ => false

/-- A trace without its log lines: the calls, and what the parts noted. -/
def happenings (trace : List Event) : List Event := trace.filter (! ·.isLog)

@[simp] theorem happenings_append (t u : List Event) :
    happenings (t ++ u) = happenings t ++ happenings u :=
  List.filter_append t u

/-- How an action ends without an answer. -/
inductive Halt
  | failure (e : Failure)
  | crash (words : String)

/-- The reply of an action that ends without an answer. -/
def Halt.reply : Halt → Reply α
  | failure e => .error e
  | crash words => .crash words

theorem Halt.map_reply (h : Halt) (f : α → β) : (h.reply : Reply α).map f = h.reply := by
  cases h <;> rfl

theorem Halt.reply_isOk (h : Halt) : (h.reply : Reply α).isOk = false := by
  cases h <;> rfl

theorem Halt.reply_inj {h h' : Halt} : (h.reply : Reply α) = h'.reply ↔ h = h' := by
  cases h <;> cases h' <;> simp [Halt.reply]

theorem Reply.map_map (r : Reply α) (f : α → β) (g : β → γ) :
    (r.map f).map g = r.map fun a => g (f a) := by
  cases r <;> rfl

theorem Reply.map_id (r : Reply α) : r.map id = r := by
  cases r <;> rfl

theorem Reply.map_eq_ok {r : Reply α} {f : α → β} {b : β} :
    r.map f = .ok b ↔ ∃ a, r = .ok a ∧ f a = b := by
  cases r <;> simp [Reply.map]

theorem Reply.map_eq_halt {r : Reply α} {f : α → β} {h : Halt} :
    r.map f = h.reply ↔ r = h.reply := by
  cases r <;> cases h <;> simp [Reply.map, Halt.reply]

/-- A reply is an answer or there is none. -/
theorem Reply.ok_or_halt (r : Reply α) : (∃ a, r = .ok a) ∨ ∃ h : Halt, r = h.reply := by
  cases r with
  | ok a => exact .inl ⟨a, rfl⟩
  | error e => exact .inr ⟨.failure e, rfl⟩
  | crash words => exact .inr ⟨.crash words, rfl⟩

/-- What a caller sees of a step: how it ended, and what was done in it. -/
def Step.seen {σ α : Type} (r : Step σ α) : Reply α × List Event := (r.reply, r.trace)

namespace Action

variable {σ τ α β : Type}

/-- What an action does in a state: its reply, the state that it leaves and its calls. -/
structure Does (x : Action σ α) (s : σ) (reply : Reply α) (t : σ) (cs : List Call) : Prop where
  reply_eq : (x s).reply = reply
  state_eq : (x s).state = t
  calls_eq : calls (x s).trace = cs

namespace Does

variable {x : Action σ α} {f : α → Action σ β} {s t u : σ} {cs ds : List Call}

theorem pure (a : α) (s : σ) : (Action.pure a).Does s (.ok a) s [] := ⟨rfl, rfl, rfl⟩

theorem get (s : σ) : (Action.get : Action σ σ).Does s (.ok s) s [] := ⟨rfl, rfl, rfl⟩

theorem modify (g : σ → σ) (s : σ) : (Action.modify g).Does s (.ok ()) (g s) [] := ⟨rfl, rfl, rfl⟩

theorem log (level : LogLevel) (text : String) (s : σ) :
    (Action.log level text).Does s (.ok ()) s [] := ⟨rfl, rfl, rfl⟩

theorem ofExcept (r : Except Failure α) (s : σ) :
    (Action.ofExcept r).Does s (.ofExcept r) s [] := ⟨rfl, rfl, rfl⟩

/-- What is done after an answer. -/
theorem bind {a : α} {r : Reply β} (hx : x.Does s (.ok a) t cs) (hf : (f a).Does t r u ds) :
    (x.bind f).Does s r u (cs ++ ds) := by
  have h := bind_of_ok (f := f) hx.reply_eq
  rw [hx.state_eq] at h
  exact ⟨by rw [h, hf.reply_eq], by rw [h, hf.state_eq],
    by rw [h, calls_append, hx.calls_eq, hf.calls_eq]⟩

/-- What is done after an answer for which nobody was called. -/
theorem after {a : α} {r : Reply β} (hx : x.Does s (.ok a) t []) (hf : (f a).Does t r u ds) :
    (x.bind f).Does s r u ds :=
  hx.bind hf

/-- Nothing more is done where there is no answer. -/
theorem bind_halt {h : Halt} (hx : x.Does s h.reply t cs) : (x.bind f).Does s h.reply t cs := by
  cases h with
  | failure e =>
    have h := bind_of_error (f := f) hx.reply_eq
    exact ⟨by rw [h]; rfl, by rw [h, hx.state_eq], by rw [h, hx.calls_eq]⟩
  | crash words =>
    have h := bind_of_crash (f := f) hx.reply_eq
    exact ⟨by rw [h]; rfl, by rw [h, hx.state_eq], by rw [h, hx.calls_eq]⟩

theorem bind_error {e : Failure} (hx : x.Does s (.error e) t cs) :
    (x.bind f).Does s (.error e) t cs :=
  hx.bind_halt (h := .failure e)

/-- An answer that is only changed afterwards. -/
theorem map {r : Reply α} (g : α → β) (hx : x.Does s r t cs) :
    (x.bind fun a => .pure (g a)).Does s (r.map g) t cs := by
  rcases r.ok_or_halt with ⟨a, rfl⟩ | ⟨h, rfl⟩
  · rw [← List.append_nil cs]
    exact hx.bind (.pure (g a) t)
  · rw [Halt.map_reply]
    exact hx.bind_halt

theorem zoom {g : σ → τ} (p : σ → τ → σ) {y : Action τ α} {r : Reply α} {q : τ}
    (hy : y.Does (g s) r q cs) : (Action.zoom g p y).Does s r (p s q) cs :=
  ⟨hy.reply_eq, congrArg (p s) hy.state_eq, hy.calls_eq⟩

/-- What comes last is done whatever the reply was. -/
theorem always {r : Reply α} {after : Action σ Unit} {o : Reply Unit} (hx : x.Does s r t cs)
    (ha : after.Does t o u ds) : (Action.always x after).Does s r u (cs ++ ds) := by
  obtain ⟨hr, rfl, hcs⟩ := hx
  exact ⟨hr, ha.state_eq, by rw [Action.always, calls_append, hcs, ha.calls_eq]⟩

end Does

/-! ## Properties that stay -/

/-- An action that keeps a property of the state, however it ends. -/
def Keeps (p : σ → Prop) (x : Action σ α) : Prop := ∀ s, p s → p (x s).state

namespace Keeps

variable {γ : Type} {p : σ → Prop} {x : Action σ α} {f : α → Action σ β}

theorem pure (a : α) : Keeps p (Action.pure a) := fun _ h => h

theorem ofExcept (r : Except Failure α) : Keeps p (Action.ofExcept r) := fun _ h => h

theorem get : Keeps p Action.get := fun _ h => h

theorem log (level : LogLevel) (text : String) : Keeps p (Action.log level text) := fun _ h => h

theorem modify {g : σ → σ} (hg : ∀ s, p s → p (g s)) : Keeps p (Action.modify g) := hg

theorem bind (hx : Keeps p x) (hf : ∀ a, Keeps p (f a)) : Keeps p (x.bind f) := fun s h => by
  have hs := hx s h
  rcases hr : (x s).reply with a | e | words
  · rw [bind_of_ok hr]
    exact hf a _ hs
  · rw [bind_of_error hr]
    exact hs
  · rw [bind_of_crash hr]
    exact hs

theorem forEach {f : γ → Action σ α} (hf : ∀ c, Keeps p (f c)) (l : List γ) :
    Keeps p (Action.forEach f l) := by
  induction l with
  | nil => exact pure []
  | cons c rest ih => exact (hf c).bind fun _ => ih.bind fun _ => pure _

theorem zoom {g : σ → τ} {put : σ → τ → σ} {q : τ → Prop} {y : Action τ α} (hy : Keeps q y)
    (hget : ∀ s, p s → q (g s)) (hput : ∀ s t, p s → q t → p (put s t)) :
    Keeps p (Action.zoom g put y) := fun s h => hput s _ h (hy _ (hget s h))

end Keeps

/-! ## Callers that go on -/

section

variable {ω : Type}

/-- The steps of a caller that asks for one thing after the other, and goes on also where one fails
or crashes. -/
def steps (f : ω → Action σ α) : σ → List ω → List (Step σ α)
  | _, [] => []
  | s, op :: rest => f op s :: steps f (f op s).state rest

/-- The state in which such a caller leaves things. -/
def final (f : ω → Action σ α) (s : σ) (ops : List ω) : σ :=
  ops.foldl (fun s op => (f op s).state) s

/-- Each step is one of something that was asked for, in some state. -/
theorem mem_steps {f : ω → Action σ α} {s : σ} {ops : List ω} {t : Step σ α}
    (h : t ∈ steps f s ops) : ∃ op u, t = f op u := by
  induction ops generalizing s with
  | nil => cases h
  | cons op rest ih =>
    rcases List.mem_cons.1 h with rfl | h
    · exact ⟨op, s, rfl⟩
    · exact ih h

end

/-! ## Answers that are only changed -/

theorem bind_assoc {γ : Type} (x : Action σ α) (f : α → Action σ β) (g : β → Action σ γ) :
    (x.bind f).bind g = x.bind fun a => (f a).bind g := by
  funext s
  rcases h : (x s).reply with a | e | words
  · rw [bind_of_ok h]
    have hreply : (x.bind f s).reply = (f a (x s).state).reply := by rw [bind_of_ok h]
    rcases h' : (f a (x s).state).reply with b | e | words
    · rw [bind_of_ok (hreply.trans h'), bind_of_ok h', bind_of_ok h, List.append_assoc]
    · rw [bind_of_error (hreply.trans h'), bind_of_error h', bind_of_ok h]
    · rw [bind_of_crash (hreply.trans h'), bind_of_crash h', bind_of_ok h]
  · rw [bind_of_error h, bind_of_error (by rw [bind_of_error h]), bind_of_error h]
  · rw [bind_of_crash h, bind_of_crash (by rw [bind_of_crash h]), bind_of_crash h]

theorem bind_pure (x : Action σ α) : x.bind .pure = x := by
  funext s
  rcases h : (x s).reply with a | e | words
  · rw [bind_of_ok h]
    exact Step.ext h.symm rfl (List.append_nil _)
  · rw [bind_of_error h]
    exact Step.ext h.symm rfl rfl
  · rw [bind_of_crash h]
    exact Step.ext h.symm rfl rfl

theorem pure_bind (a : α) (f : α → Action σ β) : (Action.pure a).bind f = f a := rfl

/-- What is done for two lists on end is done for the one and then for the other. -/
theorem forEach_append {γ : Type} (f : γ → Action σ α) (l m : List γ) :
    forEach f (l ++ m) =
      (forEach f l).bind fun as => (forEach f m).bind fun bs => .pure (as ++ bs) := by
  induction l with
  | nil => exact (bind_pure (forEach f m)).symm
  | cons c rest ih =>
    rw [List.cons_append, forEach, ih, forEach, bind_assoc]
    congr 1
    funext a
    rw [bind_assoc, bind_assoc]
    congr 1
    funext as
    rw [bind_assoc]
    rfl

/-- What comes before an action in the trace also comes before what is done after it. -/
theorem bind_of_trace {x y : Action σ α} {s t : σ} {events : List Event}
    (h : x s = { y t with trace := events ++ (y t).trace }) (f : α → Action σ β) :
    x.bind f s = { y.bind f t with trace := events ++ (y.bind f t).trace } := by
  have hreply : (x s).reply = (y t).reply := by rw [h]
  rcases hy : (y t).reply with a | e | words
  · rw [bind_of_ok (hreply.trans hy), bind_of_ok hy, h, List.append_assoc]
  · rw [bind_of_error (hreply.trans hy), bind_of_error hy, h]
  · rw [bind_of_crash (hreply.trans hy), bind_of_crash hy, h]

/-- Changing an answer leaves the state and the trace as they are. -/
theorem trace_map (x : Action σ α) (g : α → β) (s : σ) :
    (x.bind (fun a => .pure (g a)) s).trace = (x s).trace := by
  rcases h : (x s).reply with a | e | words
  · rw [bind_of_ok h]
    exact List.append_nil _
  · rw [bind_of_error h]
  · rw [bind_of_crash h]

theorem reply_map (x : Action σ α) (g : α → β) (s : σ) :
    (x.bind (fun a => .pure (g a)) s).reply = (x s).reply.map g := by
  rcases h : (x s).reply with a | e | words
  · rw [bind_of_ok h]
    rfl
  · rw [bind_of_error h]
    rfl
  · rw [bind_of_crash h]
    rfl

theorem state_map (x : Action σ α) (g : α → β) (s : σ) :
    (x.bind (fun a => .pure (g a)) s).state = (x s).state := by
  rcases h : (x s).reply with a | e | words
  · rw [bind_of_ok h]
    rfl
  · rw [bind_of_error h]
  · rw [bind_of_crash h]

/-! ## Failures -/

/-- What is true of every failure that an action may end with. -/
def Errs (p : Failure → Prop) (x : Action σ α) : Prop := ∀ s e, (x s).reply = .error e → p e

namespace Errs

variable {p : Failure → Prop} {x : Action σ α} {f : α → Action σ β}

theorem pure (a : α) : Errs p (Action.pure a : Action σ α) := fun _ _ h => by cases h

theorem bind (hx : Errs p x) (hf : ∀ a, Errs p (f a)) : Errs p (x.bind f) := fun s e he => by
  rcases h : (x s).reply with a | e' | words
  · rw [bind_of_ok h] at he
    exact hf a _ e he
  · rw [bind_of_error h] at he
    cases he
    exact hx s e h
  · rw [bind_of_crash h] at he
    cases he

theorem forEach {f : γ → Action σ α} (hf : ∀ c, Errs p (f c)) (l : List γ) :
    Errs p (Action.forEach f l) := by
  induction l with
  | nil => exact pure []
  | cons c rest ih => exact (hf c).bind fun _ => ih.bind fun _ => pure _

end Errs

/-! ## Actions that do the same -/

/-- In a state an action does what another one does in what is read off that state, but for log
lines, and its answer is that of the other, changed in some way. -/
structure Mirrors (x : Action σ α) (y : Action τ β) (read : σ → τ) (f : β → α) (s : σ) : Prop where
  reply_eq : (x s).reply = (y (read s)).reply.map f
  state_eq : read (x s).state = (y (read s)).state
  happenings_eq : happenings (x s).trace = happenings (y (read s)).trace

namespace Mirrors

variable {γ δ : Type} {x : Action σ α} {y : Action τ β} {read : σ → τ} {f : β → α} {s : σ}

theorem refl (x : Action σ α) (s : σ) : x.Mirrors x id id s where
  reply_eq := (Reply.map_id _).symm
  state_eq := rfl
  happenings_eq := rfl

/-- What is done after an answer, in any state that is read as the one that was left. -/
theorem bind {g : α → Action σ γ} {k : β → Action τ δ} {f' : δ → γ} (hx : x.Mirrors y read f s)
    (hg : ∀ b t, (y (read s)).reply = .ok b → read t = (y (read s)).state →
      (g (f b)).Mirrors (k b) read f' t) : (x.bind g).Mirrors (y.bind k) read f' s := by
  obtain ⟨hreply, hstate, hhappen⟩ := hx
  rcases hy : (y (read s)).reply with b | e | words
  · obtain ⟨hreply', hstate', hhappen'⟩ := hg b (x s).state hy hstate
    rw [hy] at hreply
    rw [hstate] at hreply' hstate' hhappen'
    constructor <;> rw [bind_of_ok hreply, bind_of_ok hy]
    · exact hreply'
    · exact hstate'
    · rw [happenings_append, happenings_append, hhappen, hhappen']
  · rw [hy] at hreply
    constructor <;> rw [bind_of_error hreply, bind_of_error hy]
    · rfl
    · exact hstate
    · exact hhappen
  · rw [hy] at hreply
    constructor <;> rw [bind_of_crash hreply, bind_of_crash hy]
    · rfl
    · exact hstate
    · exact hhappen

/-- What only changes the answer afterwards. -/
theorem followed {g : α → Action σ γ} {f' : β → γ} (hx : x.Mirrors y read f s)
    (hg : ∀ b t, (y (read s)).reply = .ok b → read t = (y (read s)).state →
      (g (f b)).Mirrors (.pure b) read f' t) : (x.bind g).Mirrors y read f' s := by
  have hboth := hx.bind hg
  rw [bind_pure] at hboth
  exact hboth

/-- What is done at last, however the rest ends. -/
theorem always {y : Action σ β} (hx : x.Mirrors y id f s) (last : Action σ Unit) :
    (x.always last).Mirrors (y.always last) id f s := by
  obtain ⟨hreply, hstate, hhappen⟩ := hx
  simp only [id_eq] at hstate hreply hhappen
  refine ⟨hreply, ?_, ?_⟩
  · rw [Action.always, Action.always, hstate]
    rfl
  · rw [Action.always, Action.always, happenings_append, happenings_append, id_eq, hstate, hhappen]

end Mirrors

/-! ## Readings of a state -/

/-- An action after which a reading of the state is what the entries of the trace make of it. -/
def Follows (read : σ → γ) (step : γ → Event → γ) (x : Action σ α) : Prop :=
  ∀ s, read (x s).state = (x s).trace.foldl step (read s)

namespace Follows

variable {γ δ : Type} {read : σ → γ} {step : γ → Event → γ} {x : Action σ α} {f : α → Action σ β}

theorem pure (a : α) : Follows read step (Action.pure a) := fun _ => rfl

theorem bind (hx : Follows read step x) (hf : ∀ a, Follows read step (f a)) :
    Follows read step (x.bind f) := fun s => by
  have h := hx s
  rcases hr : (x s).reply with a | e | words
  · rw [bind_of_ok hr, List.foldl_append, hf a, h]
  · rw [bind_of_error hr]
    exact h
  · rw [bind_of_crash hr]
    exact h

theorem forEach {f : δ → Action σ α} (hf : ∀ d, Follows read step (f d)) (l : List δ) :
    Follows read step (Action.forEach f l) := by
  induction l with
  | nil => exact pure []
  | cons d rest ih => exact (hf d).bind fun _ => ih.bind fun _ => pure _

end Follows

end Action

end RuleScan
