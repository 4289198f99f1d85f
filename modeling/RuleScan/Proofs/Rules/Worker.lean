import RuleScan.Proofs.Rules.Sequential

/-!
# A client and its worker, step by step

At any time a client with a worker is in one of a few places (`Workshop.Place`): between two
requests, about to make a change, waiting for the answer to one, which is being made or has been
made, or at the end. In each of them it can be told what is still to come, as what a collector with
the compiler of that worker comes to (`Collector.course`). So what the whole comes to stays what it
was from step to step: `Workshop.client_goesOn` and `Workshop.worker_goesOn` go through the places,
one lemma for each in which there is something to do. And until the client is done one of the two
threads can make a step (`Workshop.goesOn_of_sound`).
-/

namespace RuleScan.Rules

open Request (makeAll carryOut)

variable {C R : Type} (T : Toolchain C R) (fs : Files)

/-! ## What is to come -/

/-- What comes of some requests: the replies to them, the trace, and what the build answers. -/
@[ext]
structure Course (R : Type) where
  replies : List (Reply Nat)
  trace : List Event
  built : Option (Reply (Ready R))

/-- A course with a request before it. -/
def Course.after (c : Course R) (s : Step (Collector C) Nat) : Course R :=
  ⟨s.reply :: c.replies, s.trace ++ c.trace, c.built⟩

namespace Collector

/-- What comes of a collector that is not asked for more. -/
def closing (ending : Ending) (c : Collector C) : Course R :=
  match ending with
  | .build => ⟨[], (build T c).trace, some (build T c).reply⟩
  | .giveUp => ⟨[], release c, none⟩

/-- What comes of some requests to a collector. -/
def course (ending : Ending) : Collector C → List Request → Course R
  | c, [] => closing T ending c
  | c, r :: rest => (course ending (ingest T fs r c).state rest).after (ingest T fs r c)

/-- What is left to do for a request. -/
def remaining (r : Request) (rest : List (Except Failure Change)) : Action (Collector C) Nat :=
  (makeAll (submit T fs) rest).bind fun _ => Request.close T fs r

/-- Passes on the answer to a change. -/
def answered (answer : Option String) : Action (Collector C) Unit := fun c =>
  ⟨replyOf answer, c, []⟩

/-- What is left to do for a request once a change was answered. -/
def settled (answer : Option String) (r : Request) (rest : List (Except Failure Change)) :
    Action (Collector C) Nat :=
  (answered answer).bind fun _ => remaining T fs r rest

theorem ingest_remaining (r : Request) : ingest T fs r = remaining T fs r (r.changes T fs) :=
  ingest_eq T fs r

theorem remaining_ok (r : Request) (change : Change) (rest : List (Except Failure Change)) :
    remaining T fs r (.ok change :: rest) =
      (submit T fs change).bind fun _ => remaining T fs r rest :=
  Action.bind_assoc ..

/-- The compiler is started by the first change. -/
theorem remaining_absent (r : Request) (change : Change) (rest : List (Except Failure Change))
    (options : CompileOptions) (timeout : Option Duration) :
    let later := remaining T fs r (.ok change :: rest) ⟨options, timeout, some (T.start options)⟩
    remaining T fs r (.ok change :: rest) ⟨options, timeout, none⟩ =
      { later with trace := startLog options :: later.trace } := by
  have hstart : submit T fs change ⟨options, timeout, none⟩ =
      { submit T fs change ⟨options, timeout, some (T.start options)⟩ with
        trace := [startLog options] ++
          (submit T fs change ⟨options, timeout, some (T.start options)⟩).trace } := rfl
  rw [remaining_ok]
  exact Action.bind_of_trace hstart _

/-- A change is made, and then its answer counts. -/
theorem remaining_some (r : Request) (change : Change) (rest : List (Except Failure Change))
    (options : CompileOptions) (timeout : Option Duration) (k : C) :
    let later := settled T fs (T.apply fs change k).1 r rest
      ⟨options, timeout, some (T.apply fs change k).2⟩
    remaining T fs r (.ok change :: rest) ⟨options, timeout, some k⟩ =
      { later with trace := .change change (T.apply fs change k).1 :: later.trace } := by
  have hmake : submit T fs change ⟨options, timeout, some k⟩ =
      { answered (T.apply fs change k).1 ⟨options, timeout, some (T.apply fs change k).2⟩ with
        trace := [.change change (T.apply fs change k).1] ++ [] } :=
    submit_eq T fs change _
  rw [remaining_ok]
  exact Action.bind_of_trace hmake _

end Collector

namespace Workshop

/-- The collector that a client has whose worker has some compiler. -/
def collector (w : Workshop C R) (k : Option C) : Collector C := ⟨w.options, w.timeout, k⟩

/-- What a workshop comes to if a course is still before it. -/
def coming (w : Workshop C R) (c : Course R) : Course R :=
  ⟨w.replies ++ c.replies, w.trace ++ c.trace, c.built⟩

/-- What a workshop comes to that has a request to end in some step. -/
def onward (w : Workshop C R) (s : Step (Collector C) Nat) : Course R :=
  w.coming ((Collector.course T fs w.ending s.state w.todo).after s)

/-- A request that is about to end has ended, as far as what comes of it is concerned. -/
theorem onward_eq_coming (w : Workshop C R) (r : Reply Nat) (k : Option C) (t : List Event) :
    w.onward T fs ⟨r, w.collector k, t⟩ =
      ({ w with trace := w.trace ++ t }.reply r).coming
        (Collector.course T fs w.ending (w.collector k) w.todo) := by
  simp only [onward, coming, reply, Course.after, List.append_assoc]
  rfl

/-! ## Where the two threads are -/

/-- A worker that waits for a command, or will, and its compiler. -/
inductive Rests (options : CompileOptions) : Worker C R → Option C → Prop
  | absent : Rests options .absent none
  | starting : Rests options .starting (some (T.start options))
  | ready (k : C) : Rests options (.ready k) (some k)

theorem Rests.elim {T : Toolchain C R} {options : CompileOptions} {worker : Worker C R}
    {k : Option C} (h : Rests T options worker k) :
    (worker = .absent ∧ k = none) ∨ (worker = .starting ∧ k = some (T.start options)) ∨
      ∃ c, worker = .ready c ∧ k = some c := by
  cases h with
  | absent => exact .inl ⟨rfl, rfl⟩
  | starting => exact .inr (.inl ⟨rfl, rfl⟩)
  | ready c => exact .inr (.inr ⟨c, rfl, rfl⟩)

/-- Nothing was built. -/
def Unbuilt (w : Workshop C R) : Prop := w.product = {} ∧ w.built = none

/-- Nothing is on its way to the worker, or back. -/
def Calm (w : Workshop C R) (k : Option C) : Prop :=
  Rests T w.options w.worker k ∧ w.commands = {} ∧ w.Unbuilt

/-- The worker has to make a change: what it answers, its compiler then, and what has yet to be
entered in the trace. -/
inductive Serving (w : Workshop C R) (change : Change) (i : Nat) :
    Option String → C → List Event → Prop
  | queued {k : C} (hrests : Rests T w.options w.worker (some k))
      (hcommands : w.commands = { queue := [.apply change i] }) (hanswer : w.answers i = {}) :
      Serving w change i (T.apply fs change k).1 (T.apply fs change k).2
        [.change change (T.apply fs change k).1]
  | applying {k : C} (hworker : w.worker = .applying k change i) (hcommands : w.commands = {})
      (hanswer : w.answers i = {}) :
      Serving w change i (T.apply fs change k).1 (T.apply fs change k).2
        [.change change (T.apply fs change k).1]
  | answering {k : C} {answer : Option String} (hworker : w.worker = .answering k answer i)
      (hcommands : w.commands = {}) (hanswer : w.answers i = {})
      (hlast : w.trace.getLast? = some (.change change answer)) : Serving w change i answer k []

/-- The worker has to build the rules. -/
inductive Delivering (w : Workshop C R) : R → Prop
  | queued {k : C} (hrests : Rests T w.options w.worker (some k))
      (hcommands : w.commands = { queue := [.build] }) (hproduct : w.product = {}) :
      Delivering w (T.build k)
  | building {k : C} (hworker : w.worker = .building k) (hcommands : w.commands = {})
      (hproduct : w.product = {}) : Delivering w (T.build k)
  | delivering {rules : R} (hworker : w.worker = .delivering rules) (hcommands : w.commands = {})
      (hproduct : w.product = {}) : Delivering w rules

/-- A worker that is of no more use, and what it has yet to log. -/
inductive Parting (w : Workshop C R) : List Event → Prop
  | held {k : C} (hrests : Rests T w.options w.worker (some k))
      (hcommands : w.commands.queue = []) : Parting w [releaseLog]
  | left (hworker : w.worker = .leaving ∨ w.worker = .gone) (hcommands : w.commands.queue = []) :
      Parting w []

/-- Where the client is, where that has the worker to be, and what they come to. -/
inductive Place (w : Workshop C R) (c : Course R) : Prop
  | ready {k : Option C} (hclient : w.client = .ready) (hcalm : w.Calm T k)
      (hc : c = w.coming (Collector.course T fs w.ending (w.collector k) w.todo))
  | busy {k : Option C} {r : Request} {rest : List (Except Failure Change)}
      (hclient : w.client = .busy r rest) (hcalm : w.Calm T k)
      (hc : c = w.onward T fs (Collector.remaining T fs r rest (w.collector k)))
  | awaiting {k : C} {r : Request} {change : Change} {rest : List (Except Failure Change)} {i : Nat}
      {answer : Option String} {events : List Event}
      (hclient : w.client = .awaiting r change rest i)
      (hserving : w.Serving T fs change i answer k events) (hi : i < w.opened)
      (hunbuilt : w.Unbuilt)
      (hc : let s := Collector.settled T fs answer r rest (w.collector (some k))
        c = w.onward T fs { s with trace := events ++ s.trace })
  | answered {k : C} {r : Request} {change : Change} {rest : List (Except Failure Change)} {i : Nat}
      {answer : Option String} (hclient : w.client = .awaiting r change rest i)
      (hworker : w.worker = .ready k) (hcommands : w.commands = {})
      (hanswer : w.answers i = { queue := [answer], sending := false })
      (hlast : w.trace.getLast? = some (.change change answer)) (hi : i < w.opened)
      (hunbuilt : w.Unbuilt)
      (hc : c = w.onward T fs (Collector.settled T fs answer r rest (w.collector (some k))))
  | awaitingRules {rules : R} (hclient : w.client = .awaitingRules)
      (hdelivering : w.Delivering T rules) (hbuilt : w.built = none)
      (hc : c = w.coming ⟨[], [], some (.ok ⟨rules, w.timeout⟩)⟩)
  | delivered {rules : R} (hclient : w.client = .awaitingRules)
      (hworker : w.worker = .leaving ∨ w.worker = .gone) (hcommands : w.commands.queue = [])
      (hproduct : w.product = { queue := [rules], sending := false }) (hbuilt : w.built = none)
      (hc : c = w.coming ⟨[], [], some (.ok ⟨rules, w.timeout⟩)⟩)
  | leaving {events : List Event} (hclient : w.client = .leaving) (hparting : w.Parting T events)
      (hc : c = w.coming ⟨[], events, w.built⟩)
  | joining {events : List Event} (hclient : w.client = .joining)
      (hsending : w.commands.sending = false) (hparting : w.Parting T events)
      (hc : c = w.coming ⟨[], events, w.built⟩)
  | done (hclient : w.client = .done) (hworker : w.worker = .absent ∨ w.worker = .gone)
      (hc : c = w.coming ⟨[], [], w.built⟩)

/-- The pipe that the client waits at. -/
def awaited? (w : Workshop C R) : Option Nat :=
  match w.client with
  | .awaiting _ _ _ i => some i
  | _ => none

/-- A workshop that will come to a course. -/
structure Sound (w : Workshop C R) (c : Course R) : Prop where
  place : Place T fs w c
  /-- Pipes for answers that were not opened yet are as new. -/
  fresh : ∀ i, w.opened ≤ i → w.answers i = {}
  /-- No answer is in a pipe that the client does not wait at. -/
  unread : ∀ i, w.awaited? ≠ some i → (w.answers i).queue = []

/-- A thread makes a step that does not change what the workshop comes to. -/
def GoesOn (p : Party) (w : Workshop C R) (c : Course R) : Prop :=
  ∃ w', move? T fs p w = some w' ∧ w'.Sound T fs c

/-! ## Steps of the client -/

section

variable {w w' : Workshop C R} {c : Course R} {k : Option C}

/-- Where no answer is waited for none is there. -/
theorem Sound.unread_all (h : w.Sound T fs c) (hw : w.awaited? = none) (i : Nat) :
    (w.answers i).queue = [] :=
  h.unread i (by rw [hw]; exact (Option.some_ne_none i).symm)

theorem sound_of_place (h : w.Sound T fs c) (hw : w.awaited? = none)
    (hanswers : w'.answers = w.answers) (hopened : w'.opened = w.opened)
    (hplace : w'.Place T fs c) : w'.Sound T fs c where
  place := hplace
  fresh i hi := by
    rw [hanswers]
    exact h.fresh i (hopened ▸ hi)
  unread i _ := by
    rw [hanswers]
    exact h.unread_all T fs hw i

/-- A request ends. -/
theorem place_reply (hcalm : w.Calm T k) (r : Reply Nat)
    (hc : c = (w.reply r).coming (Collector.course T fs w.ending (w.collector k) w.todo)) :
    (w.reply r).Place T fs c :=
  .ready rfl hcalm hc

/-- The last request is over. -/
theorem place_finish (hcalm : w.Calm T k)
    (hc : c = w.coming (Collector.course T fs w.ending (w.collector k) [])) :
    (w.finish T).Place T fs c := by
  obtain ⟨hrests, hcommands, hproduct, hbuilt⟩ := hcalm
  have hsend : w.commands.send .build = some { queue := [.build] } := by
    rw [hcommands]
    rfl
  have hqueue : w.commands.queue = [] := by rw [hcommands]
  -- a worker that was started builds or is given up, with the compiler that it has or will have
  have hstarted {compiler : C} (hk : k = some compiler) (hworker : w.worker ≠ .absent) :
      (w.finish T).Place T fs c := by
    subst hk
    cases hending : w.ending with
    | build =>
      have hfinish : w.finish T =
          { w with commands := { queue := [.build] }, client := .awaitingRules } := by
        simp only [finish, hending, hsend]
      rw [hfinish]
      exact .awaitingRules rfl (.queued hrests rfl hproduct) hbuilt (by rw [hc, hending]; rfl)
    | giveUp =>
      have hfinish : w.finish T = { w with client := .leaving } := by
        simp only [finish, hending]
      rw [hfinish]
      refine .leaving rfl (.held hrests hqueue) ?_
      rw [hc, hending]
      exact congrArg (Course.mk _ _) hbuilt.symm
  rcases hrests.elim with ⟨hworker, rfl⟩ | ⟨hworker, hk⟩ | ⟨compiler, hworker, hk⟩
  · cases hending : w.ending with
    | build =>
      simp only [finish, hending, hworker]
      exact .done rfl (.inl rfl) (by rw [hc, hending]; rfl)
    | giveUp =>
      simp only [finish, hending, hworker]
      refine .done rfl (.inl rfl) ?_
      rw [hc, hending]
      exact congrArg (Course.mk _ _) hbuilt.symm
  · exact hstarted hk (by simp [hworker])
  · exact hstarted hk (by simp [hworker])

/-- A change is handed to the worker. -/
theorem sound_submit {r : Request} {change : Change} {rest : List (Except Failure Change)}
    {compiler : C} (h : w.Sound T fs c) (hclient : w.client = .busy r (.ok change :: rest))
    (hcalm : w.Calm T (some compiler))
    (hc : c = w.onward T fs
      (Collector.remaining T fs r (.ok change :: rest) (w.collector (some compiler)))) :
    (w.submit r change rest).Sound T fs c := by
  have hw : w.awaited? = none := by rw [awaited?, hclient]
  have hsend : w.commands.send (.apply change w.opened) =
      some { queue := [.apply change w.opened] } := by
    rw [hcalm.2.1]
    rfl
  have hsubmit : w.submit r change rest =
      { w with
        opened := w.opened + 1
        commands := { queue := [.apply change w.opened] }
        client := .awaiting r change rest w.opened } := by
    simp only [submit, hsend]
  have hremaining := Collector.remaining_some T fs r change rest w.options w.timeout compiler
  rw [hsubmit]
  refine ⟨.awaiting rfl (.queued hcalm.1 rfl (h.fresh _ (Nat.le_refl _)))
    (Nat.lt_succ_self _) hcalm.2.2 ?_, fun i hi => ?_, fun i _ => ?_⟩
  · exact hc.trans (congrArg (w.onward T fs) hremaining)
  · exact h.fresh i (Nat.le_of_succ_le hi)
  · exact h.unread_all T fs hw i

/-- The answer to a change is received. -/
theorem goesOn_answered {r : Request} {change : Change} {rest : List (Except Failure Change)}
    {i : Nat} {answer : Option String} {compiler : C} (h : w.Sound T fs c)
    (hclient : w.client = .awaiting r change rest i) (hworker : w.worker = .ready compiler)
    (hcommands : w.commands = {})
    (hanswer : w.answers i = { queue := [answer], sending := false }) (hi : i < w.opened)
    (hunbuilt : w.Unbuilt)
    (hc : c = w.onward T fs (Collector.settled T fs answer r rest (w.collector (some compiler)))) :
    GoesOn T fs .client w c := by
  have hreceive : (w.answers i).receive = .message answer { queue := [], sending := false } := by
    rw [hanswer]
    rfl
  obtain ⟨answers, hanswers⟩ : ∃ answers, answers =
      Function.update w.answers i (Pipe.close { queue := [], sending := false }) := ⟨_, rfl⟩
  have hcalm : { w with answers }.Calm T (some compiler) :=
    ⟨hworker ▸ .ready compiler, hcommands, hunbuilt⟩
  have hfresh (j : Nat) (hj : w.opened ≤ j) : answers j = {} := by
    have hne : j ≠ i := by omega
    rw [hanswers, Function.update_of_ne hne]
    exact h.fresh j hj
  have hunread (j : Nat) : (answers j).queue = [] := by
    by_cases hne : j = i
    · rw [hanswers, hne, Function.update_self]
      rfl
    · have hw : w.awaited? ≠ some j := by
        rw [awaited?, hclient]
        exact fun hij => hne (Option.some.inj hij).symm
      rw [hanswers, Function.update_of_ne hne]
      exact h.unread j hw
  cases answer with
  | none =>
    refine ⟨{ w with answers, client := .busy r rest }, ?_, ?_⟩
    · simp only [move?, clientStep, hclient, hreceive, hanswers]
    · exact ⟨.busy rfl hcalm hc, hfresh, fun j _ => hunread j⟩
  | some words =>
    refine ⟨{ w with answers }.reply (.error (.compile (.refused words))), ?_, ?_⟩
    · simp only [move?, clientStep, hclient, hreceive, hanswers]
    · refine ⟨place_reply T fs hcalm _ ?_, hfresh, fun j _ => hunread j⟩
      have honward := onward_eq_coming T fs { w with answers } (.error (.compile (.refused words)))
        (some compiler) []
      rw [List.append_nil] at honward
      exact hc.trans honward

theorem finish_answers (w : Workshop C R) :
    (w.finish T).answers = w.answers ∧ (w.finish T).opened = w.opened := by
  unfold finish
  split
  · exact ⟨rfl, rfl⟩
  · split <;> exact ⟨rfl, rfl⟩
  · exact ⟨rfl, rfl⟩
  · exact ⟨rfl, rfl⟩

theorem goesOn_ready (h : w.Sound T fs c) (hclient : w.client = .ready) (hcalm : w.Calm T k)
    (hc : c = w.coming (Collector.course T fs w.ending (w.collector k) w.todo)) :
    GoesOn T fs .client w c := by
  have hw : w.awaited? = none := by rw [awaited?, hclient]
  cases htodo : w.todo with
  | nil =>
    rw [htodo] at hc
    refine ⟨w.finish T, ?_, ?_⟩
    · simp only [move?, clientStep, hclient, htodo]
    · exact sound_of_place T fs h hw (finish_answers T w).1 (finish_answers T w).2
        (place_finish T fs hcalm hc)
  | cons r rest =>
    rw [htodo, Collector.course, Collector.ingest_remaining] at hc
    refine ⟨{ w with todo := rest, client := .busy r (r.changes T fs) }, ?_, ?_⟩
    · simp only [move?, clientStep, hclient, htodo]
    · exact sound_of_place T fs h hw rfl rfl (.busy rfl hcalm hc)

theorem goesOn_busy {r : Request} {rest : List (Except Failure Change)} (h : w.Sound T fs c)
    (hclient : w.client = .busy r rest) (hcalm : w.Calm T k)
    (hc : c = w.onward T fs (Collector.remaining T fs r rest (w.collector k))) :
    GoesOn T fs .client w c := by
  have hw : w.awaited? = none := by rw [awaited?, hclient]
  rcases rest with _ | ⟨e | change, rest⟩
  · have hcalm' : { w with trace := w.trace ++ (r.closing T fs).2 }.Calm T k := hcalm
    refine
      ⟨{ w with trace := w.trace ++ (r.closing T fs).2 }.reply (.ok (r.closing T fs).1), ?_, ?_⟩
    · simp only [move?, clientStep, hclient]
    · refine sound_of_place T fs h hw rfl rfl (place_reply T fs hcalm' _ ?_)
      exact hc.trans (onward_eq_coming T fs w _ k _)
  · refine ⟨w.reply (.error e), ?_, ?_⟩
    · simp only [move?, clientStep, hclient]
    · refine sound_of_place T fs h hw rfl rfl (place_reply T fs hcalm _ ?_)
      have honward := onward_eq_coming T fs w (.error e) k []
      rw [List.append_nil] at honward
      exact hc.trans honward
  · -- the worker is started if it was not
    rcases hcalm.1.elim with ⟨hworker, rfl⟩ | ⟨hworker, rfl⟩ | ⟨compiler, hworker, rfl⟩
    · refine ⟨{ w with worker := .starting, trace := w.trace ++ [Collector.startLog w.options] },
        ?_, ?_⟩
      · simp only [move?, clientStep, hclient, hworker]
      · refine sound_of_place T fs h hw rfl rfl (.busy hclient ⟨.starting, hcalm.2⟩ ?_)
        have hstart := Collector.remaining_absent T fs r change rest w.options w.timeout
        refine hc.trans ((congrArg (w.onward T fs) hstart).trans ?_)
        simp only [onward, coming, Course.after, List.append_assoc]
        rfl
    · refine ⟨w.submit r change rest, ?_, sound_submit T fs h hclient hcalm hc⟩
      simp only [move?, clientStep, hclient, hworker]
    · refine ⟨w.submit r change rest, ?_, sound_submit T fs h hclient hcalm hc⟩
      simp only [move?, clientStep, hclient, hworker]

theorem goesOn_delivered {rules : R} (h : w.Sound T fs c) (hclient : w.client = .awaitingRules)
    (hworker : w.worker = .leaving ∨ w.worker = .gone) (hcommands : w.commands.queue = [])
    (hproduct : w.product = { queue := [rules], sending := false })
    (hc : c = w.coming ⟨[], [], some (.ok ⟨rules, w.timeout⟩)⟩) : GoesOn T fs .client w c := by
  have hw : w.awaited? = none := by rw [awaited?, hclient]
  have hreceive : w.product.receive = .message rules { queue := [], sending := false } := by
    rw [hproduct]
    rfl
  refine ⟨{ w with product := Pipe.close { queue := [], sending := false } }.conclude
    (.ok ⟨rules, w.timeout⟩), ?_, ?_⟩
  · simp only [move?, clientStep, hclient, hreceive]
  · exact sound_of_place T fs h hw rfl rfl (.leaving rfl (.left hworker hcommands) hc)

/-- **A step of the client** leaves what the workshop comes to as it is. -/
theorem client_goesOn (h : w.Sound T fs c) :
    move? T fs .client w = none ∨ GoesOn T fs .client w c := by
  have hwait {i : Nat} (hanswer : w.answers i = {}) : (w.answers i).receive = .wait := by
    rw [hanswer]
    rfl
  have hwaitRules (hproduct : w.product = {}) : w.product.receive = .wait := by
    rw [hproduct]
    rfl
  cases h.place with
  | ready hclient hcalm hc => exact .inr (goesOn_ready T fs h hclient hcalm hc)
  | busy hclient hcalm hc => exact .inr (goesOn_busy T fs h hclient hcalm hc)
  | awaiting hclient hserving hi hunbuilt hc =>
    cases hserving with
    | queued hrests hcommands hanswer =>
      exact .inl (by simp only [move?, clientStep, hclient, hwait hanswer])
    | applying hworker hcommands hanswer =>
      exact .inl (by simp only [move?, clientStep, hclient, hwait hanswer])
    | answering hworker hcommands hanswer hlast =>
      exact .inl (by simp only [move?, clientStep, hclient, hwait hanswer])
  | answered hclient hworker hcommands hanswer hlast hi hunbuilt hc =>
    exact .inr (goesOn_answered T fs h hclient hworker hcommands hanswer hi hunbuilt hc)
  | awaitingRules hclient hdelivering hbuilt hc =>
    cases hdelivering with
    | queued hrests hcommands hproduct =>
      exact .inl (by simp only [move?, clientStep, hclient, hwaitRules hproduct])
    | building hworker hcommands hproduct =>
      exact .inl (by simp only [move?, clientStep, hclient, hwaitRules hproduct])
    | delivering hworker hcommands hproduct =>
      exact .inl (by simp only [move?, clientStep, hclient, hwaitRules hproduct])
  | delivered hclient hworker hcommands hproduct hbuilt hc =>
    exact .inr (goesOn_delivered T fs h hclient hworker hcommands hproduct hc)
  | leaving hclient hparting hc =>
    have hw : w.awaited? = none := by rw [awaited?, hclient]
    refine .inr ⟨{ w with commands := w.commands.hangUp, client := .joining }, ?_, ?_⟩
    · simp only [move?, clientStep, hclient]
    · refine sound_of_place T fs h hw rfl rfl (.joining rfl rfl ?_ hc)
      cases hparting with
      | held hrests hcommands => exact .held hrests hcommands
      | left hworker hcommands => exact .left hworker hcommands
  | joining hclient hsending hparting hc =>
    have hw : w.awaited? = none := by rw [awaited?, hclient]
    cases hparting with
    | held hrests hcommands =>
      left
      rcases hrests.elim with ⟨-, hk⟩ | ⟨hworker, -⟩ | ⟨compiler, hworker, -⟩
      · cases hk
      · simp only [move?, clientStep, hclient, hworker]
      · simp only [move?, clientStep, hclient, hworker]
    | left hworker hcommands =>
      rcases hworker with hworker | hworker
      · exact .inl (by simp only [move?, clientStep, hclient, hworker])
      · refine .inr ⟨{ w with client := .done }, ?_, ?_⟩
        · simp only [move?, clientStep, hclient, hworker]
        · exact sound_of_place T fs h hw rfl rfl (.done rfl (.inr hworker) hc)
  | done hclient hworker hc => exact .inl (by simp only [move?, clientStep, hclient])

/-! ## Steps of the worker -/

theorem sound_of_awaiting {i : Nat} (h : w.Sound T fs c) (hw : w.awaited? = some i)
    (hw' : w'.awaited? = some i) (hopened : w'.opened = w.opened) (hi : i < w.opened)
    (hanswers : ∀ j, j ≠ i → w'.answers j = w.answers j) (hplace : w'.Place T fs c) :
    w'.Sound T fs c where
  place := hplace
  fresh j hj := by
    rw [hopened] at hj
    rw [hanswers j (by omega)]
    exact h.fresh j hj
  unread j hj := by
    have hne : j ≠ i := fun hji => hj (hji ▸ hw')
    rw [hanswers j hne]
    exact h.unread j (by rw [hw, ← hw']; exact hj)

/-- A worker to which no command is on its way can only get ready. -/
theorem goesOn_calm (h : w.Sound T fs c) (hw : w.awaited? = none) (hcalm : w.Calm T k)
    (hplace : ∀ worker, Rests T w.options worker k → { w with worker }.Place T fs c) :
    move? T fs .worker w = none ∨ GoesOn T fs .worker w c := by
  have hreceive : w.commands.receive = .wait := by
    rw [hcalm.2.1]
    rfl
  rcases hcalm.1.elim with ⟨hworker, rfl⟩ | ⟨hworker, rfl⟩ | ⟨compiler, hworker, rfl⟩
  · exact .inl (by simp only [move?, workerStep, hworker])
  · refine .inr ⟨{ w with worker := .ready (T.start w.options) }, ?_, ?_⟩
    · simp only [move?, workerStep, hworker]
    · exact sound_of_place T fs h hw rfl rfl (hplace _ (.ready _))
  · exact .inl (by simp only [move?, workerStep, hworker, hreceive])

/-- The worker makes a change. -/
theorem goesOn_serving {r : Request} {change : Change} {rest : List (Except Failure Change)}
    {i : Nat} {answer : Option String} {compiler : C} {events : List Event} (h : w.Sound T fs c)
    (hclient : w.client = .awaiting r change rest i)
    (hserving : w.Serving T fs change i answer compiler events) (hi : i < w.opened)
    (hunbuilt : w.Unbuilt)
    (hc : let s := Collector.settled T fs answer r rest (w.collector (some compiler))
      c = w.onward T fs { s with trace := events ++ s.trace }) : GoesOn T fs .worker w c := by
  have hw : w.awaited? = some i := by rw [awaited?, hclient]
  cases hserving with
  | @queued compiler hrests hcommands hanswer =>
    rcases hrests.elim with ⟨-, hk⟩ | ⟨hworker, hk⟩ | ⟨k', hworker, hk⟩
    · cases hk
    · cases hk
      refine ⟨{ w with worker := .ready (T.start w.options) }, ?_, ?_⟩
      · simp only [move?, workerStep, hworker]
      · exact sound_of_awaiting T fs h hw hw rfl hi (fun _ _ => rfl)
          (.awaiting hclient (.queued (.ready _) hcommands hanswer) hi hunbuilt hc)
    · cases hk
      have hreceive : w.commands.receive = .message (.apply change i) {} := by
        rw [hcommands]
        rfl
      refine ⟨{ w with commands := {}, worker := .applying compiler change i }, ?_, ?_⟩
      · simp only [move?, workerStep, hworker, hreceive]
      · exact sound_of_awaiting T fs h hw hw rfl hi (fun _ _ => rfl)
          (.awaiting hclient (.applying rfl rfl hanswer) hi hunbuilt hc)
  | @applying compiler hworker hcommands hanswer =>
    refine ⟨{ w with
      worker := .answering (T.apply fs change compiler).2 (T.apply fs change compiler).1 i
      trace := w.trace ++ [.change change (T.apply fs change compiler).1] }, ?_, ?_⟩
    · simp only [move?, workerStep, hworker]
    · refine sound_of_awaiting T fs h hw hw rfl hi (fun _ _ => rfl)
        (.awaiting hclient (.answering rfl hcommands hanswer List.getLast?_concat) hi
          hunbuilt (hc.trans ?_))
      simp only [onward, coming, Course.after, List.append_assoc]
      rfl
  | answering hworker hcommands hanswer hlast =>
    refine ⟨{ w with
      worker := .ready compiler
      answers := Function.update w.answers i ((w.answers i).deliver answer) }, ?_, ?_⟩
    · simp only [move?, workerStep, hworker]
    · have hdelivered : Function.update w.answers i ((w.answers i).deliver answer) i =
          { queue := [answer], sending := false } := by
        rw [Function.update_self, hanswer]
        rfl
      exact sound_of_awaiting T fs h hw hw rfl hi (fun j hj => Function.update_of_ne hj _ _)
        (.answered hclient rfl hcommands hdelivered hlast hi hunbuilt hc)

/-- The worker builds the rules and hands them over. -/
theorem goesOn_delivering {rules : R} (h : w.Sound T fs c) (hclient : w.client = .awaitingRules)
    (hdelivering : w.Delivering T rules) (hbuilt : w.built = none)
    (hc : c = w.coming ⟨[], [], some (.ok ⟨rules, w.timeout⟩)⟩) : GoesOn T fs .worker w c := by
  have hw : w.awaited? = none := by rw [awaited?, hclient]
  cases hdelivering with
  | @queued compiler hrests hcommands hproduct =>
    rcases hrests.elim with ⟨-, hk⟩ | ⟨hworker, hk⟩ | ⟨k', hworker, hk⟩
    · cases hk
    · cases hk
      refine ⟨{ w with worker := .ready (T.start w.options) }, ?_, ?_⟩
      · simp only [move?, workerStep, hworker]
      · exact sound_of_place T fs h hw rfl rfl
          (.awaitingRules hclient (.queued (.ready _) hcommands hproduct) hbuilt hc)
    · cases hk
      have hreceive : w.commands.receive = .message .build {} := by
        rw [hcommands]
        rfl
      refine ⟨{ w with commands := {}, worker := .building compiler }, ?_, ?_⟩
      · simp only [move?, workerStep, hworker, hreceive]
      · exact sound_of_place T fs h hw rfl rfl
          (.awaitingRules hclient (.building rfl rfl hproduct) hbuilt hc)
  | @building compiler hworker hcommands hproduct =>
    refine ⟨{ w with worker := .delivering (T.build compiler) }, ?_, ?_⟩
    · simp only [move?, workerStep, hworker]
    · exact sound_of_place T fs h hw rfl rfl
        (.awaitingRules hclient (.delivering rfl hcommands hproduct) hbuilt hc)
  | delivering hworker hcommands hproduct =>
    refine ⟨{ w with worker := .leaving, product := w.product.deliver rules }, ?_, ?_⟩
    · simp only [move?, workerStep, hworker]
    · have hqueue : w.commands.queue = [] := by rw [hcommands]
      exact sound_of_place T fs h hw rfl rfl
        (.delivered hclient (.inl rfl) hqueue (by rw [hproduct]; rfl) hbuilt hc)

/-- A worker that leaves closes the pipe for its commands, in which there is none. -/
theorem workerStep_leaving (hworker : w.worker = .leaving) (hcommands : w.commands.queue = []) :
    workerStep T fs w = some { w with commands := w.commands.close, worker := .gone } := by
  simp only [workerStep, hworker, abandon, hcommands, List.foldl_nil]

/-- A worker that the client has no more commands for. -/
theorem worker_parting {events : List Event} (h : w.Sound T fs c) (hw : w.awaited? = none)
    (hparting : w.Parting T events) (hc : c = w.coming ⟨[], events, w.built⟩)
    (hplace : ∀ w' : Workshop C R, ∀ events', w'.client = w.client →
      w'.commands.sending = w.commands.sending → w'.Parting T events' →
      c = w'.coming ⟨[], events', w'.built⟩ → w'.Place T fs c) :
    move? T fs .worker w = none ∨ GoesOn T fs .worker w c := by
  cases hparting with
  | held hrests hcommands =>
    rcases hrests.elim with ⟨-, hk⟩ | ⟨hworker, -⟩ | ⟨compiler, hworker, -⟩
    · cases hk
    · refine .inr ⟨{ w with worker := .ready (T.start w.options) }, ?_, ?_⟩
      · simp only [move?, workerStep, hworker]
      · exact sound_of_place T fs h hw rfl rfl
          (hplace _ _ rfl rfl (.held (.ready _) hcommands) hc)
    · cases hsending : w.commands.sending with
      | true =>
        have hreceive : w.commands.receive = .wait := by
          simp only [Pipe.receive, hcommands, hsending, if_true]
        exact .inl (by simp only [move?, workerStep, hworker, hreceive])
      | false =>
        have hreceive : w.commands.receive = .lost := by
          simp only [Pipe.receive, hcommands, hsending, Bool.false_eq_true, if_false]
        refine .inr ⟨{ w with worker := .leaving, trace := w.trace ++ [releaseLog] }, ?_, ?_⟩
        · simp only [move?, workerStep, hworker, hreceive]
        · refine sound_of_place T fs h hw rfl rfl
            (hplace _ [] rfl rfl (.left (.inl rfl) hcommands) (hc.trans ?_))
          simp only [coming, List.append_nil]
  | left hworker hcommands =>
    rcases hworker with hworker | hworker
    · refine .inr ⟨_, workerStep_leaving T fs hworker hcommands, ?_⟩
      exact sound_of_place T fs h hw rfl rfl (hplace _ _ rfl rfl (.left (.inr rfl) rfl) hc)
    · exact .inl (by simp only [move?, workerStep, hworker])

/-- **A step of the worker** leaves what the workshop comes to as it is. -/
theorem worker_goesOn (h : w.Sound T fs c) :
    move? T fs .worker w = none ∨ GoesOn T fs .worker w c := by
  cases h.place with
  | ready hclient hcalm hc =>
    have hw : w.awaited? = none := by rw [awaited?, hclient]
    exact goesOn_calm T fs h hw hcalm fun _ hrests => .ready hclient ⟨hrests, hcalm.2⟩ hc
  | busy hclient hcalm hc =>
    have hw : w.awaited? = none := by rw [awaited?, hclient]
    exact goesOn_calm T fs h hw hcalm fun _ hrests => .busy hclient ⟨hrests, hcalm.2⟩ hc
  | awaiting hclient hserving hi hunbuilt hc =>
    exact .inr (goesOn_serving T fs h hclient hserving hi hunbuilt hc)
  | answered hclient hworker hcommands hanswer hlast hi hunbuilt hc =>
    have hreceive : w.commands.receive = .wait := by
      rw [hcommands]
      rfl
    exact .inl (by simp only [move?, workerStep, hworker, hreceive])
  | awaitingRules hclient hdelivering hbuilt hc =>
    exact .inr (goesOn_delivering T fs h hclient hdelivering hbuilt hc)
  | delivered hclient hworker hcommands hproduct hbuilt hc =>
    have hw : w.awaited? = none := by rw [awaited?, hclient]
    rcases hworker with hworker | hworker
    · refine .inr ⟨_, workerStep_leaving T fs hworker hcommands, ?_⟩
      exact sound_of_place T fs h hw rfl rfl (.delivered hclient (.inr rfl) rfl hproduct hbuilt hc)
    · exact .inl (by simp only [move?, workerStep, hworker])
  | leaving hclient hparting hc =>
    have hw : w.awaited? = none := by rw [awaited?, hclient]
    exact worker_parting T fs h hw hparting hc fun _ _ hclient' _ hparting' hc' =>
      .leaving (hclient'.trans hclient) hparting' hc'
  | joining hclient hsending hparting hc =>
    have hw : w.awaited? = none := by rw [awaited?, hclient]
    exact worker_parting T fs h hw hparting hc fun _ _ hclient' hsending' hparting' hc' =>
      .joining (hclient'.trans hclient) (hsending'.trans hsending) hparting' hc'
  | done hclient hworker hc =>
    rcases hworker with hworker | hworker <;>
      exact .inl (by simp only [move?, workerStep, hworker])

/-- **One of the threads can always make a step** until the client is done. -/
theorem goesOn_of_sound (h : w.Sound T fs c) (hdone : w.client ≠ .done) :
    ∃ p, GoesOn T fs p w c := by
  cases h.place with
  | ready hclient hcalm hc => exact ⟨.client, goesOn_ready T fs h hclient hcalm hc⟩
  | busy hclient hcalm hc => exact ⟨.client, goesOn_busy T fs h hclient hcalm hc⟩
  | awaiting hclient hserving hi hunbuilt hc =>
    exact ⟨.worker, goesOn_serving T fs h hclient hserving hi hunbuilt hc⟩
  | answered hclient hworker hcommands hanswer hlast hi hunbuilt hc =>
    exact ⟨.client, goesOn_answered T fs h hclient hworker hcommands hanswer hi hunbuilt hc⟩
  | awaitingRules hclient hdelivering hbuilt hc =>
    exact ⟨.worker, goesOn_delivering T fs h hclient hdelivering hbuilt hc⟩
  | delivered hclient hworker hcommands hproduct hbuilt hc =>
    exact ⟨.client, goesOn_delivered T fs h hclient hworker hcommands hproduct hc⟩
  | leaving hclient hparting hc =>
    have hmove : move? T fs .client w ≠ none := by simp [move?, clientStep, hclient]
    exact ⟨.client, (client_goesOn T fs h).resolve_left hmove⟩
  | joining hclient hsending hparting hc =>
    cases hparting with
    | held hrests hcommands =>
      have hreceive : w.commands.receive = .lost := by
        simp only [Pipe.receive, hcommands, hsending, Bool.false_eq_true, if_false]
      have hmove : move? T fs .worker w ≠ none := by
        rcases hrests.elim with ⟨-, hk⟩ | ⟨hworker, -⟩ | ⟨compiler, hworker, -⟩
        · cases hk
        · simp [move?, workerStep, hworker]
        · simp [move?, workerStep, hworker, hreceive]
      exact ⟨.worker, (worker_goesOn T fs h).resolve_left hmove⟩
    | left hworker hcommands =>
      rcases hworker with hworker | hworker
      · have hmove : move? T fs .worker w ≠ none := by simp [move?, workerStep, hworker]
        exact ⟨.worker, (worker_goesOn T fs h).resolve_left hmove⟩
      · have hmove : move? T fs .client w ≠ none := by
          simp [move?, clientStep, hclient, hworker]
        exact ⟨.client, (client_goesOn T fs h).resolve_left hmove⟩
  | done hclient hworker hc => exact absurd hclient hdone

end

end Workshop

end RuleScan.Rules
