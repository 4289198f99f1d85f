import RuleScan.Rules.Toolchain

/-!
# The namespace that a compiler is in

A compiler starts in a default namespace and is in another one from the moment it is told to open
it; nothing else that it is told moves it (`Toolchain.Namespaces`). The compilers of this library
are such (`namespaces`): a source leaves the namespace as it is, and its rules are all put there
(`Draft.addSource_extends`).
-/

namespace RuleScan.Rules

/-! ## Drafts -/

/-- A draft with more rules, all of which are in the namespace that is open. -/
structure Draft.Extends (d e : Draft) : Prop where
  space_eq : e.space = d.space
  spaceNumber_eq : e.spaceNumber = d.spaceNumber
  rules_space : ∀ r ∈ e.rules, r ∈ d.rules ∨ r.space = d.space

namespace Draft

variable {d e f : Draft}

theorem Extends.refl (d : Draft) : d.Extends d := ⟨rfl, rfl, fun _ h => .inl h⟩

theorem Extends.trans (h : d.Extends e) (h' : e.Extends f) : d.Extends f where
  space_eq := h'.space_eq.trans h.space_eq
  spaceNumber_eq := h'.spaceNumber_eq.trans h.spaceNumber_eq
  rules_space r hr := by
    rcases h'.rules_space r hr with hr | hr
    · exact h.rules_space r hr
    · exact .inr (hr.trans h.space_eq)

theorem importModule_extends {name : String} (h : d.importModule name = .ok e) : d.Extends e := by
  unfold importModule at h
  split at h
  · cases h
    exact ⟨rfl, rfl, fun _ h => .inl h⟩
  · split at h
    · cases h
      exact .refl d
    · cases h

theorem compileRule_space {o : CompileOptions} {r : RuleDecl} {rule : Rule}
    (h : d.compileRule o r = .ok rule) : rule.space = d.space := by
  unfold compileRule at h
  simp only [bind, Except.bind, pure, Except.pure, throw, throwThe, MonadExceptOf.throw] at h
  grind

theorem addRule_extends {o : CompileOptions} {r : RuleDecl} (h : d.addRule o r = .ok e) :
    d.Extends e := by
  unfold addRule at h
  split at h
  · next rule hrule =>
    cases h
    refine ⟨rfl, rfl, fun r hr => ?_⟩
    rcases List.mem_append.1 hr with hr | hr
    · exact .inl hr
    · rw [List.mem_singleton.1 hr]
      exact .inr (compileRule_space hrule)
  · cases h
    exact ⟨rfl, rfl, fun _ h => .inl h⟩
  · cases h

/-- What was achieved is kept, whether or not there is more. -/
theorem collect_extends {faults : List Fault} {r : Except Fault Draft}
    (h : ∀ e, r = .ok e → d.Extends e) : d.Extends (collect faults d r).2 := by
  cases r with
  | ok e => exact h e rfl
  | error f => exact .refl d

/-- **A source leaves the namespace as it is**, and its rules are put there. -/
theorem addSource_extends (o : CompileOptions) (files : Included) (depth : Nat)
    (within : List String) (d : Draft) (bytes : ByteArray) :
    d.Extends (addSource o files depth within d bytes).2 := by
  induction depth generalizing within d bytes with
  | zero => exact .refl d
  | succ depth ih =>
    rw [addSource]
    split
    · exact .refl d
    · next text htext =>
      -- what holds of the draft so far holds after one more item
      refine List.foldlRecOn (motive := fun acc : List Fault × Draft => d.Extends acc.2) _ _
        (.refl d) fun acc hacc item _ => hacc.trans ?_
      obtain ⟨faults, e⟩ := acc
      cases item with
      | module name => exact collect_extends fun _ h => importModule_extends h
      | rule r => exact collect_extends fun _ h => addRule_extends h
      | file path =>
        dsimp only
        split
        · exact .refl e
        · split
          · exact ih _ e _
          · exact .refl e
          · exact .refl e

end Draft

/-! ## Toolchains -/

/-- Which namespace the next source goes into, for the compilers of a toolchain. -/
structure Toolchain.Namespaces {C R : Type} (T : Toolchain C R) where
  /-- The namespace that was opened last; none while it is the default one. -/
  current : C → Option String
  current_start : ∀ o, current (T.start o) = none
  current_newSpace : ∀ name c, current (T.newSpace name c) = some name
  current_ignoreModule : ∀ module c, current (T.ignoreModule module c) = current c
  current_define : ∀ name value c, current (T.define name value c).2 = current c
  current_addSource : ∀ fs bytes origin c, current (T.addSource fs bytes origin c).2 = current c

/-- A change to the rules opens a namespace or leaves it as it is. -/
theorem Toolchain.Namespaces.current_apply {C R : Type} {T : Toolchain C R} (N : T.Namespaces)
    (fs : Files) (change : Change) (c : C) :
    N.current (T.apply fs change c).2 =
      match change with
      | .space name => some name
      | _ => N.current c := by
  cases change with
  | space name => exact N.current_newSpace name c
  | ignoreModule module => exact N.current_ignoreModule module c
  | define name value => exact N.current_define name value c
  | source bytes origin => exact N.current_addSource fs bytes origin c

theorem Draft.define_space (d : Draft) (name : String) (value : ExternalValue) :
    (d.define name value).2.space = d.space ∧
      (d.define name value).2.spaceNumber = d.spaceNumber := by
  unfold define
  split <;> exact ⟨rfl, rfl⟩

/-- The namespaces of this library's compilers. The default one is the only one with number zero. -/
def namespaces : toolchain.Namespaces where
  current c := if c.draft.spaceNumber = 0 then none else some c.draft.space
  current_start _ := rfl
  current_newSpace name c := if_neg (Nat.succ_ne_zero _)
  current_ignoreModule module c := rfl
  current_define name value c := by
    have h := c.draft.define_space name (StoredValue.ofExternal value).toExternal
    simp only [toolchain, Compiler.define, Compiler.follow, Draft.follow, h]
  current_addSource fs bytes origin c := by
    have h (files : Included) (depth : Nat) :=
      Draft.addSource_extends c.options files depth [] c.draft bytes
    simp only [toolchain, Compiler.addSource, Compiler.follow, Draft.follow,
      (h _ _).space_eq, (h _ _).spaceNumber_eq]

end RuleScan.Rules
