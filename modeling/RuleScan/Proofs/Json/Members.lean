import RuleScan.Proofs.Json.Printed

/-!
# Members in any order

A record may have its members in any order, and members with names that the schema does not know.
What is made of it depends only on which of the known names are there, when each is there at most
once (`takeMembers_arranged`); a known name that is there twice is refused, whatever it says
(`takeMembers_of_duplicate`).
-/

namespace RuleScan.Json

variable {α σ : Type}

/-- A record with readable names. -/
def Tree.ofMembers (ms : List (String × Tree)) : Tree := .record (ms.map fun m => (.ok m.1, m.2))

/-- What is made of members with readable names. -/
def takeMembers (take : String → Tree → σ → Except Fault σ) (s : σ) (ms : List (String × Tree)) :
    Except Fault σ :=
  takeAll take s (ms.map fun m => (.ok m.1, m.2))

theorem takeMembers_cons (take : String → Tree → σ → Except Fault σ) (s : σ) (m : String × Tree)
    (ms : List (String × Tree)) :
    takeMembers take s (m :: ms) = (take m.1 m.2 s).bind fun s => takeMembers take s ms :=
  takeAll_cons take s _ _

/-- The members of a record that is printed. -/
def fieldMembers (fields : List (String × Value)) : List (String × Tree) :=
  fields.map fun f => (f.1, f.2.tree)

theorem Value.tree_record (fields : List (String × Value)) :
    (Value.record fields).tree = .ofMembers (fieldMembers fields) := by
  have htrees : fieldTrees fields = (fieldMembers fields).map fun m => (.ok m.1, m.2) := by
    induction fields with
    | nil => rfl
    | cons f rest ih => rw [fieldTrees, ih]; rfl
  rw [tree, htrees, Tree.ofMembers]

/-- A member tells what the field of its name in a document holds. -/
def Value.Tells (v : Value) (name : String) (t : Tree) : Prop :=
  ∃ field, v.field? name = some field ∧ t = field.tree

/-- A field that is not yet set, out of a tree that its decoder reads. -/
theorem FieldSchema.reads_of {β : Type} {item : Decoder β} {name : String} {required : Bool}
    {get : σ → Option β} {set : σ → β → σ} {s s' : σ} {depth : Nat} {t : Tree} {b : β}
    (hfree : get s = none) (hread : onTree item depth t = .ok b) (hset : set s b = s') :
    (FieldSchema.of name required get set item).isSet s = false ∧
      onTree ((FieldSchema.of name required get set item).read s) depth t = .ok s' := by
  refine ⟨by simp [FieldSchema.of, hfree], ?_⟩
  rw [FieldSchema.onTree_of, hread, Except.map, hset]

theorem FieldSchema.refuses_of {β : Type} {item : Decoder β} {name : String} {required : Bool}
    {get : σ → Option β} {set : σ → β → σ} {s : σ} {depth : Nat} {t : Tree}
    (h : ∃ e, onTree item depth t = .error e) :
    ∃ e, onTree ((FieldSchema.of name required get set item).read s) depth t = .error e := by
  obtain ⟨e, he⟩ := h
  exact ⟨e, by rw [FieldSchema.onTree_of, he]; rfl⟩

/-- What reading a field changes. -/
theorem FieldSchema.set_of {β : Type} {item : Decoder β} {name : String} {required : Bool}
    {get : σ → Option β} {set : σ → β → σ} {s s' : σ} {depth : Nat} {t : Tree}
    (h : onTree ((FieldSchema.of name required get set item).read s) depth t = .ok s') :
    ∃ b, s' = set s b := by
  rw [FieldSchema.onTree_of] at h
  rcases hread : onTree item depth t with e | b
  · rw [hread] at h
    cases h
  · rw [hread] at h
    exact ⟨b, (Except.ok.inj h).symm⟩

namespace Schema

variable (schema : Schema σ α) (depth : Nat)

/-- The names that a schema knows. -/
def names : List String := schema.fields.flatMap (·.names)

theorem mem_names {name : String} :
    name ∈ schema.names ↔ ∃ field ∈ schema.fields, name ∈ field.names := List.mem_flatMap

/-- A name is known or not, and taken accordingly. -/
theorem take_cases (name : String) (t : Tree) (s : σ) :
    (name ∉ schema.names ∧ schema.take depth name t s = .ok s) ∨
      ∃ field ∈ schema.fields, name ∈ field.names ∧
        schema.take depth name t s = if field.isSet s then .error (.duplicateField field.name)
          else onTree (field.read s) depth t := by
  rw [take]
  split
  next hfind =>
    refine .inl ⟨fun hname => ?_, rfl⟩
    obtain ⟨field, hfield, hmem⟩ := (schema.mem_names).1 hname
    have := List.find?_eq_none.1 hfind field hfield
    simp [hmem] at this
  next field hfind =>
    have hmem : name ∈ field.names := by simpa using List.find?_some hfind
    exact .inr ⟨field, List.mem_of_find?_eq_some hfind, hmem, rfl⟩

/-! ## Fields in any order -/

/-- Members of a record among which the names that are kept are there once, and no other name that
the schema knows; the known ones tell what they should. -/
structure Arranges (tells : String → Tree → Prop) (kept : String → Bool)
    (ms : List (String × Tree)) : Prop where
  once : ∀ name ∈ schema.names, (ms.map (·.1)).count name = if kept name then 1 else 0
  told : ∀ m ∈ ms, m.1 ∈ schema.names → tells m.1 m.2

/-- The names seen so far, and one more. -/
def note (seen : String → Bool) (name : String) : String → Bool := fun n => n == name || seen n

/-- How fields are read, in terms of the state after some of them: it depends on the known names
that were seen. A field that was not seen is not yet set, and reading it out of a tree that tells
what it should brings it into the state. -/
structure Reaches (tells : String → Tree → Prop) (state : (String → Bool) → σ) : Prop where
  start : state (fun _ => false) = schema.start
  congr : ∀ seen seen', (∀ name ∈ schema.names, seen name = seen' name) → state seen = state seen'
  read : ∀ field ∈ schema.fields, ∀ name ∈ field.names, ∀ seen t, tells name t →
    seen name = false → field.isSet (state seen) = false ∧
      onTree (field.read (state seen)) depth t = .ok (state (note seen name))

variable {schema depth} {tells : String → Tree → Prop} {state : (String → Bool) → σ}

theorem note_or_contains (seen : String → Bool) (name : String) (names : List String) :
    (fun n => note seen name n || names.contains n) =
      fun n => seen n || (name :: names).contains n := by
  funext n
  rw [List.contains_cons, note, Bool.or_left_comm, Bool.or_assoc]

theorem count_add_note {seen : String → Bool} {name : String} {names : List String} {n : String}
    (h : (name :: names).count n + (seen n).toNat ≤ 1) :
    names.count n + (note seen name n).toNat ≤ 1 := by
  rw [List.count_cons] at h
  by_cases hname : name = n
  · subst hname
    simp only [note, beq_self_eq_true, Bool.true_or, Bool.toNat_true, if_true] at h ⊢
    omega
  · have hother : (n == name) = false := by simp [Ne.symm hname]
    simp only [beq_iff_eq, hname, if_false, Nat.add_zero] at h
    rwa [note, hother, Bool.false_or]

theorem seen_of_count {seen : String → Bool} {name : String} {names : List String}
    (h : (name :: names).count name + (seen name).toNat ≤ 1) : seen name = false := by
  rw [List.count_cons_self] at h
  cases hseen : seen name with
  | false => rfl
  | true =>
    rw [hseen, Bool.toNat_true] at h
    omega

/-- The state after one member, which is new if it is known. -/
theorem take_new (h : schema.Reaches depth tells state) {seen : String → Bool} {name : String}
    {t : Tree} (htold : name ∈ schema.names → tells name t)
    (hnew : name ∈ schema.names → seen name = false) :
    schema.take depth name t (state seen) = .ok (state (note seen name)) := by
  rcases schema.take_cases depth name t (state seen) with
    ⟨hunknown, htake⟩ | ⟨field, hfield, hname, htake⟩
  · have hsame : state seen = state (note seen name) := by
      refine h.congr _ _ fun n hn => ?_
      have hne : n ≠ name := fun hn' => hunknown (hn' ▸ hn)
      simp [note, hne]
    rw [htake, hsame]
  · have hknown : name ∈ schema.names := (schema.mem_names).2 ⟨field, hfield, hname⟩
    obtain ⟨hset, hread⟩ := h.read field hfield name hname seen t (htold hknown) (hnew hknown)
    rw [htake, hset, if_neg Bool.false_ne_true, hread]

/-- The state after members, each of which is new if it is known. -/
theorem takeMembers_new (h : schema.Reaches depth tells state) (seen : String → Bool)
    {ms : List (String × Tree)} (htold : ∀ m ∈ ms, m.1 ∈ schema.names → tells m.1 m.2)
    (honce : ∀ name ∈ schema.names, (ms.map (·.1)).count name + (seen name).toNat ≤ 1) :
    takeMembers (schema.take depth) (state seen) ms =
      .ok (state fun name => seen name || (ms.map (·.1)).contains name) := by
  induction ms generalizing seen with
  | nil => simp [takeMembers, takeAll, pure, Except.pure]
  | cons m ms ih =>
    obtain ⟨name, t⟩ := m
    -- the first name joins those that were seen; the other members are new beside them
    have htake := take_new h (htold (name, t) List.mem_cons_self)
      fun hname => seen_of_count (honce name hname)
    have hrest := ih (note seen name) (fun m hm => htold m (List.mem_cons_of_mem _ hm))
      fun n hn => count_add_note (honce n hn)
    rw [takeMembers_cons, htake, List.map_cons, ← note_or_contains, ← hrest]
    rfl

/-- **Members in any order** bring the names that are kept into the state. -/
theorem takeMembers_arranged (h : schema.Reaches depth tells state) {kept : String → Bool}
    {ms : List (String × Tree)} (hms : schema.Arranges tells kept ms) :
    takeMembers (schema.take depth) schema.start ms = .ok (state kept) := by
  rw [← h.start, takeMembers_new h (fun _ => false) hms.told]
  · refine congrArg Except.ok (h.congr _ _ fun name hname => ?_)
    have hcount := hms.once name hname
    cases hkept : kept name with
    | false =>
      rw [hkept, if_neg Bool.false_ne_true, List.count_eq_zero] at hcount
      simpa using hcount
    | true =>
      rw [hkept, if_pos rfl] at hcount
      have hmem : name ∈ ms.map (·.1) := List.count_pos_iff.1 (by omega)
      simpa using hmem
  · intro name hname
    have := hms.once name hname
    split at this <;> simp [this]

/-- **A record in any order** is read as its state is finished. -/
theorem onTree_arranged (hlocal : schema.LocalFields) {kept : String → Bool}
    {ms : List (String × Tree)} {inner : Nat} (hdepth : deeper depth = .ok inner)
    (h : schema.Reaches inner tells state) (hms : schema.Arranges tells kept ms) :
    onTree schema.decoder depth (.ofMembers ms) = schema.finish (state kept) := by
  rw [Tree.ofMembers, (onTree_decoder hlocal depth _).2, hdepth]
  change (takeMembers (schema.take inner) schema.start ms).bind schema.finish = _
  rw [takeMembers_arranged h hms]
  rfl

end Schema

/-! ## Repeated members -/

/-- Members of one name are taken only if something is not yet set; they set it, and it stays set.
-/
structure Guards (take : String → Tree → σ → Except Fault σ) (name : String) (isSet : σ → Bool) :
    Prop where
  own : ∀ t s s', take name t s = .ok s' → isSet s = false ∧ isSet s' = true
  stays : ∀ other t s s', take other t s = .ok s' → isSet s = true → isSet s' = true

section Repeated

variable {take : String → Tree → σ → Except Fault σ} {name : String} {isSet : σ → Bool}

/-- A member whose name was seen is refused. -/
theorem takeMembers_of_set (h : Guards take name isSet) {s : σ} (hset : isSet s = true)
    {ms : List (String × Tree)} (hname : name ∈ ms.map (·.1)) :
    ∃ e, takeMembers take s ms = .error e := by
  induction ms generalizing s with
  | nil => cases hname
  | cons m ms ih =>
    obtain ⟨other, t⟩ := m
    rw [takeMembers_cons]
    rcases htake : take other t s with e | s'
    · exact ⟨e, rfl⟩
    · rcases List.mem_cons.1 hname with rfl | hlater
      · have hfree := (h.own t s s' htake).1
        rw [hset] at hfree
        cases hfree
      · exact ih (h.stays other t s s' htake hset) hlater

/-- **A name that is there twice** is refused, whatever its members say. -/
theorem takeMembers_of_duplicate (h : Guards take name isSet) (s : σ) {ms : List (String × Tree)}
    (hdup : List.Duplicate name (ms.map (·.1))) : ∃ e, takeMembers take s ms = .error e := by
  induction ms generalizing s with
  | nil => cases hdup
  | cons m ms ih =>
    obtain ⟨other, t⟩ := m
    rw [takeMembers_cons]
    rcases htake : take other t s with e | s'
    · exact ⟨e, rfl⟩
    · rcases List.duplicate_cons_iff.1 hdup with ⟨rfl, hlater⟩ | hlater
      · exact takeMembers_of_set h (h.own t s s' htake).2 hlater
      · exact ih s' hlater

/-- A record with a member that is always refused. -/
theorem takeMembers_of_refused {m : String × Tree} (h : ∀ s, ∃ e, take m.1 m.2 s = .error e)
    (s : σ) {ms : List (String × Tree)} (hm : m ∈ ms) :
    ∃ e, takeMembers take s ms = .error e := by
  induction ms generalizing s with
  | nil => cases hm
  | cons m' ms ih =>
    rw [takeMembers_cons]
    rcases htake : take m'.1 m'.2 s with e | s'
    · exact ⟨e, rfl⟩
    · rcases List.mem_cons.1 hm with rfl | hm
      · obtain ⟨e, he⟩ := h s
        rw [he] at htake
        cases htake
      · exact ih s' hm

end Repeated

namespace Schema

variable {schema : Schema σ α} {depth : Nat}

/-- A schema whose fields are set once they are read, and stay set. -/
def Settles (schema : Schema σ α) : Prop :=
  ∀ depth, ∀ field ∈ schema.fields, ∀ s t s', onTree (field.read s) depth t = .ok s' →
    field.isSet s' = true ∧ ∀ other ∈ schema.fields, other.isSet s = true → other.isSet s' = true

/-- A schema guards its names. -/
theorem Settles.guards (h : schema.Settles) (depth : Nat) {name : String}
    (hname : name ∈ schema.names) :
    ∃ isSet : σ → Bool, Guards (schema.take depth) name isSet := by
  obtain ⟨own, hown, hmem⟩ := (schema.mem_names).1 hname
  obtain ⟨field, hfind⟩ : ∃ field, schema.fields.find? (·.names.contains name) = some field :=
    Option.isSome_iff_exists.1 (List.find?_isSome.2 ⟨own, hown, by simpa using hmem⟩)
  have hfield : field ∈ schema.fields := List.mem_of_find?_eq_some hfind
  refine ⟨field.isSet, ⟨fun t s s' htake => ?_, fun other t s s' htake hset => ?_⟩⟩
  · rw [take, hfind] at htake
    dsimp only at htake
    split at htake
    next => cases htake
    next hfree => exact ⟨by simpa using hfree, (h depth field hfield s t s' htake).1⟩
  · rw [take] at htake
    split at htake
    next => exact Except.ok.inj htake ▸ hset
    next found hfound =>
      split at htake
      next => cases htake
      next =>
        exact (h depth found (List.mem_of_find?_eq_some hfound) s t s' htake).2 field hfield hset

/-- **A record with a known name twice** is refused. -/
theorem onTree_duplicate (hlocal : schema.LocalFields) (h : schema.Settles) {name : String}
    (hname : name ∈ schema.names) {ms : List (String × Tree)}
    (hdup : List.Duplicate name (ms.map (·.1))) :
    ∃ e, onTree schema.decoder depth (.ofMembers ms) = .error e := by
  rw [Tree.ofMembers, (onTree_decoder hlocal depth _).2]
  rcases deeper depth with e | inner
  · exact ⟨e, rfl⟩
  · obtain ⟨isSet, hguards⟩ := h.guards inner hname
    obtain ⟨e, he⟩ := takeMembers_of_duplicate hguards schema.start hdup
    rw [takeMembers] at he
    exact ⟨e, by simp only [Except.bind, he]⟩

/-- **A record with a member that its field refuses** is refused. -/
theorem onTree_refused (hlocal : schema.LocalFields) {field : FieldSchema σ} {name : String}
    {t : Tree} (hfind : schema.fields.find? (·.names.contains name) = some field)
    (h : ∀ s depth, ∃ e, onTree (field.read s) depth t = .error e) {ms : List (String × Tree)}
    (hm : (name, t) ∈ ms) : ∃ e, onTree schema.decoder depth (.ofMembers ms) = .error e := by
  rw [Tree.ofMembers, (onTree_decoder hlocal depth _).2]
  rcases deeper depth with e | inner
  · exact ⟨e, rfl⟩
  · have htake (s : σ) : ∃ e, schema.take inner name t s = .error e := by
      rw [take, hfind]
      dsimp only
      split
      · exact ⟨_, rfl⟩
      · exact h s inner
    obtain ⟨e, he⟩ := takeMembers_of_refused htake schema.start hm
    rw [takeMembers] at he
    exact ⟨e, by simp only [Except.bind, he]⟩

end Schema

end RuleScan.Json
