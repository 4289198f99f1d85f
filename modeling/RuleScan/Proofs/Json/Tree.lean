import Mathlib
import RuleScan.Json.Schema

/-!
# Decoders on trees

The tokens of a JSON value form a tree, in which strings and numbers stand as they would be read. A
decoder that starts at such a value ends where the value ends, whatever follows, or refuses it
(`Local`); what it makes of the value is then a function of the tree (`onTree`). All decoders that
are built from the combinators are local, and on a tree a list is read item by item and a record
member by member (`onTree_list`, `onTree_decoder`). Skipping passes over every tree.
-/

namespace RuleScan.Json

variable {α β σ : Type}

/-! ## Trees -/

/-- A JSON value as it stands in a text, with strings and numbers as they would be read. -/
inductive Tree
  | word (w : Word)
  | number (read : Except Fault Number)
  | text (read : Except Fault String)
  | list (items : List Tree)
  | record (members : List (Except Fault String × Tree))

mutual

/-- The tokens of a tree. -/
def Tree.tokens : Tree → List Token
  | .word w => [.word (.ok w)]
  | .number read => [.number read (.ok ())]
  | .text read => [.text read (.ok ())]
  | .list items => .listStart :: (itemTokens true items ++ [.listEnd])
  | .record members => .recordStart :: (memberTokens true members ++ [.recordEnd])

/-- The tokens of the items of a list, each but the first after a comma. -/
def itemTokens (first : Bool) : List Tree → List Token
  | [] => []
  | t :: rest => (if first then [] else [.comma]) ++ (t.tokens ++ itemTokens false rest)

/-- The tokens of the members of a record, each but the first after a comma. -/
def memberTokens (first : Bool) : List (Except Fault String × Tree) → List Token
  | [] => []
  | (name, t) :: rest => (if first then [] else [.comma]) ++
      (.text name (.ok ()) :: .colon :: (t.tokens ++ memberTokens false rest))

end

theorem Tree.tokens_pos (t : Tree) : 0 < t.tokens.length := by
  cases t <;> simp [tokens]

theorem length_le_itemTokens (first : Bool) (ts : List Tree) :
    ts.length ≤ (itemTokens first ts).length := by
  induction ts generalizing first with
  | nil => simp
  | cons t rest ih =>
    have ht := t.tokens_pos
    have hrest := ih false
    simp only [itemTokens, List.length_append, List.length_cons]
    omega

theorem length_le_memberTokens (first : Bool) (ms : List (Except Fault String × Tree)) :
    ms.length ≤ (memberTokens first ms).length := by
  induction ms generalizing first with
  | nil => simp
  | cons m rest ih =>
    have hrest := ih false
    simp only [memberTokens, List.length_append, List.length_cons]
    omega

/-! ## Local decoders -/

/-- What a decoder makes of a tree. -/
def onTree (d : Decoder α) (depth : Nat) (t : Tree) : Except Fault α :=
  (d depth t.tokens).map (·.1)

/-- At some depth, a decoder reads or refuses every tree, whatever follows it. -/
def LocalAt (d : Decoder α) (depth : Nat) : Prop :=
  ∀ (t : Tree) (rest : List Token),
    d depth (t.tokens ++ rest) = (onTree d depth t).map (·, rest)

/-- A decoder that reads or refuses every tree, whatever follows it. -/
def Local (d : Decoder α) : Prop := ∀ depth, LocalAt d depth

theorem onTree_of_forall {d : Decoder α} {depth : Nat} {t : Tree} {r : Except Fault α}
    (h : ∀ rest, d depth (t.tokens ++ rest) = r.map (·, rest)) : onTree d depth t = r := by
  have hall := h []
  rw [List.append_nil] at hall
  rw [onTree, hall]
  cases r <;> rfl

/-- A decoder reads or refuses a tree, whatever follows it. -/
def LocalOn (d : Decoder α) (depth : Nat) (t : Tree) : Prop :=
  ∃ r : Except Fault α, ∀ rest, d depth (t.tokens ++ rest) = r.map (·, rest)

theorem localAt_of_forall {d : Decoder α} {depth : Nat} (h : ∀ t, LocalOn d depth t) :
    LocalAt d depth := by
  intro t rest
  obtain ⟨r, hr⟩ := h t
  rw [onTree_of_forall hr, hr]

/-! ## Single values -/

theorem local_textAs (expected : String) : Local (textAs expected) := by
  intro depth t rest
  cases t with
  | word w => cases w <;> rfl
  | number read => rcases read with e | n | i | x <;> rfl
  | text read => cases read <;> rfl
  | list items => rfl
  | record members => rfl

theorem local_text : Local text := local_textAs _

theorem local_bool : Local bool := by
  intro depth t rest
  cases t with
  | word w => cases w <;> rfl
  | number read => rcases read with e | n | i | x <;> rfl
  | text read => cases read <;> rfl
  | list items => rfl
  | record members => rfl

theorem local_unit : Local unit := by
  intro depth t rest
  cases t with
  | word w => cases w <;> rfl
  | number read => rcases read with e | n | i | x <;> rfl
  | text read => cases read <;> rfl
  | list items => rfl
  | record members => rfl

theorem local_natural (bits : Nat) (expected : String) : Local (natural bits expected) := by
  refine fun depth => localAt_of_forall fun t => ?_
  cases t with
  | word w => cases w <;> exact ⟨.error _, fun _ => rfl⟩
  | number read =>
    rcases read with e | n | i | x
    · exact ⟨.error _, fun _ => rfl⟩
    · by_cases hn : n < Nat.pow 2 bits
      · exact ⟨.ok n, fun _ => if_pos hn⟩
      · exact ⟨.error (.outOfRange (.natural n) expected), fun _ => if_neg hn⟩
    · exact ⟨.error _, fun _ => rfl⟩
    · exact ⟨.error _, fun _ => rfl⟩
  | text read => cases read <;> exact ⟨.error _, fun _ => rfl⟩
  | list items => exact ⟨.error _, fun _ => rfl⟩
  | record members => exact ⟨.error _, fun _ => rfl⟩

/-- What is done with the value that a decoder has read. -/
theorem Local.after {d : Decoder α} (hd : Local d) (f : α → β) :
    Local fun depth tokens => (d depth tokens).map fun (a, rest) => (f a, rest) := by
  refine fun depth => localAt_of_forall fun t => ⟨(onTree d depth t).map f, fun rest => ?_⟩
  dsimp only
  rw [hd depth t rest]
  cases onTree d depth t <;> rfl

theorem onTree_after {d : Decoder α} (f : α → β) (depth : Nat) (t : Tree) :
    onTree (fun depth tokens => (d depth tokens).map fun (a, rest) => (f a, rest)) depth t =
      (onTree d depth t).map f := by
  rw [onTree, onTree]
  cases d depth t.tokens <;> rfl

theorem FieldSchema.local_of {item : Decoder α} (h : Local item) (name : String) (required : Bool)
    (get : σ → Option α) (set : σ → α → σ) (s : σ) :
    Local ((FieldSchema.of name required get set item).read s) := h.after (set s)

theorem FieldSchema.onTree_of (item : Decoder α) (name : String) (required : Bool)
    (get : σ → Option α) (set : σ → α → σ) (s : σ) (depth : Nat) (t : Tree) :
    onTree ((FieldSchema.of name required get set item).read s) depth t =
      (onTree item depth t).map (set s) := onTree_after (set s) depth t

theorem local_optional {item : Decoder α} (h : Local item) : Local (optional item) := by
  refine fun depth => localAt_of_forall fun t => ?_
  have hitem (ht : ∀ rest, optional item depth (t.tokens ++ rest) =
      (item depth (t.tokens ++ rest)).map fun (a, rest) => (some a, rest)) :
      LocalOn (optional item) depth t := by
    refine ⟨(onTree item depth t).map some, fun rest => ?_⟩
    rw [ht, h depth t rest]
    cases onTree item depth t <;> rfl
  cases t with
  | word w =>
    cases w with
    | null => exact ⟨.ok none, fun _ => rfl⟩
    | yes => exact hitem fun _ => rfl
    | no => exact hitem fun _ => rfl
  | number read => exact hitem fun _ => rfl
  | text read => exact hitem fun _ => rfl
  | list items => exact hitem fun _ => rfl
  | record members => exact hitem fun _ => rfl

/-! ## Lists -/

theorem nextItem_tokens (t : Tree) (ts : List Tree) (first : Bool) (rest : List Token) :
    nextItem first (itemTokens first (t :: ts) ++ rest) =
      .ok (true, t.tokens ++ (itemTokens false ts ++ rest)) := by
  cases first <;> cases t <;> simp [itemTokens, Tree.tokens, nextItem]

theorem endList_tokens (first : Bool) (t : Tree) (ts : List Tree) (rest : List Token) :
    endList (itemTokens first (t :: ts) ++ rest) = .error .trailingCharacters := by
  cases first <;> cases t <;> simp [itemTokens, Tree.tokens, endList]

/-- **Items** are read one by one. -/
theorem items_tokens {item : Decoder α} {depth : Nat} (h : LocalAt item depth) (ts : List Tree)
    {fuel : Nat} (first : Bool) (done : List α) (rest : List Token) (hfuel : ts.length < fuel) :
    items item depth fuel first done (itemTokens first ts ++ .listEnd :: rest) =
      (ts.mapM (onTree item depth)).map fun as => (done.reverse ++ as, rest) := by
  induction ts generalizing fuel first done with
  | nil =>
    obtain ⟨fuel, rfl⟩ : ∃ k, fuel = k + 1 := ⟨fuel - 1, by simp at hfuel; omega⟩
    simp [items, itemTokens, nextItem, endList, bind, Except.bind, Except.map, pure, Except.pure]
  | cons t ts ih =>
    obtain ⟨fuel, rfl⟩ : ∃ k, fuel = k + 1 := ⟨fuel - 1, by simp at hfuel; omega⟩
    have hfuel' : ts.length < fuel := by
      simp only [List.length_cons] at hfuel
      omega
    rw [items, nextItem_tokens]
    simp only [bind, Except.bind]
    rw [h t]
    rcases hitem : onTree item depth t with e | a
    · simp [hitem, bind, Except.bind, Except.map]
    · simp only [Except.map]
      rw [ih false (a :: done) hfuel', List.mapM_cons, hitem]
      simp only [bind, Except.bind]
      cases ts.mapM (onTree item depth) <;>
        simp [Except.map, pure, Except.pure]

/-- **A list** is read item by item, one level deeper. -/
theorem onTree_list {item : Decoder α} (h : Local item) (depth : Nat) (ts : List Tree) :
    (∀ rest, list item depth ((Tree.list ts).tokens ++ rest) =
      ((deeper depth).bind fun depth => ts.mapM (onTree item depth)).map (·, rest)) ∧
    onTree (list item) depth (.list ts) =
      (deeper depth).bind fun depth => ts.mapM (onTree item depth) := by
  have hall (rest : List Token) : list item depth ((Tree.list ts).tokens ++ rest) =
      ((deeper depth).bind fun depth => ts.mapM (onTree item depth)).map (·, rest) := by
    have hfuel : ts.length < (itemTokens true ts ++ .listEnd :: rest).length + 1 := by
      have := length_le_itemTokens true ts
      simp only [List.length_append, List.length_cons]
      omega
    rw [Tree.tokens, List.cons_append, List.append_assoc, List.singleton_append, list]
    rcases deeper depth with e | depth
    · rfl
    · simp only [bind, Except.bind]
      rw [items_tokens (h depth) ts true [] rest hfuel]
      rfl
  exact ⟨hall, onTree_of_forall hall⟩

theorem local_list {item : Decoder α} (h : Local item) : Local (list item) := by
  refine fun depth => localAt_of_forall fun t => ?_
  cases t with
  | word w => cases w <;> exact ⟨.error _, fun _ => rfl⟩
  | number read => rcases read with e | n | i | x <;> exact ⟨.error _, fun _ => rfl⟩
  | text read => cases read <;> exact ⟨.error _, fun _ => rfl⟩
  | list ts => exact ⟨_, fun rest => (onTree_list h depth ts).1 rest⟩
  | record members => exact ⟨.error _, fun _ => rfl⟩

/-! ## Records -/

theorem nextKey_tokens (name : Except Fault String) (t : Tree)
    (ms : List (Except Fault String × Tree)) (first : Bool) (rest : List Token) :
    nextKey first (memberTokens first ((name, t) :: ms) ++ rest) =
      name.map fun s => (some s, .colon :: (t.tokens ++ (memberTokens false ms ++ rest))) := by
  cases first <;> simp [memberTokens, nextKey]

/-- What is made of the members of a record, one after the other. -/
def takeAll (take : String → Tree → σ → Except Fault σ) (s : σ)
    (ms : List (Except Fault String × Tree)) : Except Fault σ :=
  ms.foldlM (fun s m => m.1.bind fun name => take name m.2 s) s

theorem takeAll_cons (take : String → Tree → σ → Except Fault σ) (s : σ)
    (m : Except Fault String × Tree) (ms : List (Except Fault String × Tree)) :
    takeAll take s (m :: ms) =
      (m.1.bind fun name => take name m.2 s).bind fun s => takeAll take s ms := by
  rw [takeAll, List.foldlM_cons]
  rfl

/-- **Members** are taken one by one. -/
theorem fields_tokens {field : String → σ → List Token → Except Fault (σ × List Token)}
    {take : String → Tree → σ → Except Fault σ}
    (h : ∀ name s t rest, field name s (.colon :: (t.tokens ++ rest)) =
      (take name t s).map (·, rest))
    (ms : List (Except Fault String × Tree)) {fuel : Nat} (first : Bool) (s : σ)
    (rest : List Token) (hfuel : ms.length < fuel) :
    fields field fuel first s (memberTokens first ms ++ .recordEnd :: rest) =
      (takeAll take s ms).map (·, rest) := by
  induction ms generalizing fuel first s with
  | nil =>
    obtain ⟨fuel, rfl⟩ : ∃ k, fuel = k + 1 := ⟨fuel - 1, by simp at hfuel; omega⟩
    simp [fields, memberTokens, nextKey, endRecord, takeAll, bind, Except.bind, Except.map, pure,
      Except.pure]
  | cons m ms ih =>
    obtain ⟨name, t⟩ := m
    obtain ⟨fuel, rfl⟩ : ∃ k, fuel = k + 1 := ⟨fuel - 1, by simp at hfuel; omega⟩
    have hfuel' : ms.length < fuel := by
      simp only [List.length_cons] at hfuel
      omega
    rw [fields, nextKey_tokens, takeAll_cons]
    rcases name with e | name
    · rfl
    · simp only [bind, Except.bind, Except.map]
      rw [h]
      rcases take name t s with e | s
      · rfl
      · exact ih false s hfuel'

/-! ## Records with any names -/

/-- Reads an entry of a record with any names. -/
def readEntry (item : Decoder α) (depth : Nat) (name : String) (done : List (String × α))
    (tokens : List Token) : Except Fault (List (String × α) × List Token) := do
  let (a, tokens) ← item depth (← colon tokens)
  .ok ((name, a) :: done, tokens)

/-- What is made of an entry of a record with any names. -/
def takeEntry (item : Decoder α) (depth : Nat) (name : String) (t : Tree)
    (done : List (String × α)) : Except Fault (List (String × α)) :=
  (onTree item depth t).map fun a => (name, a) :: done

theorem entries_tokens {item : Decoder α} {depth : Nat} (h : LocalAt item depth)
    (ms : List (Except Fault String × Tree)) (rest : List Token) :
    fields (readEntry item depth) ((memberTokens true ms ++ .recordEnd :: rest).length + 1) true []
      (memberTokens true ms ++ .recordEnd :: rest) =
        (takeAll (takeEntry item depth) [] ms).map (·, rest) := by
  have hfuel : ms.length < (memberTokens true ms ++ .recordEnd :: rest).length + 1 := by
    have := length_le_memberTokens true ms
    simp only [List.length_append, List.length_cons]
    omega
  refine fields_tokens (fun name done t rest => ?_) ms true [] rest hfuel
  simp only [readEntry, takeEntry, colon, bind, Except.bind, h t rest]
  cases onTree item depth t <;> rfl

/-- **A map** is read entry by entry, one level deeper. -/
theorem onTree_map {item : Decoder α} (h : Local item) (depth : Nat)
    (ms : List (Except Fault String × Tree)) :
    (∀ rest, map item depth ((Tree.record ms).tokens ++ rest) =
      ((deeper depth).bind fun depth =>
        (takeAll (takeEntry item depth) [] ms).map List.reverse).map (·, rest)) ∧
    onTree (map item) depth (.record ms) =
      (deeper depth).bind fun depth =>
        (takeAll (takeEntry item depth) [] ms).map List.reverse := by
  have hall (rest : List Token) : map item depth ((Tree.record ms).tokens ++ rest) =
      ((deeper depth).bind fun depth =>
        (takeAll (takeEntry item depth) [] ms).map List.reverse).map (·, rest) := by
    rw [Tree.tokens, List.cons_append, List.append_assoc, List.singleton_append]
    have hread : map item depth (.recordStart :: (memberTokens true ms ++ .recordEnd :: rest)) =
        (deeper depth).bind fun depth => (fields (readEntry item depth)
          ((memberTokens true ms ++ .recordEnd :: rest).length + 1) true []
          (memberTokens true ms ++ .recordEnd :: rest)).map fun r => (r.1.reverse, r.2) := rfl
    rw [hread]
    rcases deeper depth with e | depth
    · rfl
    · simp only [Except.bind]
      rw [entries_tokens (h depth)]
      cases takeAll (takeEntry item depth) [] ms <;> rfl
  exact ⟨hall, onTree_of_forall hall⟩

theorem local_map {item : Decoder α} (h : Local item) : Local (map item) := by
  refine fun depth => localAt_of_forall fun t => ?_
  cases t with
  | word w => cases w <;> exact ⟨.error _, fun _ => rfl⟩
  | number read => rcases read with e | n | i | x <;> exact ⟨.error _, fun _ => rfl⟩
  | text read => cases read <;> exact ⟨.error _, fun _ => rfl⟩
  | list items => exact ⟨.error _, fun _ => rfl⟩
  | record ms => exact ⟨_, fun rest => (onTree_map h depth ms).1 rest⟩

/-! ## Skipping -/

/-- The rest of a text, after a value that was skipped. -/
def skipAfter (above : List Frame) (rest : List Token) : Except Fault (List Token) :=
  match above with
  | [] => .ok rest
  | frame :: above => skipFrom (frame :: above) .closed rest

mutual

theorem skipFrom_tokens (t : Tree) (above : List Frame) (rest : List Token) :
    skipFrom above .value (t.tokens ++ rest) = skipAfter above rest := by
  cases t with
  | word w => cases above <;> rfl
  | number read => cases above <;> rfl
  | text read => cases above <;> rfl
  | list items =>
    have hitems := skipFrom_itemTokens items true above rest
    rw [Tree.tokens, List.cons_append, List.append_assoc, List.singleton_append]
    exact hitems
  | record members =>
    have hmembers := skipFrom_memberTokens members true above rest
    rw [Tree.tokens, List.cons_append, List.append_assoc, List.singleton_append]
    exact hmembers

theorem skipFrom_itemTokens (ts : List Tree) (first : Bool) (above : List Frame)
    (rest : List Token) :
    skipFrom (.list :: above) (if first then .opened else .closed)
      (itemTokens first ts ++ .listEnd :: rest) = skipAfter above rest := by
  cases ts with
  | nil => cases above <;> cases first <;> rfl
  | cons t ts =>
    have hrest := skipFrom_itemTokens ts false above rest
    have ht := skipFrom_tokens t (.list :: above) (itemTokens false ts ++ .listEnd :: rest)
    rw [skipAfter] at ht
    rw [← hrest, if_neg Bool.false_ne_true, ← ht]
    cases first <;> cases t <;>
      simp [itemTokens, Tree.tokens, skipFrom, skipStep, skipValueToken]

theorem skipFrom_memberTokens (ms : List (Except Fault String × Tree)) (first : Bool)
    (above : List Frame) (rest : List Token) :
    skipFrom (.record :: above) (if first then .opened else .closed)
      (memberTokens first ms ++ .recordEnd :: rest) = skipAfter above rest := by
  cases ms with
  | nil => cases above <;> cases first <;> rfl
  | cons m ms =>
    obtain ⟨name, t⟩ := m
    have hrest := skipFrom_memberTokens ms false above rest
    have ht := skipFrom_tokens t (.record :: above) (memberTokens false ms ++ .recordEnd :: rest)
    rw [skipAfter] at ht
    rw [← hrest, if_neg Bool.false_ne_true, ← ht]
    cases first <;> simp [memberTokens, skipFrom, skipStep, skipKeyToken, Except.map]

end

/-- **Skipping** passes over a tree. -/
theorem skip_tokens (t : Tree) (rest : List Token) : skip (t.tokens ++ rest) = .ok rest :=
  skipFrom_tokens t [] rest

/-- **A text with the tokens of a tree** is decoded as the tree. -/
theorem decodeText_of_lex {d : Decoder α} (h : Local d) {s : String} {t : Tree}
    (hlex : lex s = t.tokens) : decodeText d s = onTree d maxDepth t := by
  have ht := h maxDepth t []
  rw [List.append_nil] at ht
  rw [decodeText, hlex, ht]
  cases onTree d maxDepth t <;> rfl

/-! ## Names that stand for something -/

theorem local_named (known : List (String × α)) : Local (named known) := by
  intro depth t rest
  have hname := local_textAs "variant identifier" depth t
  have hall (rest : List Token) : named known depth (t.tokens ++ rest) =
      ((onTree (textAs "variant identifier") depth t).bind (pick known)).map (·, rest) := by
    rw [named, hname]
    rcases onTree (textAs "variant identifier") depth t with e | name
    · rfl
    · simp only [bind, Except.bind, Except.map]
  rw [hall, onTree_of_forall hall]

/-- A variant out of a record: only what follows its one member is still looked at. -/
theorem variant_record (known : List (String × α)) (depth : Nat)
    (ms : List (Except Fault String × Tree)) : LocalOn (variant known) depth (.record ms) := by
  rcases hdepth : deeper depth with e | inner
  · refine ⟨.error e, fun rest => ?_⟩
    simp [Tree.tokens, variant, hdepth, bind, Except.bind, Except.map]
  cases ms with
  | nil =>
    refine ⟨.error .expectedValue, fun rest => ?_⟩
    simp [Tree.tokens, memberTokens, variant, hdepth, named, textAs, unexpected, bind,
      Except.bind, Except.map]
  | cons m ms =>
    obtain ⟨name, t⟩ := m
    refine ⟨((name.bind (pick known)).bind fun a => (onTree unit depth t).bind fun _ =>
      if ms.isEmpty then .ok a else .error .expectedValue), fun rest => ?_⟩
    rcases name with e | name
    · simp [Tree.tokens, memberTokens, variant, hdepth, named, textAs, unexpected, bind,
        Except.bind, Except.map]
    rcases hname : pick known name with e | a
    · simp [Tree.tokens, memberTokens, variant, hdepth, named, textAs, hname, bind, Except.bind,
        Except.map]
    have hunit := local_unit depth t (memberTokens false ms ++ .recordEnd :: rest)
    rcases hvalue : onTree unit depth t with e | u
    · simp [Tree.tokens, memberTokens, variant, hdepth, named, textAs, hname, colon, hunit,
        hvalue, bind, Except.bind, Except.map]
    cases ms with
    | nil =>
      rw [memberTokens, List.nil_append] at hunit
      simp [Tree.tokens, memberTokens, variant, hdepth, named, textAs, hname, colon, hunit,
        hvalue, bind, Except.bind, Except.map]
    | cons m ms =>
      rw [memberTokens, if_neg Bool.false_ne_true, List.singleton_append] at hunit
      simp only [List.cons_append, List.append_assoc] at hunit
      simp [Tree.tokens, memberTokens, variant, hdepth, named, textAs, hname, colon, hunit,
        hvalue, bind, Except.bind, Except.map]

theorem local_variant (known : List (String × α)) : Local (variant known) := by
  refine fun depth => localAt_of_forall fun t => ?_
  cases t with
  | word w => cases w <;> exact ⟨.error _, fun _ => rfl⟩
  | number read => exact ⟨.error _, fun _ => rfl⟩
  | text read =>
    refine ⟨read.bind (pick known), fun rest => ?_⟩
    rcases read with e | name
    · rfl
    · simp only [Tree.tokens, List.singleton_append, variant, bind, Except.bind]
      cases pick known name <;> rfl
  | list items => exact ⟨.error _, fun _ => rfl⟩
  | record ms => exact variant_record known depth ms

/-! ## Values of any kind -/

theorem value_list {depth : Nat} (h : LocalAt value depth) (items : List Tree) :
    LocalOn value (depth + 1) (.list items) := by
  rcases depth with _ | depth
  · exact ⟨.error .tooDeep, fun _ => rfl⟩
  refine ⟨(items.mapM (onTree value (depth + 1))).map .list, fun rest => ?_⟩
  have hfuel : items.length < (itemTokens true items ++ .listEnd :: rest).length + 1 := by
    have := length_le_itemTokens true items
    simp only [List.length_append, List.length_cons]
    omega
  have hlocal : LocalAt (fun _ => value (depth + 1)) (depth + 1) := h
  have hitems := items_tokens hlocal items true [] rest hfuel
  have hon : onTree (fun _ => value (depth + 1)) (depth + 1) = onTree value (depth + 1) := rfl
  rw [Tree.tokens, List.cons_append, List.append_assoc, List.singleton_append, value]
  simp only [hitems, hon, bind, Except.bind, Nat.add_one_ne_zero, if_false]
  cases items.mapM (onTree value (depth + 1)) <;> rfl

theorem value_record {depth : Nat} (h : LocalAt value depth)
    (ms : List (Except Fault String × Tree)) : LocalOn value (depth + 1) (.record ms) := by
  rcases depth with _ | depth
  · exact ⟨.error .tooDeep, fun _ => rfl⟩
  refine ⟨(takeAll (takeEntry value (depth + 1)) [] ms).map fun done => .record done.reverse,
    fun rest => ?_⟩
  have hread : value (depth + 1 + 1)
      (.recordStart :: (memberTokens true ms ++ .recordEnd :: rest)) =
      (fields (readEntry value (depth + 1))
        ((memberTokens true ms ++ .recordEnd :: rest).length + 1) true []
        (memberTokens true ms ++ .recordEnd :: rest)).map fun r =>
          (.record r.1.reverse, r.2) := rfl
  rw [Tree.tokens, List.cons_append, List.append_assoc, List.singleton_append, hread,
    entries_tokens h]
  cases takeAll (takeEntry value (depth + 1)) [] ms <;> rfl

theorem localAt_value (depth : Nat) : LocalAt value depth := by
  induction depth with
  | zero =>
    intro t rest
    cases t with
    | word w => cases w <;> rfl
    | number read => rcases read with e | n | i | x <;> rfl
    | text read => cases read <;> rfl
    | list items => rfl
    | record members => rfl
  | succ depth ih =>
    refine localAt_of_forall fun t => ?_
    cases t with
    | word w => cases w <;> exact ⟨.ok _, fun _ => rfl⟩
    | number read =>
      cases read with
      | error e => exact ⟨.error _, fun _ => rfl⟩
      | ok n => exact ⟨.ok _, fun _ => rfl⟩
    | text read =>
      cases read with
      | error e => exact ⟨.error _, fun _ => rfl⟩
      | ok n => exact ⟨.ok _, fun _ => rfl⟩
    | list items => exact value_list ih items
    | record ms => exact value_record ih ms

theorem local_value : Local value := localAt_value

/-! ## Records with known fields -/

namespace Schema

variable (schema : Schema σ α)

/-- What a schema makes of a member of a record. -/
def take (depth : Nat) (name : String) (t : Tree) (s : σ) : Except Fault σ :=
  match schema.fields.find? (·.names.contains name) with
  | none => .ok s
  | some field =>
    if field.isSet s then .error (.duplicateField field.name)
    else onTree (field.read s) depth t

/-- A schema whose fields have local decoders. -/
def LocalFields : Prop := ∀ field ∈ schema.fields, ∀ s, Local (field.read s)

variable {schema}

theorem readField_tokens (h : schema.LocalFields) (depth : Nat) (name : String) (s : σ) (t : Tree)
    (rest : List Token) :
    schema.readField depth name s (.colon :: (t.tokens ++ rest)) =
      (schema.take depth name t s).map (·, rest) := by
  rcases hfield : schema.fields.find? (·.names.contains name) with _ | field
  · rw [readField, take, hfield]
    simp only [Json.colon, bind, Except.bind, skip_tokens]
    rfl
  · rw [readField, take, hfield]
    simp only [Json.colon, bind, Except.bind]
    split
    · rfl
    · exact h field (List.mem_of_find?_eq_some hfield) s depth t rest

/-- **A record** is read member by member, one level deeper. -/
theorem onTree_decoder (h : schema.LocalFields) (depth : Nat)
    (ms : List (Except Fault String × Tree)) :
    (∀ rest, schema.decoder depth ((Tree.record ms).tokens ++ rest) =
      ((deeper depth).bind fun depth =>
        (takeAll (schema.take depth) schema.start ms).bind schema.finish).map (·, rest)) ∧
    onTree schema.decoder depth (.record ms) =
      (deeper depth).bind fun depth =>
        (takeAll (schema.take depth) schema.start ms).bind schema.finish := by
  have hall (rest : List Token) : schema.decoder depth ((Tree.record ms).tokens ++ rest) =
      ((deeper depth).bind fun depth =>
        (takeAll (schema.take depth) schema.start ms).bind schema.finish).map (·, rest) := by
    have hfuel : ms.length < (memberTokens true ms ++ .recordEnd :: rest).length + 1 := by
      have := length_le_memberTokens true ms
      simp only [List.length_append, List.length_cons]
      omega
    rw [Tree.tokens, List.cons_append, List.append_assoc, List.singleton_append, decoder]
    rcases deeper depth with e | depth
    · rfl
    · simp only [bind, Except.bind]
      rw [fields_tokens (readField_tokens h depth) ms true schema.start rest hfuel]
      rcases takeAll (schema.take depth) schema.start ms with e | s
      · rfl
      · simp only [Except.map]
  exact ⟨hall, onTree_of_forall hall⟩

/-- Fields are read by position out of the items of a list, some of which may be left. -/
theorem readItems_tokens (schema : Schema σ α) (depth : Nat) (fs : List (FieldSchema σ))
    (h : ∀ field ∈ fs, ∀ s, Local (field.read s)) (index : Nat) (s : σ) (ts : List Tree) :
    ∃ r : Except Fault (σ × Bool × List Tree), ∀ rest,
      schema.readItems depth fs index s (itemTokens (index == 0) ts ++ .listEnd :: rest) =
        r.map fun p => (p.1, itemTokens p.2.1 p.2.2 ++ .listEnd :: rest) := by
  induction fs generalizing index s ts with
  | nil => exact ⟨.ok (s, index == 0, ts), fun _ => rfl⟩
  | cons field fs ih =>
    cases ts with
    | nil =>
      rcases hlength : (field :: fs).findIdx? (·.required) with _ | i
      · refine ⟨.ok (s, true, []), fun rest => ?_⟩
        rw [itemTokens, List.nil_append, readItems, hlength]
        rfl
      · refine ⟨.error (.wrongLength (index + i) schema.expectedList), fun rest => ?_⟩
        rw [itemTokens, List.nil_append, readItems, hlength]
        rfl
    | cons t ts =>
      have hfield := h field List.mem_cons_self s depth t
      have hread (rest : List Token) : schema.readItems depth (field :: fs) index s
          (itemTokens (index == 0) (t :: ts) ++ .listEnd :: rest) =
          ((onTree (field.read s) depth t).bind fun s => schema.readItems depth fs (index + 1) s
            (itemTokens false ts ++ .listEnd :: rest)) := by
        rw [readItems, nextItem_tokens]
        simp only [bind, Except.bind]
        rw [hfield]
        cases onTree (field.read s) depth t <;> rfl
      rcases hitem : onTree (field.read s) depth t with e | s
      · refine ⟨.error e, fun rest => ?_⟩
        rw [hread, hitem]
        rfl
      · obtain ⟨r, hr⟩ := ih (fun f hf => h f (List.mem_cons_of_mem _ hf)) (index + 1) s ts
        refine ⟨r, fun rest => ?_⟩
        rw [hread, hitem]
        exact hr rest

/-- A record out of a list of its fields. -/
theorem decoder_list (h : schema.LocalFields) (depth : Nat) (ts : List Tree) :
    LocalOn schema.decoder depth (.list ts) := by
  have hread (rest : List Token) : schema.decoder depth ((Tree.list ts).tokens ++ rest) =
      (deeper depth).bind fun depth =>
        (schema.readItems depth schema.fields 0 schema.start
          (itemTokens true ts ++ .listEnd :: rest)).bind fun p =>
            (schema.finish p.1).bind fun a => (endList p.2).map (a, ·) := by
    rw [Tree.tokens, List.cons_append, List.append_assoc, List.singleton_append, decoder]
    rcases deeper depth with e | depth
    · rfl
    · simp only [bind, Except.bind]
      rcases schema.readItems depth schema.fields 0 schema.start
        (itemTokens true ts ++ .listEnd :: rest) with e | ⟨s, left⟩
      · rfl
      · dsimp only
        rcases schema.finish s with e | a
        · rfl
        · dsimp only
          cases endList left <;> rfl
  rcases hdepth : deeper depth with e | inner
  · exact ⟨.error e, fun rest => by rw [hread, hdepth]; rfl⟩
  obtain ⟨r, hr⟩ := readItems_tokens schema inner schema.fields h 0 schema.start ts
  have hend (rest : List Token) : schema.decoder depth ((Tree.list ts).tokens ++ rest) =
      (r.map fun p => (p.1, itemTokens p.2.1 p.2.2 ++ .listEnd :: rest)).bind
        fun p => (schema.finish p.1).bind fun a => (endList p.2).map (a, ·) := by
    rw [hread, hdepth, ← hr]
    rfl
  rcases r with e | ⟨s, first, left⟩
  · exact ⟨.error e, fun rest => by rw [hend]; rfl⟩
  rcases hfinish : schema.finish s with e | a
  · refine ⟨.error e, fun rest => ?_⟩
    simp only [hend, Except.map, Except.bind, hfinish]
  cases left with
  | nil =>
    refine ⟨.ok a, fun rest => ?_⟩
    simp only [hend, Except.map, Except.bind, hfinish]
    rfl
  | cons t left =>
    refine ⟨.error .trailingCharacters, fun rest => ?_⟩
    simp only [hend, Except.map, Except.bind, hfinish, endList_tokens]

theorem local_decoder (h : schema.LocalFields) : Local schema.decoder := by
  refine fun depth => localAt_of_forall fun t => ?_
  cases t with
  | word w => cases w <;> exact ⟨.error _, fun _ => rfl⟩
  | number read => rcases read with e | n | i | x <;> exact ⟨.error _, fun _ => rfl⟩
  | text read => cases read <;> exact ⟨.error _, fun _ => rfl⟩
  | record ms => exact ⟨_, fun rest => (onTree_decoder h depth ms).1 rest⟩
  | list ts => exact decoder_list h depth ts

end Schema

end RuleScan.Json
