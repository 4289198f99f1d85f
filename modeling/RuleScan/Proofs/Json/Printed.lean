import RuleScan.Channel
import RuleScan.Proofs.Json.Written

/-!
# Printed values

The compact text of a value is a written value (`Value.exists_written`), in which strings and whole
numbers are read as what they were. So a decoder makes of the text what it makes of the tree of the
value (`decodeText_compact`).
-/

namespace RuleScan.Json

/-! ## Digits -/

theorem isDigit_of_mem_natDigits {c : Char} {n : Nat} (h : c ∈ Decimal.natDigits n) :
    isDigit c := by
  have hc := Nat.isDigit_of_mem_toDigits (by decide) (by decide) h
  simpa [isDigit, Char.isDigit, Char.le_def] using hc

theorem natDigits_ne_nil (n : Nat) : Decimal.natDigits n ≠ [] := Nat.toDigits_ne_nil

/-- Only zero is written with a zero in front. -/
theorem natDigits_zero {n : Nat} {rest : List Char} (h : Decimal.natDigits n = '0' :: rest) :
    n = 0 ∧ rest = [] := by
  induction n using Nat.strong_induction_on generalizing rest with
  | _ n ih =>
    rcases Nat.lt_or_ge n 10 with hn | hn
    · rw [Decimal.natDigits, Nat.toDigits_of_lt_base hn] at h
      obtain ⟨hzero, hrest⟩ := List.cons.inj h
      exact ⟨Nat.digitChar_eq_zero.1 hzero, hrest.symm⟩
    · rw [Decimal.natDigits, Nat.toDigits_of_base_le (by decide) hn] at h
      rcases hhigh : Nat.toDigits 10 (n / 10) with _ | ⟨c, more⟩
      · exact absurd hhigh Nat.toDigits_ne_nil
      · rw [hhigh, List.cons_append] at h
        obtain ⟨rfl, -⟩ := List.cons.inj h
        have := (ih (n / 10) (by omega) hhigh).1
        omega

/-- Digits that do not exceed sixty-four bits are all taken. -/
theorem takeDigits_all (ds : List Char) (h : ∀ c ∈ ds, isDigit c) (acc count : Nat)
    (hmax : Nat.ofDigitChars 10 ds acc ≤ maxNatural) :
    takeDigits acc count ds = (Nat.ofDigitChars 10 ds acc, count + ds.length, []) := by
  induction ds generalizing acc count with
  | nil => simp [takeDigits]
  | cons c ds ih =>
    rw [Nat.ofDigitChars_cons] at hmax ⊢
    have hvalue : 10 * acc + (c.toNat - '0'.toNat) = acc * 10 + digitValue c := by
      rw [Nat.mul_comm]
      rfl
    rw [hvalue] at hmax ⊢
    have hfits : acc * 10 + digitValue c ≤ maxNatural := by
      refine Nat.le_trans ?_ hmax
      rw [Nat.ofDigitChars_eq_ofDigitChars_zero]
      have : 0 < 10 ^ ds.length := by positivity
      nlinarith
    rw [takeDigits, if_pos (by simp [h c List.mem_cons_self, hfits]),
      ih (fun x hx => h x (List.mem_cons_of_mem _ hx)) _ (count + 1) hmax, List.length_cons]
    congr 2
    omega

/-- The digits of a natural number. -/
def Digits.ofNat (n : Nat) : Digits where
  first := (Decimal.natDigits n).head (natDigits_ne_nil n)
  more := (Decimal.natDigits n).tail
  digits c hc := by
    rw [List.cons_head_tail] at hc
    exact isDigit_of_mem_natDigits hc

theorem Digits.chars_ofNat (n : Nat) : (Digits.ofNat n).chars = Decimal.natDigits n :=
  List.cons_head_tail _

/-- The numeral of a whole number. -/
def Numeral.ofNat (negative : Bool) (n : Nat) : Numeral where
  negative := negative
  whole := .ofNat n
  plainZero h := by
    have hdigits := Digits.chars_ofNat n
    rw [Digits.chars, h] at hdigits
    exact (natDigits_zero hdigits.symm).2

theorem Numeral.body_ofNat (negative : Bool) (n : Nat) :
    (Numeral.ofNat negative n).body = Decimal.natDigits n := by
  rw [body, ofNat, Digits.chars_ofNat]
  exact List.append_nil _

/-- **Reading digits** back. -/
theorem readNumber_natDigits (positive : Bool) {n : Nat} (h : n < 2 ^ 64) :
    readNumber positive (Decimal.natDigits n) = .ok (wholeNumber positive n) := by
  have hvalue : Nat.ofDigitChars 10 (Decimal.natDigits n) 0 = n := Nat.ofDigitChars_ten_toDigits
  have htake := takeDigits_all (Decimal.natDigits n) (fun c hc => isDigit_of_mem_natDigits hc) 0 0
    (by rw [hvalue, maxNatural]; simp; omega)
  rw [hvalue] at htake
  rcases hdigits : Decimal.natDigits n with _ | ⟨c, rest⟩
  · exact absurd hdigits (natDigits_ne_nil n)
  by_cases hzero : c = '0'
  · subst hzero
    obtain ⟨rfl, rfl⟩ := natDigits_zero hdigits
    rfl
  · have hc : isDigit c := isDigit_of_mem_natDigits (hdigits ▸ List.mem_cons_self)
    rw [hdigits] at htake
    simp [readNumber, hc, htake, finishNumber]

/-! ## Strings -/

theorem hexDigit?_hexDigit : ∀ k < 16, hexDigit? (hexDigit k) = some k := by decide

/-- A control character that has no escape of one letter. -/
theorem lexHex_control {n : Nat} (h : n < 32) (rest : List Char) :
    lexHex ('0' :: '0' :: hexDigit (n / 16) :: hexDigit (n % 16) :: rest) = .ok (n, rest) := by
  have hhigh := hexDigit?_hexDigit (n / 16) (by omega)
  have hlow := hexDigit?_hexDigit (n % 16) (by omega)
  have hzero : hexDigit? '0' = some 0 := by decide
  simp only [lexHex, hhigh, hlow, hzero]
  congr 2
  omega

/-- How a character is written in a string. -/
theorem exists_piece (c : Char) : ∃ p : Piece, p.chars = escapeChar c := by
  unfold escapeChar
  split
  next => exact ⟨.short '"' rfl, rfl⟩
  split
  next => exact ⟨.short '\\' rfl, rfl⟩
  split
  next => exact ⟨.short 'n' rfl, rfl⟩
  split
  next => exact ⟨.short 'r' rfl, rfl⟩
  split
  next => exact ⟨.short 't' rfl, rfl⟩
  split
  next => exact ⟨.short 'b' rfl, rfl⟩
  split
  next => exact ⟨.short 'f' rfl, rfl⟩
  split
  next hcontrol =>
    have hhigh := hexDigit?_hexDigit (c.toNat / 16) (by omega)
    have hlow := hexDigit?_hexDigit (c.toNat % 16) (by omega)
    refine ⟨.code '0' '0' (hexDigit (c.toNat / 16)) (hexDigit (c.toNat % 16)) ?_, rfl⟩
    simp [hhigh, hlow]
    decide
  next hquote hback _ _ _ _ _ hcontrol => exact ⟨.plain c ⟨hquote, hback, by omega⟩, rfl⟩

theorem exists_pieces (s : List Char) : ∃ ps : List Piece, ps.length = s.length ∧
    ps.flatMap Piece.chars = s.flatMap escapeChar := by
  induction s with
  | nil => exact ⟨[], rfl, rfl⟩
  | cons c s ih =>
    obtain ⟨p, hp⟩ := exists_piece c
    obtain ⟨ps, hlength, hps⟩ := ih
    exact ⟨p :: ps, by simp [hlength], by simp [hp, hps]⟩

/-- **An escaped character** is read back. -/
theorem readText_escapeChar (c : Char) (fuel : Nat) (done rest : List Char) :
    readText (fuel + 1) done (escapeChar c ++ rest) = readText fuel (c :: done) rest := by
  unfold escapeChar
  split
  next h => subst h; simp [readText, lexEscape, simpleEscape?, bind, Except.bind]
  split
  next h => subst h; simp [readText, lexEscape, simpleEscape?, bind, Except.bind]
  split
  next h => subst h; simp [readText, lexEscape, simpleEscape?, bind, Except.bind]
  split
  next h => subst h; simp [readText, lexEscape, simpleEscape?, bind, Except.bind]
  split
  next h => subst h; simp [readText, lexEscape, simpleEscape?, bind, Except.bind]
  split
  next h => subst h; simp [readText, lexEscape, simpleEscape?, bind, Except.bind]
  split
  next h => subst h; simp [readText, lexEscape, simpleEscape?, bind, Except.bind]
  split
  next hcontrol =>
    have hhex := lexHex_control hcontrol rest
    have htrail : ¬ (0xDC00 ≤ c.toNat && c.toNat ≤ 0xDFFF) := by simp; omega
    have hlead : ¬ (0xD800 ≤ c.toNat && c.toNat ≤ 0xDBFF) := by simp; omega
    simp only [List.cons_append, List.nil_append, readText, lexEscape, hhex, bind, Except.bind,
      htrail, hlead, Char.ofNat_toNat]
    rfl
  next hquote hback _ _ _ _ _ hcontrol => simp [readText, hquote, hback, hcontrol]

theorem readText_escaped (s : List Char) {fuel : Nat} (done rest : List Char)
    (h : s.length < fuel) :
    readText fuel done (s.flatMap escapeChar ++ '"' :: rest) = .ok (done.reverse ++ s) := by
  induction s generalizing fuel done with
  | nil =>
    obtain ⟨fuel, rfl⟩ : ∃ k, fuel = k + 1 := ⟨fuel - 1, by simp at h; omega⟩
    simp [readText]
  | cons c s ih =>
    obtain ⟨fuel, rfl⟩ : ∃ k, fuel = k + 1 := ⟨fuel - 1, by simp at h; omega⟩
    rw [List.flatMap_cons, List.append_assoc, readText_escapeChar, ih _ (by simpa using h)]
    simp

/-- **A quoted string** is read back. -/
theorem exists_quoted (s : String) :
    ∃ ps, pieceChars ps = quoteChars s ∧ readPieces ps = .ok s := by
  obtain ⟨ps, hlength, hps⟩ := exists_pieces s.toList
  refine ⟨ps, by rw [pieceChars, quoteChars, hps], ?_⟩
  rw [readPieces, hps, readText_escaped s.toList [] [] (by omega)]
  simp [Except.map]

/-! ## Values -/

mutual

/-- The tree of a value, whose strings and numbers are read as what they are. -/
def Value.tree : Value → Tree
  | .null => .word .null
  | .bool b => .word (if b then .yes else .no)
  | .number n => .number (.ok n)
  | .text s => .text (.ok s)
  | .list items => .list (valueTrees items)
  | .record fields => .record (fieldTrees fields)

/-- The trees of the items of a list. -/
def valueTrees : List Value → List Tree
  | [] => []
  | v :: rest => v.tree :: valueTrees rest

/-- The trees of the fields of a record. -/
def fieldTrees : List (String × Value) → List (Except Fault String × Tree)
  | [] => []
  | (name, v) :: rest => (.ok name, v.tree) :: fieldTrees rest

end

/-- A number that is whole and has sixty-four bits. -/
def Number.IsWhole : Number → Prop
  | .natural n => n < 2 ^ 64
  | .negative i => -2 ^ 63 ≤ i ∧ i < 0
  | .real _ => False

mutual

/-- A value whose numbers are all whole. -/
def Value.IsWhole : Value → Prop
  | .number n => n.IsWhole
  | .list items => AllWhole items
  | .record fields => FieldsWhole fields
  | _ => True

/-- Items whose numbers are all whole. -/
def AllWhole : List Value → Prop
  | [] => True
  | v :: rest => v.IsWhole ∧ AllWhole rest

/-- Fields whose numbers are all whole. -/
def FieldsWhole : List (String × Value) → Prop
  | [] => True
  | (_, v) :: rest => v.IsWhole ∧ FieldsWhole rest

end

theorem whole_ofNat {n : Nat} (h : n < 2 ^ 64) : (Value.ofNat n).IsWhole := h

/-- **A whole number** is read back. -/
theorem Number.exists_numeral {n : Number} (h : n.IsWhole) :
    ∃ m : Numeral, m.chars = n.write.toList ∧ m.read = .ok n := by
  cases n with
  | natural n =>
    refine ⟨.ofNat false n, ?_, ?_⟩
    · rw [Numeral.chars, Numeral.body_ofNat, write, String.toList_ofList]
      rfl
    · rw [Numeral.read, Numeral.body_ofNat]
      exact readNumber_natDigits true h
  | negative i =>
    obtain ⟨hlow, hneg⟩ := h
    refine ⟨.ofNat true i.natAbs, ?_, ?_⟩
    · rw [Numeral.chars, Numeral.body_ofNat, write, String.toList_append,
        String.toList_ofList (l := Decimal.natDigits i.natAbs)]
      rfl
    · have hfits : i.natAbs < 2 ^ 64 := by omega
      rw [Numeral.read, Numeral.body_ofNat]
      refine (readNumber_natDigits false hfits).trans ?_
      have hbound : i.natAbs ≤ Nat.pow 2 63 := by
        rw [show Nat.pow 2 63 = 2 ^ 63 from rfl]
        omega
      rw [wholeNumber, if_neg Bool.false_ne_true, if_neg (by omega), if_pos hbound]
      congr 2
      omega
  | real x => exact h.elim

mutual

/-- **The compact text** of a value is a written value with the same tree. -/
theorem Value.exists_written (v : Value) (h : v.IsWhole) :
    ∃ w : Written, w.chars = v.compact.toList ∧ w.tree = v.tree := by
  cases v with
  | null => exact ⟨.word .null, rfl, rfl⟩
  | bool b => cases b <;> [exact ⟨.word .no, rfl, rfl⟩; exact ⟨.word .yes, rfl, rfl⟩]
  | number n =>
    obtain ⟨m, hchars, hread⟩ := n.exists_numeral h
    exact ⟨.number m, hchars, by rw [Written.tree, Value.tree, hread]⟩
  | text s =>
    obtain ⟨ps, hchars, hread⟩ := exists_quoted s
    refine ⟨.text ps, ?_, by rw [Written.tree, Value.tree, hread]⟩
    rw [Written.chars, Value.compact, quote, String.toList_ofList, hchars]
  | list items =>
    obtain ⟨ws, hchars, htrees⟩ := exists_items items h true
    refine ⟨.list ws {}, ?_, by rw [Written.tree, Value.tree, htrees]⟩
    rw [Written.chars, Value.compact, String.toList_append, String.toList_append, hchars]
    rfl
  | record fields =>
    obtain ⟨ms, hchars, htrees⟩ := exists_members fields h true
    refine ⟨.record ms {}, ?_, by rw [Written.tree, Value.tree, htrees]⟩
    rw [Written.chars, Value.compact, String.toList_append, String.toList_append, hchars]
    rfl

theorem exists_items (items : List Value) (h : AllWhole items) (first : Bool) :
    ∃ ws, itemChars first ws = (compactItems first items).toList ∧
      itemTrees ws = valueTrees items := by
  cases items with
  | nil => exact ⟨[], rfl, rfl⟩
  | cons v rest =>
    obtain ⟨w, hw, htree⟩ := v.exists_written h.1
    obtain ⟨ws, hws, htrees⟩ := exists_items rest h.2 false
    refine ⟨w :: ws, ?_, by rw [itemTrees, valueTrees, htree, htrees]⟩
    rw [itemChars, compactItems, String.toList_append, String.toList_append, hw, hws,
      List.append_assoc]
    cases first <;> rfl

theorem exists_members (fields : List (String × Value)) (h : FieldsWhole fields) (first : Bool) :
    ∃ ms, memberChars first ms = (compactFields first fields).toList ∧
      memberTrees ms = fieldTrees fields := by
  cases fields with
  | nil => exact ⟨[], rfl, rfl⟩
  | cons f rest =>
    obtain ⟨name, v⟩ := f
    obtain ⟨ps, hps, hread⟩ := exists_quoted name
    obtain ⟨w, hw, htree⟩ := v.exists_written h.1
    obtain ⟨ms, hms, htrees⟩ := exists_members rest h.2 false
    refine ⟨({ pieces := ps }, w) :: ms, ?_, by
      rw [memberTrees, fieldTrees, htree, htrees, hread]⟩
    simp only [memberChars, compactFields, String.toList_append, hw, hms, hps, quote,
      String.toList_ofList, List.append_assoc]
    cases first <;> rfl

end

/-- **The tokens** of a printed value are those of its tree. -/
theorem lex_compact {v : Value} (h : v.IsWhole) : lex v.compact = v.tree.tokens := by
  obtain ⟨w, hchars, htree⟩ := v.exists_written h
  rw [← htree, ← w.lex_asText, Written.asText, hchars, String.ofList_toList]

/-! ## Reading values -/

variable {α β σ : Type}

/-- A decoder reads something out of a value wherever enough levels may still be opened. -/
def Reads (d : Decoder α) (levels : Nat) (v : Value) (a : α) : Prop :=
  ∀ depth, levels < depth → onTree d depth v.tree = .ok a

/-- **A printed value** is decoded as what is read out of it. -/
theorem decodeText_compact {d : Decoder α} (hd : Local d) {levels : Nat} {v : Value} {a : α}
    (h : Reads d levels v a) (hlevels : levels < maxDepth) (hv : v.IsWhole) :
    decodeText d v.compact = .ok a := by
  rw [decodeText_of_lex hd (lex_compact hv), h maxDepth hlevels]

theorem reads_textAs (expected s : String) : Reads (textAs expected) 0 (.text s) s :=
  fun _ _ => rfl

theorem reads_text (s : String) : Reads text 0 (.text s) s := reads_textAs _ s

theorem reads_bool (b : Bool) : Reads bool 0 (.bool b) b := by
  intro depth _
  cases b <;> rfl

theorem reads_natural {bits n : Nat} (expected : String) (h : n < 2 ^ bits) :
    Reads (natural bits expected) 0 (.ofNat n) n := by
  intro depth _
  have hread (rest : List Token) :
      natural bits expected depth ((Value.ofNat n).tree.tokens ++ rest) =
        (Except.ok n).map (·, rest) := if_pos h
  exact onTree_of_forall hread

theorem local_word32 : Local word32 := (local_natural 32 "u32").after Nat.toUInt32

theorem local_word64 : Local word64 := (local_natural 64 "u64").after Nat.toUInt64

theorem reads_word32 (n : UInt32) : Reads word32 0 (.ofNat n.toNat) n := by
  intro depth hdepth
  have hread := reads_natural "u32" n.toNat_lt depth hdepth
  have hword : n.toNat.toUInt32 = n := by simp
  refine (onTree_after Nat.toUInt32 depth _).trans ?_
  rw [hread, Except.map, hword]

theorem reads_word64 (n : UInt64) : Reads word64 0 (.ofNat n.toNat) n := by
  intro depth hdepth
  have hread := reads_natural "u64" n.toNat_lt depth hdepth
  have hword : n.toNat.toUInt64 = n := by simp
  refine (onTree_after Nat.toUInt64 depth _).trans ?_
  rw [hread, Except.map, hword]

theorem deeper_of_lt {levels depth : Nat} (h : levels + 1 < depth) :
    ∃ inner, deeper depth = .ok inner ∧ levels < inner :=
  ⟨depth - 1, if_neg (by omega), by omega⟩

/-- **A list** of values out of each of which something is read. -/
theorem reads_list {item : Decoder α} (hitem : Local item) {levels : Nat} {vs : List Value}
    {as : List α} (h : List.Forall₂ (Reads item levels) vs as) :
    Reads (list item) (levels + 1) (.list vs) as := by
  intro depth hdepth
  obtain ⟨inner, hinner, hlevels⟩ := deeper_of_lt hdepth
  have hitems : (valueTrees vs).mapM (onTree item inner) = .ok as := by
    clear hdepth
    induction h with
    | nil => rfl
    | cons hv _ ih => rw [valueTrees, List.mapM_cons, hv inner hlevels, ih]; rfl
  rw [Value.tree, (onTree_list hitem depth _).2, hinner]
  exact hitems

/-- **A list** of documents. -/
theorem reads_documents {item : Decoder α} (hitem : Local item) {levels : Nat}
    {Documents : α → Value → Prop} {as : List α} {vs : List Value}
    (h : List.Forall₂ Documents as vs)
    (hreads : ∀ a ∈ as, ∀ v, Documents a v → Reads item levels v a) :
    Reads (list item) (levels + 1) (.list vs) as := by
  refine reads_list hitem ?_
  induction h with
  | nil => exact .nil
  | cons hv _ ih =>
    exact .cons (hreads _ List.mem_cons_self _ hv)
      (ih fun a ha => hreads a (List.mem_cons_of_mem _ ha))

theorem allWhole_documents {Documents : α → Value → Prop} {as : List α} {vs : List Value}
    (h : List.Forall₂ Documents as vs) (hwhole : ∀ a ∈ as, ∀ v, Documents a v → v.IsWhole) :
    AllWhole vs := by
  induction h with
  | nil => exact trivial
  | cons hv _ ih =>
    exact ⟨hwhole _ List.mem_cons_self _ hv, ih fun a ha => hwhole a (List.mem_cons_of_mem _ ha)⟩

theorem takeEntry_texts (depth : Nat) (l done : List (String × String)) :
    takeAll (takeEntry text depth) done (fieldTrees (l.map fun e => (e.1, .text e.2))) =
      .ok (l.reverse ++ done) := by
  induction l generalizing done with
  | nil => rfl
  | cons e rest ih =>
    rw [List.map_cons, fieldTrees, takeAll_cons]
    exact (ih (e :: done)).trans (by simp)

/-- **A map** of strings. -/
theorem reads_map (l : List (String × String)) :
    Reads (map text) 1 (.record (l.map fun e => (e.1, .text e.2))) l := by
  intro depth hdepth
  obtain ⟨inner, hinner, -⟩ := deeper_of_lt hdepth
  rw [Value.tree, (onTree_map local_text depth _).2, hinner]
  simp only [Except.bind, takeEntry_texts, Except.map, List.append_nil, List.reverse_reverse]

/-- The state of a schema after some fields. -/
def Schema.Takes (schema : Schema σ α) (depth : Nat) (s : σ) (fields : List (String × Value))
    (s' : σ) : Prop :=
  takeAll (schema.take depth) s (fieldTrees fields) = .ok s'

namespace Schema

variable {schema : Schema σ α} {depth levels : Nat}

theorem Takes.nil (s : σ) : schema.Takes depth s [] s := rfl

/-- A field that is not yet set. -/
theorem Takes.cons {item : Decoder β} {name field : String} {required : Bool} {get : σ → Option β}
    {set : σ → β → σ} {s s' : σ} {v : Value} {b : β} {rest : List (String × Value)}
    (hfind : schema.fields.find? (·.names.contains name) = some (.of field required get set item))
    (hnew : get s = none) (hread : onTree item depth v.tree = .ok b)
    (hrest : schema.Takes depth (set s b) rest s') :
    schema.Takes depth s ((name, v) :: rest) s' := by
  have htake : schema.take depth name v.tree s = .ok (set s b) := by
    have hfree : (FieldSchema.of field required get set item).isSet s = false := by
      simp [FieldSchema.of, hnew]
    rw [take, hfind]
    dsimp only
    rw [hfree, if_neg Bool.false_ne_true, FieldSchema.onTree_of, hread]
    rfl
  rw [Takes, fieldTrees, takeAll_cons]
  simp only [Except.bind, htake]
  exact hrest

/-- **A record** whose fields make what is read out of it. -/
theorem reads_record (hlocal : schema.LocalFields) {fields : List (String × Value)} {a : α}
    (h : ∀ depth, levels < depth → ∃ s, schema.Takes depth schema.start fields s ∧
      schema.finish s = .ok a) : Reads schema.decoder (levels + 1) (.record fields) a := by
  intro depth hdepth
  obtain ⟨inner, hinner, hlevels⟩ := deeper_of_lt hdepth
  obtain ⟨s, htakes, hfinish⟩ := h inner hlevels
  rw [Value.tree, (onTree_decoder hlocal depth _).2, hinner]
  rw [Takes] at htakes
  simp only [Except.bind, htakes, hfinish]

end Schema

end RuleScan.Json
