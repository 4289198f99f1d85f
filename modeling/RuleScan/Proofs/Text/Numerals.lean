import Mathlib.Data.List.Induction
import Mathlib.Data.Nat.Digits.Defs
import RuleScan.Text.Numeral

/-!
# The grammar of numerals

Which texts are whole numbers (`IsWhole`) and which are real ones (`IsReal`), as a grammar of signs,
digits, points and exponents. Reading agrees with the grammar: a whole number is read just where the
text is one, and as the number that its digits spell in base ten (`integer?_eq_some_iff`); a real
number is read just where the text is one (`real?_isSome_iff`).
-/

namespace RuleScan.Text

/-! ## The grammar -/

/-- One or more digits. -/
def IsDigits (cs : List Char) : Prop := cs ≠ [] ∧ ∀ c ∈ cs, isDigit c

/-- The number that digits spell in base ten. -/
def decimalValue (cs : List Char) : Nat :=
  Nat.ofDigits 10 (cs.reverse.map fun c => c.toNat - '0'.toNat)

/-- A sign that may be missing, and whether it is a minus. -/
inductive IsSign : List Char → Bool → Prop
  | none : IsSign [] false
  | plus : IsSign ['+'] false
  | minus : IsSign ['-'] true

/-- A number with a sign. -/
def signed (negative : Bool) (n : Nat) : Int := if negative then -n else n

/-- The text of a whole number: digits after a sign that may be missing. -/
def IsWhole (cs : List Char) (i : Int) : Prop :=
  ∃ sign negative ds, cs = sign ++ ds ∧ IsSign sign negative ∧ IsDigits ds ∧
    i = signed negative (decimalValue ds)

/-- Digits with a point or without, at least one digit before or after it. -/
inductive IsMantissa : List Char → Prop
  | plain {ds : List Char} (h : IsDigits ds) : IsMantissa ds
  | pointed {before after : List Char} (hbefore : ∀ c ∈ before, isDigit c)
      (hafter : ∀ c ∈ after, isDigit c) (h : before ≠ [] ∨ after ≠ []) :
      IsMantissa (before ++ '.' :: after)

/-- An exponent that may be missing: the letter `e` in either case, and a whole number. -/
inductive IsExponent : List Char → Prop
  | none : IsExponent []
  | some {letter : Char} {sign ds : List Char} {negative : Bool}
      (hletter : letter = 'e' ∨ letter = 'E') (hsign : IsSign sign negative) (hds : IsDigits ds) :
      IsExponent (letter :: (sign ++ ds))

/-- A real number without its sign: one of three words in any case, or a decimal number. -/
inductive IsMagnitude : List Char → Prop
  | word {cs : List Char}
      (h : String.ofList (cs.map Char.toLower) ∈ ["inf", "infinity", "nan"]) : IsMagnitude cs
  | decimal {mantissa exponent : List Char} (hmantissa : IsMantissa mantissa)
      (hexponent : IsExponent exponent) : IsMagnitude (mantissa ++ exponent)

/-- The text of a real number. -/
def IsReal (cs : List Char) : Prop :=
  ∃ sign negative rest, cs = sign ++ rest ∧ IsSign sign negative ∧ IsMagnitude rest

theorem IsWhole.isReal {cs : List Char} {i : Int} (h : IsWhole cs i) : IsReal cs := by
  obtain ⟨sign, negative, ds, rfl, hsign, hds, -⟩ := h
  refine ⟨sign, negative, ds, rfl, hsign, ?_⟩
  have hplain := IsMagnitude.decimal (.plain hds) .none
  rwa [List.append_nil] at hplain

/-! ## Digits -/

theorem isDigits_iff {cs : List Char} : (cs.isEmpty || !cs.all isDigit) = false ↔ IsDigits cs := by
  simp [IsDigits]

theorem decimalValue_concat (cs : List Char) (c : Char) :
    decimalValue (cs ++ [c]) = 10 * decimalValue cs + (c.toNat - '0'.toNat) := by
  rw [decimalValue, List.reverse_append, List.reverse_singleton, List.singleton_append,
    List.map_cons, Nat.ofDigits_cons, decimalValue, Nat.add_comm]

theorem digitsValue_eq (cs : List Char) : digitsValue cs = decimalValue cs := by
  induction cs using List.reverseRecOn with
  | nil => rfl
  | append_singleton cs c ih =>
    rw [decimalValue_concat, ← ih, digitsValue, List.foldl_append, digitsValue]
    rfl

/-- Digits are taken up to the first character that is none. -/
theorem takeWhile_digits {ds rest : List Char} (hds : ∀ c ∈ ds, isDigit c)
    (hrest : ∀ c ∈ rest.head?, isDigit c = false) :
    (ds ++ rest).takeWhile isDigit = ds ∧ (ds ++ rest).dropWhile isDigit = rest := by
  rw [List.takeWhile_append_of_pos hds, List.dropWhile_append_of_pos hds]
  cases rest with
  | nil => exact ⟨List.append_nil ds, rfl⟩
  | cons c rest =>
    have hc : ¬ isDigit c = true := by simp [hrest c rfl]
    rw [List.takeWhile_cons_of_neg hc, List.dropWhile_cons_of_neg hc]
    exact ⟨List.append_nil ds, rfl⟩

theorem isDigit_of_taken {cs : List Char} : ∀ c ∈ cs.takeWhile isDigit, isDigit c :=
  List.all_eq_true.1 List.all_takeWhile

/-! ## Signs -/

theorem isSign_splitSign (cs : List Char) :
    ∃ sign, cs = sign ++ (splitSign cs).2 ∧ IsSign sign (splitSign cs).1 := by
  unfold splitSign
  split
  · exact ⟨['-'], rfl, .minus⟩
  · exact ⟨['+'], rfl, .plus⟩
  · exact ⟨[], rfl, .none⟩

/-- A sign is split off what does not start with another one. -/
theorem splitSign_append {sign rest : List Char} {negative : Bool} (hsign : IsSign sign negative)
    (hrest : ∀ c ∈ rest.head?, c ≠ '+' ∧ c ≠ '-') :
    splitSign (sign ++ rest) = (negative, rest) := by
  cases hsign with
  | none =>
    rw [List.nil_append]
    unfold splitSign
    split
    · exact absurd rfl (hrest '-' rfl).2
    · exact absurd rfl (hrest '+' rfl).1
    · rfl
  | plus => rfl
  | minus => rfl

theorem IsDigits.head {ds : List Char} (h : IsDigits ds) : ∀ c ∈ ds.head?, c ≠ '+' ∧ c ≠ '-' := by
  intro c hc
  have hdigit := h.2 c (List.mem_of_mem_head? hc)
  constructor <;> rintro rfl <;> revert hdigit <;> decide

/-! ## Whole numbers -/

theorem integer?_eq_some_iff {s : String} {i : Int} :
    integer? s = some i ↔ IsWhole s.toList i := by
  have hread : integer? s = if (splitSign s.toList).2.isEmpty ||
      !(splitSign s.toList).2.all isDigit then none
      else some (signed (splitSign s.toList).1 (decimalValue (splitSign s.toList).2)) := by
    rw [integer?, ← digitsValue_eq]
    rcases splitSign s.toList with ⟨negative, ds⟩
    cases negative with
    | false => rfl
    | true => rfl
  rw [hread]
  constructor
  · intro h
    split at h
    · cases h
    · next hdigits =>
      obtain ⟨sign, hsplit, hsign⟩ := isSign_splitSign s.toList
      exact ⟨sign, _, _, hsplit, hsign, isDigits_iff.1 (Bool.eq_false_of_not_eq_true hdigits),
        (Option.some.inj h).symm⟩
  · rintro ⟨sign, negative, ds, hs, hsign, hds, rfl⟩
    rw [hs, splitSign_append hsign hds.head, if_neg (by simp [isDigits_iff.2 hds])]

/-! ## Real numbers -/

theorem exponent?_cons_isSome (letter : Char) (rest : List Char) :
    (exponent? (letter :: rest)).isSome ↔
      (letter = 'e' ∨ letter = 'E') ∧ IsDigits (splitSign rest).2 := by
  have hread : exponent? (letter :: rest) = if letter = 'e' || letter = 'E' then
      if (splitSign rest).2.isEmpty || !(splitSign rest).2.all isDigit then none
      else some (signed (splitSign rest).1 (digitsValue (splitSign rest).2)) else none := rfl
  rw [hread, ← isDigits_iff]
  by_cases hletter : letter = 'e' ∨ letter = 'E'
  · by_cases hds : (splitSign rest).2.isEmpty || !(splitSign rest).2.all isDigit
    · simp [hletter, hds]
    · simp [hletter, hds]
  · simp [hletter]

theorem exponent?_isSome_iff {cs : List Char} : (exponent? cs).isSome ↔ IsExponent cs := by
  cases cs with
  | nil => exact ⟨fun _ => .none, fun _ => rfl⟩
  | cons letter rest =>
    rw [exponent?_cons_isSome]
    constructor
    · rintro ⟨hletter, hds⟩
      obtain ⟨sign, hsplit, hsign⟩ := isSign_splitSign rest
      rw [hsplit]
      exact .some hletter hsign hds
    · intro h
      cases h with
      | some hletter hsign hds =>
        rw [splitSign_append hsign hds.head]
        exact ⟨hletter, hds⟩

/-- An exponent starts with neither a digit nor a point. -/
theorem IsExponent.head {cs : List Char} (h : IsExponent cs) :
    ∀ c ∈ cs.head?, isDigit c = false ∧ c ≠ '.' := by
  rintro c hc
  cases h with
  | none => cases hc
  | some hletter =>
    obtain rfl := Option.some.inj hc
    rcases hletter with rfl | rfl <;> decide

/-- The digits behind a point, if there is one, and what follows. -/
def splitFraction : List Char → List Char × List Char
  | '.' :: rest => (rest.takeWhile isDigit, rest.dropWhile isDigit)
  | rest => ([], rest)

theorem splitFraction_of_head {cs : List Char} (h : ∀ c ∈ cs.head?, c ≠ '.') :
    splitFraction cs = ([], cs) := by
  unfold splitFraction
  split
  · exact absurd rfl (h '.' rfl)
  · rfl

theorem splitFraction_cases (cs : List Char) :
    (∃ after rest, cs = '.' :: (after ++ rest) ∧ (∀ c ∈ after, isDigit c) ∧
      splitFraction cs = (after, rest)) ∨ splitFraction cs = ([], cs) := by
  unfold splitFraction
  split
  next rest =>
    refine .inl ⟨rest.takeWhile isDigit, rest.dropWhile isDigit, ?_, isDigit_of_taken, rfl⟩
    rw [List.takeWhile_append_dropWhile]
  next => exact .inr rfl

theorem scientific?_isSome (cs : List Char) :
    (scientific? cs).isSome ↔
      (cs.takeWhile isDigit ≠ [] ∨ (splitFraction (cs.dropWhile isDigit)).1 ≠ []) ∧
        IsExponent (splitFraction (cs.dropWhile isDigit)).2 := by
  have hread : scientific? cs = if (cs.takeWhile isDigit).isEmpty &&
      (splitFraction (cs.dropWhile isDigit)).1.isEmpty then none
      else (exponent? (splitFraction (cs.dropWhile isDigit)).2).map fun expo =>
        { whole := cs.takeWhile isDigit, fraction := (splitFraction (cs.dropWhile isDigit)).1
          expo } := rfl
  rw [hread, ← exponent?_isSome_iff]
  by_cases hnone : cs.takeWhile isDigit = [] ∧ (splitFraction (cs.dropWhile isDigit)).1 = []
  · simp [hnone]
  · rw [if_neg (by simpa using hnone), Option.isSome_map]
    simp only [ne_eq, ← not_and_or, hnone, not_false_eq_true, true_and]

theorem scientific?_isSome_iff {cs : List Char} :
    (scientific? cs).isSome ↔
      ∃ mantissa exponent, cs = mantissa ++ exponent ∧ IsMantissa mantissa ∧
        IsExponent exponent := by
  rw [scientific?_isSome]
  constructor
  · rintro ⟨hsome, hexponent⟩
    have hcs := List.takeWhile_append_dropWhile (p := isDigit) (l := cs)
    rcases splitFraction_cases (cs.dropWhile isDigit) with
      ⟨after, rest, hdrop, hafter, hsplit⟩ | hsplit
    · rw [hsplit] at hsome hexponent
      refine ⟨_, rest, ?_, .pointed isDigit_of_taken hafter hsome, hexponent⟩
      rw [List.append_assoc, List.cons_append, ← hdrop, hcs]
    · rw [hsplit] at hsome hexponent
      have hne : cs.takeWhile isDigit ≠ [] := hsome.resolve_right fun h => h rfl
      exact ⟨_, _, hcs.symm, .plain ⟨hne, isDigit_of_taken⟩, hexponent⟩
  · rintro ⟨mantissa, exponent, rfl, hmantissa, hexponent⟩
    have hhead := hexponent.head
    cases hmantissa with
    | plain hds =>
      have htake := takeWhile_digits hds.2 fun c hc => (hhead c hc).1
      rw [htake.1, htake.2, splitFraction_of_head fun c hc => (hhead c hc).2]
      exact ⟨.inl hds.1, hexponent⟩
    | @pointed before after hbefore hafter hsome =>
      have hpoint : ∀ c ∈ ('.' :: (after ++ exponent)).head?, isDigit c = false := by
        rintro c hc
        obtain rfl := Option.some.inj hc
        rfl
      have htake := takeWhile_digits hbefore hpoint
      have htake' := takeWhile_digits hafter fun c hc => (hhead c hc).1
      rw [List.append_assoc, List.cons_append, htake.1, htake.2, splitFraction, htake'.1, htake'.2]
      exact ⟨hsome, hexponent⟩

theorem specialReal?_isSome_iff {cs : List Char} :
    (specialReal? cs).isSome ↔
      String.ofList (cs.map Char.toLower) ∈ ["inf", "infinity", "nan"] := by
  rw [specialReal?]
  split
  next h => simp [h]
  next h => simp [h]
  next h => simp [h]
  next hinf hinfinity hnan => simpa using ⟨hinf, hinfinity, hnan⟩

theorem isMagnitude_iff {cs : List Char} :
    IsMagnitude cs ↔ (specialReal? cs).isSome ∨ (scientific? cs).isSome := by
  rw [specialReal?_isSome_iff, scientific?_isSome_iff]
  constructor
  · rintro (h | ⟨hmantissa, hexponent⟩)
    · exact .inl h
    · exact .inr ⟨_, _, rfl, hmantissa, hexponent⟩
  · rintro (h | ⟨mantissa, exponent, rfl, hmantissa, hexponent⟩)
    · exact .word h
    · exact .decimal hmantissa hexponent

/-! ## Characters of numerals -/

/-- The letters of one of the words, in small letters. -/
theorem lower_of_word {cs : List Char}
    (h : String.ofList (cs.map Char.toLower) ∈ ["inf", "infinity", "nan"]) :
    cs.map Char.toLower ∈ ["inf".toList, "infinity".toList, "nan".toList] := by
  have hmem := List.mem_map_of_mem (f := String.toList) h
  rwa [String.toList_ofList] at hmem

theorem mem_of_word {cs : List Char}
    (h : String.ofList (cs.map Char.toLower) ∈ ["inf", "infinity", "nan"]) :
    ∀ c ∈ cs, c.toLower ∈ ['i', 'n', 'f', 't', 'y', 'a'] := by
  intro c hc
  have hmem := List.mem_map_of_mem (f := Char.toLower) hc
  have hletters : (["inf".toList, "infinity".toList, "nan".toList].all fun word =>
      word.all (['i', 'n', 'f', 't', 'y', 'a'].contains ·)) = true := by decide
  have hword := List.all_eq_true.1 hletters _ (lower_of_word h)
  exact List.contains_iff_mem.1 (List.all_eq_true.1 hword _ hmem)

/-- A number without its sign starts with no sign. -/
theorem IsMagnitude.head {cs : List Char} (h : IsMagnitude cs) :
    ∀ c ∈ cs.head?, c ≠ '+' ∧ c ≠ '-' := by
  intro c hc
  cases h with
  | word h =>
    have hletter := mem_of_word h c (List.mem_of_mem_head? hc)
    constructor <;> rintro rfl <;> revert hletter <;> decide
  | @decimal mantissa exponent hmantissa _ =>
    cases hmantissa with
    | plain hds =>
      cases mantissa with
      | nil => exact absurd rfl hds.1
      | cons first rest => exact hds.head c hc
    | @pointed before after hbefore _ _ =>
      cases before with
      | nil =>
        obtain rfl := Option.some.inj hc
        decide
      | cons first rest =>
        obtain rfl := Option.some.inj hc
        exact IsDigits.head ⟨List.cons_ne_nil _ _, hbefore⟩ _ rfl

theorem IsSign.mem {cs : List Char} {negative : Bool} (h : IsSign cs negative) :
    ∀ c ∈ cs, c = '+' ∨ c = '-' := by
  cases h <;> simp

theorem IsMantissa.mem {cs : List Char} (h : IsMantissa cs) : ∀ c ∈ cs, isDigit c ∨ c = '.' := by
  intro c hc
  cases h with
  | plain hds => exact .inl (hds.2 c hc)
  | pointed hbefore hafter =>
    rcases List.mem_append.1 hc with hc | hc
    · exact .inl (hbefore c hc)
    · rcases List.mem_cons.1 hc with rfl | hc
      · exact .inr rfl
      · exact .inl (hafter c hc)

theorem IsExponent.mem {cs : List Char} (h : IsExponent cs) :
    ∀ c ∈ cs, isDigit c ∨ c ∈ ['e', 'E', '+', '-'] := by
  intro c hc
  cases h with
  | none => cases hc
  | some hletter hsign hds =>
    rcases List.mem_cons.1 hc with rfl | hc
    · rcases hletter with rfl | rfl <;> simp
    · rcases List.mem_append.1 hc with hc | hc
      · rcases hsign.mem c hc with rfl | rfl <;> simp
      · exact .inl (hds.2 c hc)

/-- A capital letter is as far from its small letter as all others are, and all other characters
stay as they are. -/
theorem toLower_cases (c : Char) :
    (65 ≤ c.toNat ∧ c.toNat ≤ 90 ∧ c.toLower.toNat = c.toNat + 32) ∨ c.toLower = c := by
  unfold Char.toLower
  split
  next h =>
    have hlow : 65 ≤ c.toNat := UInt32.le_iff_toNat_le.1 h.1
    have hhigh : c.toNat ≤ 90 := UInt32.le_iff_toNat_le.1 h.2
    have hsum : (c.val + 32).toNat = (c.toNat + 32) % 2 ^ 32 := UInt32.toNat_add _ _
    refine .inl ⟨hlow, hhigh, hsum.trans ?_⟩
    omega
  next => exact .inr rfl

theorem toNat_of_isDigit {c : Char} (h : isDigit c) : 48 ≤ c.toNat ∧ c.toNat ≤ 57 := by
  rw [isDigit, Bool.and_eq_true, decide_eq_true_iff, decide_eq_true_iff] at h
  exact ⟨UInt32.le_iff_toNat_le.1 h.1, UInt32.le_iff_toNat_le.1 h.2⟩

/-- The characters of real numbers can be seen. -/
theorem IsReal.visible {cs : List Char} (h : IsReal cs) :
    ∀ c ∈ cs, 33 ≤ c.toNat ∧ c.toNat ≤ 126 := by
  have hdigit (c : Char) (h : isDigit c) : 33 ≤ c.toNat ∧ c.toNat ≤ 126 := by
    have := toNat_of_isDigit h
    omega
  have hother : ∀ c ∈ ['i', 'n', 'f', 't', 'y', 'a', 'e', 'E', '+', '-'],
      33 ≤ c.toNat ∧ c.toNat ≤ 126 := by
    simp only [List.forall_mem_cons, List.not_mem_nil, false_imp_iff, implies_true, and_true]
    decide
  obtain ⟨sign, negative, rest, rfl, hsign, hrest⟩ := h
  intro c hc
  rcases List.mem_append.1 hc with hc | hc
  · rcases hsign.mem c hc with rfl | rfl <;> decide
  · cases hrest with
    | word h =>
      have hletter := mem_of_word h c hc
      rcases toLower_cases c with hupper | hlower
      · omega
      · rw [hlower] at hletter
        exact hother c (List.mem_append_left _ hletter)
    | decimal hmantissa hexponent =>
      rcases List.mem_append.1 hc with hc | hc
      · rcases hmantissa.mem c hc with hc | rfl
        · exact hdigit c hc
        · decide
      · rcases hexponent.mem c hc with hc | hc
        · exact hdigit c hc
        · exact hother c (List.mem_append_right ['i', 'n', 'f', 't', 'y', 'a'] hc)

/-- No real number ends in the letter of an exponent. -/
theorem IsReal.last {cs : List Char} (h : IsReal cs) : ∀ c ∈ cs.getLast?, c.toLower ≠ 'e' := by
  have hdigit (c : Char) (h : isDigit c) : c.toLower ≠ 'e' := by
    intro he
    have hc := toNat_of_isDigit h
    rcases toLower_cases c with hupper | hlower
    · omega
    · rw [← hlower, he] at hc
      revert hc
      decide
  obtain ⟨sign, negative, rest, rfl, hsign, hrest⟩ := h
  intro c hc
  rw [List.getLast?_append, Option.mem_def, Option.or_eq_some_iff] at hc
  rcases hc with hc | ⟨-, hc⟩
  · cases hrest with
    | word h =>
      have hlast : c.toLower ∈ (rest.map Char.toLower).getLast? := by
        rw [List.getLast?_map, hc]
        rfl
      have hwords : 'e' ∉ ["inf".toList, "infinity".toList, "nan".toList].filterMap
          List.getLast? := by decide
      exact fun he => hwords (he ▸ List.mem_filterMap.2 ⟨_, lower_of_word h, hlast⟩)
    | @decimal mantissa exponent hmantissa hexponent =>
      rw [List.getLast?_append, Option.or_eq_some_iff] at hc
      rcases hc with hc | ⟨-, hc⟩
      · cases hexponent with
        | none => cases hc
        | @some letter sign ds negative hletter hsign hds =>
          rw [← List.cons_append, List.getLast?_append, Option.or_eq_some_iff] at hc
          rcases hc with hc | ⟨hnone, -⟩
          · exact hdigit c (hds.2 c (List.mem_of_getLast? hc))
          · exact absurd (List.getLast?_eq_none_iff.1 hnone) hds.1
      · rcases hmantissa.mem c (List.mem_of_getLast? hc) with hc | rfl
        · exact hdigit c hc
        · decide
  · rcases hsign.mem c (List.mem_of_getLast? hc) with rfl | rfl <;> decide

/-! ## Reading real numbers -/

theorem real?_isSome_iff {s : String} : (real? s).isSome ↔ IsReal s.toList := by
  have hread : (real? s).isSome ↔ IsMagnitude (splitSign s.toList).2 := by
    rw [isMagnitude_iff, real?]
    rcases splitSign s.toList with ⟨negative, rest⟩
    dsimp only
    rw [Option.isSome_map]
    rcases specialReal? rest with _ | x
    · simp
    · simp
  rw [hread]
  constructor
  · intro h
    obtain ⟨sign, hsplit, hsign⟩ := isSign_splitSign s.toList
    exact ⟨sign, _, _, hsplit, hsign, h⟩
  · rintro ⟨sign, negative, rest, hs, hsign, hrest⟩
    rwa [hs, splitSign_append hsign hrest.head]

end RuleScan.Text
