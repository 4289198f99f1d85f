import Mathlib.Tactic.NormNum
import RuleScan.ExternalValue
import RuleScan.Proofs.Json.Printed
import RuleScan.Proofs.Text.Numerals

/-!
# What typed values stand for

A text that is typed as the value of an external variable is a truth value, a whole number of
sixty-four bits, a real number or a text. Which of these it is can be told by the grammar of
numerals (`parse_classifies`): it is a real number where it has the form of one and is no whole
number that fits, and a text, unchanged, where it has no form at all. A whole number that is shown
is read back.
-/

namespace RuleScan.ExternalValue

open Text

/-- The whole numbers of sixty-four bits with a sign. -/
def InRange (i : Int) : Prop := -2 ^ 63 ≤ i ∧ i ≤ 2 ^ 63 - 1

theorem fits_iff {i : Int} : fits i = true ↔ InRange i := by
  have hpow : ((Nat.pow 2 63 : Nat) : Int) = 2 ^ 63 := by norm_num
  simp only [fits, InRange, Bool.and_eq_true, decide_eq_true_iff, hpow]
  omega

theorem inRange_toInt (v : Int64) : InRange v.toInt :=
  ⟨v.le_toInt, Int.le_sub_one_of_lt v.toInt_lt⟩

theorem toInt_ofInt {i : Int} (h : InRange i) : (Int64.ofInt i).toInt = i :=
  Int64.toInt_ofInt_of_le h.1 (Int.lt_of_le_sub_one h.2)

/-- What a text stands for: a word, a whole number, a real number or itself. -/
inductive StandsFor (raw : String) : ExternalValue → Prop
  | bool (b : Bool) (h : raw = if b then "true" else "false") : StandsFor raw (.bool b)
  | integer {i : Int} (h : IsWhole raw.toList i) (hrange : InRange i) :
      StandsFor raw (.integer (Int64.ofInt i))
  | real (x : Float) (h : IsReal raw.toList)
      (hwhole : ∀ i, IsWhole raw.toList i → ¬ InRange i) : StandsFor raw (.real x)
  | text (htrue : raw ≠ "true") (hfalse : raw ≠ "false") (h : ¬ IsReal raw.toList) :
      StandsFor raw (.text raw)

theorem filter_fits_eq_none {raw : String} (h : (integer? raw).filter fits = none) :
    ∀ i, IsWhole raw.toList i → ¬ InRange i := by
  intro i hi hrange
  rw [integer?_eq_some_iff.2 hi, Option.filter_some, if_pos (fits_iff.2 hrange)] at h
  cases h

theorem parse_standsFor (raw : String) : StandsFor raw (parse raw) := by
  rw [parse]
  split
  next htrue => exact .bool true htrue
  next htrue =>
    split
    next hfalse => exact .bool false hfalse
    next hfalse =>
      split
      next i _ hwhole =>
        obtain ⟨hread, hfits⟩ := Option.filter_eq_some_iff.1 hwhole
        exact .integer (integer?_eq_some_iff.1 hread) (fits_iff.1 hfits)
      next x hwhole hreal =>
        refine .real x (real?_isSome_iff.1 ?_) (filter_fits_eq_none hwhole)
        rw [hreal]
        rfl
      next hwhole hreal =>
        refine .text htrue hfalse fun h => ?_
        rw [← real?_isSome_iff, hreal] at h
        cases h

/-- A text stands for one whole number at most. -/
theorem isWhole_unique {raw : String} {i j : Int} (hi : IsWhole raw.toList i)
    (hj : IsWhole raw.toList j) : i = j :=
  Option.some.inj ((integer?_eq_some_iff.2 hi).symm.trans (integer?_eq_some_iff.2 hj))

/-- The words for truth values are no numbers. -/
theorem not_isReal_of_word {raw : String} {b : Bool} (h : raw = if b then "true" else "false") :
    ¬ IsReal raw.toList := by
  rw [← real?_isSome_iff, h]
  cases b <;> decide

theorem parse_eq_bool_iff {raw : String} {b : Bool} :
    parse raw = .bool b ↔ raw = if b then "true" else "false" := by
  constructor
  · intro h
    have hparse := parse_standsFor raw
    rw [h] at hparse
    cases hparse with
    | bool _ h => exact h
  · rintro rfl
    cases b <;> rfl

theorem parse_eq_integer_iff {raw : String} {v : Int64} :
    parse raw = .integer v ↔ IsWhole raw.toList v.toInt := by
  have hparse := parse_standsFor raw
  constructor
  · intro h
    rw [h] at hparse
    cases hparse with
    | integer h hrange => rwa [toInt_ofInt hrange]
  · intro h
    generalize parse raw = value at hparse ⊢
    cases hparse with
    | bool b hword => exact absurd h.isReal (not_isReal_of_word hword)
    | integer h' _ => rw [isWhole_unique h' h, Int64.ofInt_toInt]
    | real x _ hwhole => exact absurd (inRange_toInt v) (hwhole _ h)
    | text _ _ hreal => exact absurd h.isReal hreal

theorem parse_eq_real_iff {raw : String} :
    (∃ x, parse raw = .real x) ↔
      IsReal raw.toList ∧ ∀ i, IsWhole raw.toList i → ¬ InRange i := by
  have hparse := parse_standsFor raw
  constructor
  · rintro ⟨x, h⟩
    rw [h] at hparse
    cases hparse with
    | real _ h hwhole => exact ⟨h, hwhole⟩
  · rintro ⟨h, hwhole⟩
    generalize parse raw = value at hparse ⊢
    cases hparse with
    | bool b hword => exact absurd h (not_isReal_of_word hword)
    | integer h' hrange => exact absurd hrange (hwhole _ h')
    | real x => exact ⟨x, rfl⟩
    | text _ _ hreal => exact absurd h hreal

theorem parse_eq_text_iff {raw s : String} :
    parse raw = .text s ↔
      s = raw ∧ raw ≠ "true" ∧ raw ≠ "false" ∧ ¬ IsReal raw.toList := by
  have hparse := parse_standsFor raw
  constructor
  · intro h
    rw [h] at hparse
    cases hparse with
    | text htrue hfalse hreal => exact ⟨rfl, htrue, hfalse, hreal⟩
  · rintro ⟨rfl, htrue, hfalse, h⟩
    generalize parse s = value at hparse ⊢
    cases hparse with
    | bool b hword => cases b <;> contradiction
    | integer h' _ => exact absurd h'.isReal h
    | real _ h' => exact absurd h' h
    | text => rfl

/-! ## Texts that have no form -/

theorem not_isBlank_of_visible {c : Char} (h : 33 ≤ c.toNat ∧ c.toNat ≤ 126) :
    Unicode.isBlank c = false := by
  have hranges : Unicode.whiteSpace.ranges = [⟨9, 13⟩, ⟨32, 32⟩, ⟨133, 133⟩, ⟨160, 160⟩,
      ⟨5760, 5760⟩, ⟨8192, 8202⟩, ⟨8232, 8233⟩, ⟨8239, 8239⟩, ⟨8287, 8287⟩, ⟨12288, 12288⟩] := by
    decide +kernel
  rw [Unicode.isBlank, RangeSet.contains, hranges, List.any_eq_false]
  simp only [List.mem_cons, List.not_mem_nil, or_false, Bool.and_eq_true, decide_eq_true_iff]
  rintro r (rfl | rfl | rfl | rfl | rfl | rfl | rfl | rfl | rfl | rfl) <;> dsimp only <;> omega

theorem visible_of_word {raw : String} {b : Bool} (h : raw = if b then "true" else "false") :
    ∀ c ∈ raw.toList, 33 ≤ c.toNat ∧ c.toNat ≤ 126 := by
  have hletters : raw.toList = if b then ['t', 'r', 'u', 'e'] else ['f', 'a', 'l', 's', 'e'] := by
    rw [h]
    cases b <;> rfl
  rw [hletters]
  cases b <;> simp

/-- White space anywhere makes a text. -/
theorem parse_of_isBlank {raw : String} (h : ∃ c ∈ raw.toList, Unicode.isBlank c = true) :
    parse raw = .text raw := by
  obtain ⟨c, hc, hblank⟩ := h
  have hseen (hvisible : ∀ c ∈ raw.toList, 33 ≤ c.toNat ∧ c.toNat ≤ 126) : False := by
    rw [not_isBlank_of_visible (hvisible c hc)] at hblank
    cases hblank
  refine parse_eq_text_iff.2 ⟨rfl, ?_, ?_, fun hreal => hseen hreal.visible⟩
  · exact fun hword => hseen (visible_of_word (b := true) hword)
  · exact fun hword => hseen (visible_of_word (b := false) hword)

/-- An exponent without digits makes a text. -/
theorem parse_of_last {raw : String} (htrue : raw ≠ "true") (hfalse : raw ≠ "false")
    (h : ∃ c ∈ raw.toList.getLast?, c = 'e' ∨ c = 'E') : parse raw = .text raw := by
  obtain ⟨c, hc, hletter⟩ := h
  refine parse_eq_text_iff.2 ⟨rfl, htrue, hfalse, fun hreal => hreal.last c hc ?_⟩
  rcases hletter with rfl | rfl <;> decide

/-! ## Whole numbers that are shown -/

theorem decimalValue_natDigits (n : Nat) : decimalValue (Decimal.natDigits n) = n := by
  rw [← digitsValue_eq]
  exact Nat.ofDigitChars_ten_toDigits

theorem isWhole_integerText (i : Int) : IsWhole (integerText i).toList i := by
  have hdigits : IsDigits (Decimal.natDigits i.natAbs) :=
    ⟨Json.natDigits_ne_nil _, fun c hc => Json.isDigit_of_mem_natDigits hc⟩
  rw [integerText, String.toList_append, String.toList_ofList]
  by_cases hi : i < 0
  · rw [if_pos hi]
    refine ⟨['-'], true, _, rfl, .minus, hdigits, ?_⟩
    rw [decimalValue_natDigits, signed, if_pos rfl]
    omega
  · rw [if_neg hi]
    refine ⟨[], false, _, rfl, .none, hdigits, ?_⟩
    rw [decimalValue_natDigits, signed, if_neg Bool.false_ne_true]
    omega

/-- **Typed values are told apart by the grammar of numerals.** A text stands for a truth value just
if it is one of the two words; for a whole number just if it is the text of that number and the
number has sixty-four bits; for a real number just if it stands for none of these and is the text
of a real number, as that of a whole number with more bits is; and otherwise for itself. So do the
empty text, a sign alone, every text with white space, and every one that ends in the letter of an
exponent and is no word. Each whole number is read back from how it is shown. -/
theorem parse_classifies :
    (∀ raw : String,
      (∀ b, parse raw = .bool b ↔ raw = if b then "true" else "false") ∧
      (∀ v, parse raw = .integer v ↔
        ∃ i, IsWhole raw.toList i ∧ -2 ^ 63 ≤ i ∧ i ≤ 2 ^ 63 - 1 ∧ v.toInt = i) ∧
      ((∃ x, parse raw = .real x) ↔
        (∀ b, parse raw ≠ .bool b) ∧ (∀ v, parse raw ≠ .integer v) ∧ IsReal raw.toList) ∧
      (∀ s, parse raw = .text s ↔
        s = raw ∧ raw ≠ "true" ∧ raw ≠ "false" ∧ ¬ IsReal raw.toList) ∧
      ((∃ i, IsWhole raw.toList i ∧ (i < -2 ^ 63 ∨ 2 ^ 63 - 1 < i)) → ∃ x, parse raw = .real x) ∧
      ((∃ c ∈ raw.toList, Unicode.isBlank c = true) → parse raw = .text raw) ∧
      ((∃ c ∈ raw.toList.getLast?, c = 'e' ∨ c = 'E') →
        raw = "true" ∨ raw = "false" ∨ parse raw = .text raw)) ∧
    (∀ raw ∈ ["", "+", "-"], parse raw = .text raw) ∧
    ∀ v : Int64, parse (display (.integer v)) = .integer v := by
  refine ⟨fun raw => ⟨fun b => parse_eq_bool_iff, fun v => ?_, ?_, fun s => parse_eq_text_iff, ?_,
    parse_of_isBlank, fun h => ?_⟩, ?_, fun v => parse_eq_integer_iff.2 (isWhole_integerText _)⟩
  · rw [parse_eq_integer_iff]
    constructor
    · exact fun h => ⟨_, h, (inRange_toInt v).1, (inRange_toInt v).2, rfl⟩
    · rintro ⟨_, h, -, -, rfl⟩
      exact h
  · constructor
    · rintro ⟨x, h⟩
      rw [h]
      exact ⟨nofun, nofun, (parse_eq_real_iff.1 ⟨x, h⟩).1⟩
    · rintro ⟨-, hinteger, hreal⟩
      refine parse_eq_real_iff.2 ⟨hreal, fun i hi hrange => hinteger (.ofInt i) ?_⟩
      rw [parse_eq_integer_iff, toInt_ofInt hrange]
      exact hi
  · rintro ⟨i, hi, hout⟩
    refine parse_eq_real_iff.2 ⟨hi.isReal, fun j hj hrange => ?_⟩
    rw [isWhole_unique hj hi, InRange] at hrange
    omega
  · by_cases htrue : raw = "true"
    · exact .inl htrue
    · by_cases hfalse : raw = "false"
      · exact .inr (.inl hfalse)
      · exact .inr (.inr (parse_of_last htrue hfalse h))
  · have hnone : ∀ raw ∈ ["", "+", "-"], (real? raw).isSome = false ∧
        raw ≠ "true" ∧ raw ≠ "false" := by decide
    intro raw hraw
    obtain ⟨hreal, htrue, hfalse⟩ := hnone raw hraw
    refine parse_eq_text_iff.2 ⟨rfl, htrue, hfalse, fun h => ?_⟩
    rw [real?_isSome_iff.2 h] at hreal
    cases hreal

end RuleScan.ExternalValue
