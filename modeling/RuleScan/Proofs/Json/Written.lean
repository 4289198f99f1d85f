import RuleScan.Proofs.Json.Tree

/-!
# Written values

The texts of JSON values by the grammar: any blanks between tokens, any escapes in strings, any
numerals. Cutting such a text into tokens gives the tokens of its tree (`Written.lex_asText`). No
token runs over its end, since a numeral is followed by a character that cannot belong to it
(`Ends`).
-/

namespace RuleScan.Json

/-! ## The grammar -/

/-- Characters that may stand between tokens. -/
structure Gap where
  chars : List Char := []
  blank : ∀ c ∈ chars, isSpace c := by simp

/-- A part of a string: a character that stands for itself, an escape of one letter, or an escape of
four hexadecimal digits. -/
inductive Piece
  | plain (c : Char) (h : c ≠ '"' ∧ c ≠ '\\' ∧ 32 ≤ c.toNat)
  | short (c : Char) (h : (simpleEscape? c).isSome)
  | code (a b c d : Char) (h : ∀ x ∈ [a, b, c, d], (hexDigit? x).isSome)

/-- The characters of a part of a string. -/
def Piece.chars : Piece → List Char
  | plain c _ => [c]
  | short c _ => ['\\', c]
  | code a b c d _ => ['\\', 'u', a, b, c, d]

/-- One or more digits. -/
structure Digits where
  first : Char
  more : List Char := []
  digits : ∀ c ∈ first :: more, isDigit c

/-- The characters of digits. -/
def Digits.chars (ds : Digits) : List Char := ds.first :: ds.more

/-- The exponent of a numeral. -/
structure Exponent where
  letter : Char
  sign : Option Char := none
  digits : Digits
  isLetter : letter = 'e' ∨ letter = 'E'
  isSign : ∀ c ∈ sign, c = '+' ∨ c = '-'

/-- The characters of an exponent. -/
def Exponent.chars (e : Exponent) : List Char := e.letter :: (e.sign.toList ++ e.digits.chars)

/-- The characters of an exponent, if there is one. -/
def exponentChars (e : Option Exponent) : List Char := e.elim [] Exponent.chars

/-- A numeral. Only zero starts with a zero. -/
structure Numeral where
  negative : Bool := false
  whole : Digits
  fraction : Option Digits := none
  exponent : Option Exponent := none
  plainZero : whole.first = '0' → whole.more = []

namespace Numeral

/-- What follows the digits before the point. -/
def tail (n : Numeral) : List Char :=
  (n.fraction.elim [] fun ds => '.' :: ds.chars) ++ exponentChars n.exponent

/-- The characters of a numeral after its sign. -/
def body (n : Numeral) : List Char := n.whole.chars ++ n.tail

/-- The characters of a numeral. -/
def chars (n : Numeral) : List Char := (if n.negative then ['-'] else []) ++ n.body

/-- The number that a numeral is read as. -/
def read (n : Numeral) : Except Fault Number := readNumber (!n.negative) n.body

end Numeral

/-- The string that its parts are read as. -/
def readPieces (ps : List Piece) : Except Fault String :=
  (readText (ps.length + 1) [] (ps.flatMap Piece.chars ++ ['"'])).map String.ofList

/-- A string with its quotes. -/
def pieceChars (ps : List Piece) : List Char := '"' :: (ps.flatMap Piece.chars ++ ['"'])

/-- The name of a member, with the blanks around it. -/
structure Name where
  before : Gap := {}
  pieces : List Piece
  after : Gap := {}

/-- A JSON value as it is written. -/
inductive Written
  | word (w : Word)
  | number (n : Numeral)
  | text (ps : List Piece)
  | list (items : List Written) (gap : Gap)
  | record (members : List (Name × Written)) (gap : Gap)
  | spaced (before : Gap) (w : Written) (after : Gap)

/-- The characters of a word. -/
def wordChars : Word → List Char
  | .null => ['n', 'u', 'l', 'l']
  | .yes => ['t', 'r', 'u', 'e']
  | .no => ['f', 'a', 'l', 's', 'e']

mutual

/-- The characters of a written value. -/
def Written.chars : Written → List Char
  | .word w => wordChars w
  | .number n => n.chars
  | .text ps => pieceChars ps
  | .list items gap => '[' :: (itemChars true items ++ (gap.chars ++ [']']))
  | .record members gap => '\x7b' :: (memberChars true members ++ (gap.chars ++ ['\x7d']))
  | .spaced before w after => before.chars ++ (w.chars ++ after.chars)

/-- The characters of the items of a list, each but the first after a comma. -/
def itemChars (first : Bool) : List Written → List Char
  | [] => []
  | w :: rest => (if first then [] else [',']) ++ (w.chars ++ itemChars false rest)

/-- The characters of the members of a record, each but the first after a comma. -/
def memberChars (first : Bool) : List (Name × Written) → List Char
  | [] => []
  | (name, w) :: rest => (if first then [] else [',']) ++ (name.before.chars ++
      (pieceChars name.pieces ++ (name.after.chars ++ ':' :: (w.chars ++ memberChars false rest))))

end

mutual

/-- The tree of a written value. -/
def Written.tree : Written → Tree
  | .word w => .word w
  | .number n => .number n.read
  | .text ps => .text (readPieces ps)
  | .list items _ => .list (itemTrees items)
  | .record members _ => .record (memberTrees members)
  | .spaced _ w _ => w.tree

/-- The trees of the items of a list. -/
def itemTrees : List Written → List Tree
  | [] => []
  | w :: rest => w.tree :: itemTrees rest

/-- The trees of the members of a record. -/
def memberTrees : List (Name × Written) → List (Except Fault String × Tree)
  | [] => []
  | (name, w) :: rest => (readPieces name.pieces, w.tree) :: memberTrees rest

end

/-- The text of a written value. -/
def Written.asText (w : Written) : String := String.ofList w.chars

/-! ## Ends -/

/-- Characters that do not go on with a numeral. -/
def Ends (cs : List Char) : Prop :=
  ∀ c ∈ cs.head?, isDigit c = false ∧ c ≠ '.' ∧ c ≠ 'e' ∧ c ≠ 'E'

theorem ends_nil : Ends [] := by simp [Ends]

theorem ends_cons {c : Char} (h : isDigit c = false ∧ c ≠ '.' ∧ c ≠ 'e' ∧ c ≠ 'E')
    (cs : List Char) : Ends (c :: cs) := by
  simpa [Ends] using h

theorem space_cases {c : Char} (h : isSpace c) : c = ' ' ∨ c = '\n' ∨ c = '\t' ∨ c = '\r' := by
  simpa [isSpace, or_assoc] using h

theorem Ends.after {cs : List Char} (h : Ends cs) (gap : Gap) : Ends (gap.chars ++ cs) := by
  obtain ⟨chars, blank⟩ := gap
  cases chars with
  | nil => exact h
  | cons c rest =>
    refine ends_cons ?_ _
    rcases space_cases (blank c List.mem_cons_self) with rfl | rfl | rfl | rfl <;> decide

/-! ## Strings -/

theorem lexHex_digits {a b c d : Char} (h : ∀ x ∈ [a, b, c, d], (hexDigit? x).isSome) :
    ∃ n, ∀ rest, lexHex (a :: b :: c :: d :: rest) = .ok (n, rest) := by
  obtain ⟨ka, ha⟩ := Option.isSome_iff_exists.1 (h a (by simp))
  obtain ⟨kb, hb⟩ := Option.isSome_iff_exists.1 (h b (by simp))
  obtain ⟨kc, hc⟩ := Option.isSome_iff_exists.1 (h c (by simp))
  obtain ⟨kd, hd⟩ := Option.isSome_iff_exists.1 (h d (by simp))
  exact ⟨((ka * 16 + kb) * 16 + kc) * 16 + kd, fun rest => by simp [lexHex, ha, hb, hc, hd]⟩

theorem escape_short {c : Char} (h : (simpleEscape? c).isSome) :
    c ≠ 'u' ∧ ∃ e, ∀ rest, lexEscape (c :: rest) = .ok (e, rest) ∧
      skipEscape (c :: rest) = .ok rest := by
  have hu : c ≠ 'u' := by
    rintro rfl
    cases h
  obtain ⟨e, he⟩ := Option.isSome_iff_exists.1 h
  exact ⟨hu, e, fun rest => ⟨by simp [lexEscape, he], by simp [skipEscape, he]⟩⟩

/-- **Skipping a string** ends after its closing quote. -/
theorem skipText_pieces (ps : List Piece) {fuel : Nat} (after : List Char) (h : ps.length < fuel) :
    skipText fuel (ps.flatMap Piece.chars ++ '"' :: after) = .ok after := by
  induction ps generalizing fuel with
  | nil =>
    obtain ⟨fuel, rfl⟩ : ∃ k, fuel = k + 1 := ⟨fuel - 1, by simp at h; omega⟩
    simp [skipText]
  | cons p ps ih =>
    obtain ⟨fuel, rfl⟩ : ∃ k, fuel = k + 1 := ⟨fuel - 1, by simp at h; omega⟩
    have hfuel : ps.length < fuel := by simpa using h
    rw [List.flatMap_cons, List.append_assoc]
    cases p with
    | plain c hc =>
      have hctrl : ¬ c.toNat < 32 := by omega
      simp [Piece.chars, skipText, hc.1, hc.2.1, hctrl, ih hfuel]
    | short c hc =>
      obtain ⟨-, e, he⟩ := escape_short hc
      simp [Piece.chars, skipText, (he _).2, ih hfuel, bind, Except.bind]
    | code a b c d hdigits =>
      obtain ⟨n, hn⟩ := lexHex_digits hdigits
      simp [Piece.chars, skipText, skipEscape, hn, ih hfuel, Except.map, bind, Except.bind]

/-- After the first half of a surrogate pair, only the rest of the string matters. -/
theorem lexTrail_pieces (lead : Nat) (ps : List Piece) :
    (∃ e, ∀ after, lexTrail lead (ps.flatMap Piece.chars ++ '"' :: after) = .error e) ∨
      ∃ p rest c, ps = p :: rest ∧ ∀ after,
        lexTrail lead (ps.flatMap Piece.chars ++ '"' :: after) =
          .ok (c, rest.flatMap Piece.chars ++ '"' :: after) := by
  cases ps with
  | nil => exact .inl ⟨.endOfHexEscape, fun after => by simp [lexTrail]⟩
  | cons p rest =>
    cases p with
    | plain c hc =>
      exact .inl ⟨.endOfHexEscape, fun after => by simp [Piece.chars, lexTrail, hc.2.1]⟩
    | short c hc =>
      have hu := (escape_short hc).1
      exact .inl ⟨.endOfHexEscape, fun after => by simp [Piece.chars, lexTrail, hu]⟩
    | code a b c d hdigits =>
      obtain ⟨n, hn⟩ := lexHex_digits hdigits
      by_cases htrail : 0xDC00 ≤ n && n ≤ 0xDFFF
      · refine .inr ⟨_, rest, Char.ofNat (0x10000 + (lead - 0xD800) * 0x400 + (n - 0xDC00)), rfl,
          fun after => ?_⟩
        simp [Piece.chars, lexTrail, hn, htrail, bind, Except.bind]
      · refine .inl ⟨.loneSurrogate, fun after => ?_⟩
        simp [Piece.chars, lexTrail, hn, htrail, bind, Except.bind]

/-- **Reading a string** does not look at what follows it. -/
theorem readText_pieces (ps : List Piece) {fuel fuel' : Nat} (done after after' : List Char)
    (h : ps.length < fuel) (h' : ps.length < fuel') :
    readText fuel done (ps.flatMap Piece.chars ++ '"' :: after) =
      readText fuel' done (ps.flatMap Piece.chars ++ '"' :: after') := by
  obtain ⟨fuel, rfl⟩ : ∃ k, fuel = k + 1 := ⟨fuel - 1, by omega⟩
  obtain ⟨fuel', rfl⟩ : ∃ k, fuel' = k + 1 := ⟨fuel' - 1, by omega⟩
  cases ps with
  | nil => simp [readText]
  | cons p ps =>
    have hlt : ps.length < fuel := by simpa using h
    have hlt' : ps.length < fuel' := by simpa using h'
    rw [List.flatMap_cons, List.append_assoc, List.append_assoc]
    cases p with
    | plain c hc =>
      have hctrl : ¬ c.toNat < 32 := by omega
      have ih := readText_pieces ps (c :: done) after after' hlt hlt'
      simp [Piece.chars, readText, hc.1, hc.2.1, hctrl, ih]
    | short c hc =>
      obtain ⟨-, e, he⟩ := escape_short hc
      have ih := readText_pieces ps (e :: done) after after' hlt hlt'
      simp [Piece.chars, readText, (he _).1, ih, bind, Except.bind]
    | code a b c d hdigits =>
      obtain ⟨n, hn⟩ := lexHex_digits hdigits
      by_cases htrail : 0xDC00 ≤ n && n ≤ 0xDFFF
      · simp [Piece.chars, readText, lexEscape, hn, htrail, bind, Except.bind]
      by_cases hlead : 0xD800 ≤ n && n ≤ 0xDBFF
      · have hread (k : Nat) (after : List Char) : readText (k + 1) done
            ((Piece.code a b c d hdigits).chars ++ (ps.flatMap Piece.chars ++ '"' :: after)) =
            (lexTrail n (ps.flatMap Piece.chars ++ '"' :: after)).bind fun r =>
              readText k (r.1 :: done) r.2 := by
          simp [Piece.chars, readText, lexEscape, hn, htrail, hlead, bind, Except.bind]
        rcases lexTrail_pieces n ps with ⟨e, he⟩ | ⟨p, rest, e, rfl, he⟩
        · rw [hread, hread, he, he]
          rfl
        · rw [hread, hread, he, he]
          simp only [List.length_cons] at hlt hlt'
          exact readText_pieces rest (e :: done) after after' (by omega) (by omega)
      · have ih := readText_pieces ps (Char.ofNat n :: done) after after' hlt hlt'
        simp [Piece.chars, readText, lexEscape, hn, htrail, hlead, ih, bind, Except.bind]
termination_by ps.length

/-! ## Numerals -/

/-- Characters that do not go on with digits. -/
def NoDigit (cs : List Char) : Prop := ∀ c ∈ cs.head?, isDigit c = false

theorem Ends.noDigit {cs : List Char} (h : Ends cs) : NoDigit cs := fun c hc => (h c hc).1

theorem noDigit_cons {c : Char} (h : isDigit c = false) (cs : List Char) : NoDigit (c :: cs) := by
  simpa [NoDigit] using h

theorem dropWhile_digits {ds tail : List Char} (h : ∀ c ∈ ds, isDigit c) (htail : NoDigit tail) :
    (ds ++ tail).dropWhile isDigit = tail := by
  rw [List.dropWhile_append_of_pos h]
  cases tail with
  | nil => rfl
  | cons c rest =>
    rw [List.dropWhile_cons_of_neg]
    simp [htail c (by simp)]

theorem takeWhile_digits {ds tail : List Char} (h : ∀ c ∈ ds, isDigit c) (htail : NoDigit tail) :
    (ds ++ tail).takeWhile isDigit = ds := by
  rw [List.takeWhile_append_of_pos h]
  cases tail with
  | nil => simp
  | cons c rest =>
    rw [List.takeWhile_cons_of_neg]
    · simp
    · simp [htail c (by simp)]

theorem noDigit_exponent (e : Option Exponent) {after : List Char} (h : Ends after) :
    NoDigit (exponentChars e ++ after) := by
  cases e with
  | none => exact h.noDigit
  | some e =>
    refine noDigit_cons ?_ _
    rcases e.isLetter with hl | hl <;> rw [hl] <;> decide

theorem point_exponent (e : Option Exponent) {after : List Char} (h : Ends after) :
    ∀ c ∈ (exponentChars e ++ after).head?, c ≠ '.' := by
  cases e with
  | none => exact fun c hc => (h c hc).2.1
  | some e =>
    intro c hc
    obtain rfl : e.letter = c := by simpa [exponentChars, Exponent.chars] using hc
    rcases e.isLetter with hl | hl <;> rw [hl] <;> decide

theorem Numeral.noDigit_tail (n : Numeral) {after : List Char} (h : Ends after) :
    NoDigit (n.tail ++ after) := by
  rw [tail, List.append_assoc]
  cases n.fraction with
  | none => exact noDigit_exponent n.exponent h
  | some ds => exact noDigit_cons (by decide) _

/-- The rest of an exponent, after its letter and its sign. -/
theorem sign_cases {sign : Option Char} (h : ∀ c ∈ sign, c = '+' ∨ c = '-') :
    sign = none ∨ sign = some '+' ∨ sign = some '-' := by
  cases sign with
  | none => exact .inl rfl
  | some c =>
    rcases h c rfl with rfl | rfl
    · exact .inr (.inl rfl)
    · exact .inr (.inr rfl)

theorem Digits.first_isDigit (ds : Digits) : isDigit ds.first := ds.digits _ List.mem_cons_self

/-- A digit is no sign. -/
theorem Digits.first_ne (ds : Digits) : ds.first ≠ '+' ∧ ds.first ≠ '-' := by
  have hfirst := ds.first_isDigit
  constructor <;> intro h <;> rw [h] at hfirst <;> cases hfirst

theorem skipExponent_unsigned (ds : Digits) {after : List Char} (h : NoDigit after) :
    skipExponent (ds.chars ++ after) = .ok after := by
  have hmore : (ds.more ++ after).dropWhile isDigit = after :=
    dropWhile_digits (fun c hc => ds.digits c (List.mem_cons_of_mem _ hc)) h
  rw [Digits.chars, List.cons_append]
  unfold skipExponent
  split
  next hc => exact absurd (List.cons.inj hc).1 ds.first_ne.1
  next hc => exact absurd (List.cons.inj hc).1 ds.first_ne.2
  next => simp [ds.first_isDigit, hmore]

theorem skipExponent_chars (e : Exponent) {after : List Char} (h : NoDigit after) :
    skipExponent (e.sign.toList ++ (e.digits.chars ++ after)) = .ok after := by
  have hunsigned := skipExponent_unsigned e.digits h
  have hmore : (e.digits.more ++ after).dropWhile isDigit = after :=
    dropWhile_digits (fun c hc => e.digits.digits c (List.mem_cons_of_mem _ hc)) h
  rcases sign_cases e.isSign with hs | hs | hs
  · rw [hs]
    exact hunsigned
  · simp [hs, skipExponent, Digits.chars, e.digits.first_isDigit, hmore]
  · simp [hs, skipExponent, Digits.chars, e.digits.first_isDigit, hmore]

theorem skipFraction_ends {after : List Char} (h : Ends after) :
    skipFraction after = .ok after := by
  cases after with
  | nil => rfl
  | cons c rest =>
    obtain ⟨-, hpoint, he, hE⟩ := h c (by simp)
    simp [skipFraction, hpoint, he, hE]

theorem skipFraction_exponent (e : Option Exponent) {after : List Char} (h : Ends after) :
    skipFraction (exponentChars e ++ after) = .ok after := by
  cases e with
  | none => exact skipFraction_ends h
  | some e =>
    have hskip := skipExponent_chars e h.noDigit
    rw [exponentChars, Option.elim_some, Exponent.chars, List.cons_append, List.append_assoc]
    rcases e.isLetter with hl | hl <;> rw [hl] <;> exact hskip

/-- **Skipping** what follows the digits before the point. -/
theorem Numeral.skipFraction_tail (n : Numeral) {after : List Char} (h : Ends after) :
    skipFraction (n.tail ++ after) = .ok after := by
  rw [tail, List.append_assoc]
  cases n.fraction with
  | none => exact skipFraction_exponent n.exponent h
  | some ds =>
    have hdrop : (ds.chars ++ (exponentChars n.exponent ++ after)).dropWhile isDigit =
        exponentChars n.exponent ++ after :=
      dropWhile_digits ds.digits (noDigit_exponent n.exponent h)
    have hpoint (rest : List Char) : exponentChars n.exponent ++ after ≠ '.' :: rest := by
      intro hcs
      have := point_exponent n.exponent h '.' (by rw [hcs]; rfl)
      exact this rfl
    have hread : skipFraction ('.' :: (ds.chars ++ (exponentChars n.exponent ++ after))) =
        skipFraction (exponentChars n.exponent ++ after) := by
      rw [Digits.chars, List.cons_append] at hdrop ⊢
      generalize exponentChars n.exponent ++ after = cs at hdrop hpoint ⊢
      simp only [skipFraction, ds.first_isDigit, if_true, hdrop]
      cases cs with
      | nil => rfl
      | cons c rest =>
        have hne : c ≠ '.' := fun hc => hpoint rest (by rw [hc])
        split <;> simp_all
    rw [Option.elim_some, List.cons_append, hread]
    exact skipFraction_exponent n.exponent h

/-- **Skipping** a numeral ends where it ends. -/
theorem Numeral.skipNumber_body (n : Numeral) {after : List Char} (h : Ends after) :
    skipNumber (n.body ++ after) = .ok after := by
  have htail := n.skipFraction_tail h
  have hdigit := n.noDigit_tail h
  rw [body, List.append_assoc]
  generalize n.tail ++ after = cs at htail hdigit ⊢
  by_cases hzero : n.whole.first = '0'
  · rw [Digits.chars, hzero, n.plainZero hzero]
    cases cs with
    | nil => exact htail
    | cons c rest =>
      have hc : isDigit c = false := hdigit c rfl
      simp [skipNumber, hc, htail]
  · have hdrop : (n.whole.more ++ cs).dropWhile isDigit = cs :=
      dropWhile_digits (fun c hc => n.whole.digits c (List.mem_cons_of_mem _ hc)) hdigit
    simp [skipNumber, Digits.chars, n.whole.first_isDigit, hdrop, htail]

/-! ### Reading numerals -/

/-- Digits that are taken leave digits, before whatever follows. -/
theorem takeDigits_append (ds : List Char) (h : ∀ c ∈ ds, isDigit c) (acc count : Nat) :
    ∃ n k left, (∀ c ∈ left, isDigit c) ∧ ∀ tail, NoDigit tail →
      takeDigits acc count (ds ++ tail) = (n, k, left ++ tail) := by
  induction ds generalizing acc count with
  | nil =>
    refine ⟨acc, count, [], by simp, fun tail htail => ?_⟩
    cases tail with
    | nil => rfl
    | cons c rest => simp [takeDigits, htail c rfl]
  | cons c ds ih =>
    by_cases hfits : acc * 10 + digitValue c ≤ maxNatural
    · obtain ⟨n, k, left, hleft, htake⟩ := ih (fun x hx => h x (List.mem_cons_of_mem _ hx))
        (acc * 10 + digitValue c) (count + 1)
      refine ⟨n, k, left, hleft, fun tail htail => ?_⟩
      simp [takeDigits, h c List.mem_cons_self, hfits, htake tail htail]
    · refine ⟨acc, count, c :: ds, h, fun tail htail => ?_⟩
      simp [takeDigits, hfits]

/-- The value of the digits of an exponent, unless it exceeds thirty-one bits. -/
def exponentValue (ds : List Char) : Option Nat :=
  let n := ds.foldl (fun n c => min (n * 10 + digitValue c) (Nat.pow 2 40)) 0
  if n < Nat.pow 2 31 then some n else none

theorem lexExponent_unsigned (ds : Digits) {after : List Char} (h : NoDigit after) :
    lexExponent (ds.chars ++ after) = .ok (true, exponentValue ds.chars) := by
  have htake := takeWhile_digits ds.digits h
  rw [Digits.chars, List.cons_append]
  unfold lexExponent
  split
  next heq =>
    split at heq
    next hc => exact absurd (List.cons.inj hc).1 ds.first_ne.1
    next hc => exact absurd (List.cons.inj hc).1 ds.first_ne.2
    next =>
      cases heq
      simp only [ds.first_isDigit, if_true]
      rw [← List.cons_append, htake, exponentValue]

/-- **The exponent** of a numeral is read in the same way whatever follows. -/
theorem lexExponent_chars (e : Exponent) : ∃ positive, ∀ after, NoDigit after →
    lexExponent (e.sign.toList ++ (e.digits.chars ++ after)) =
      .ok (positive, exponentValue e.digits.chars) := by
  have htake (after : List Char) (h : NoDigit after) := takeWhile_digits e.digits.digits h
  rcases sign_cases e.isSign with hs | hs | hs
  · exact ⟨true, fun after h => by rw [hs]; exact lexExponent_unsigned e.digits h⟩
  · refine ⟨true, fun after h => ?_⟩
    simp only [hs, Option.toList_some, List.nil_append, lexExponent, Digits.chars,
      List.cons_append, e.digits.first_isDigit, if_true]
    rw [← List.cons_append, htake after h, exponentValue]
  · refine ⟨false, fun after h => ?_⟩
    simp only [hs, Option.toList_some, List.nil_append, lexExponent, Digits.chars,
      List.cons_append, e.digits.first_isDigit, if_true]
    rw [← List.cons_append, htake after h, exponentValue]

theorem afterDigits_exponent (e : Option Exponent) (significand : Nat) (expo : Int)
    {after : List Char} (h : Ends after) :
    afterDigits significand expo (exponentChars e ++ after) =
      afterDigits significand expo (exponentChars e) := by
  cases e with
  | none =>
    cases after with
    | nil => rfl
    | cons c rest =>
      obtain ⟨-, -, he, hE⟩ := h c rfl
      simp [exponentChars, afterDigits, he, hE]
  | some e =>
    obtain ⟨positive, hread⟩ := lexExponent_chars e
    have hall := hread after h.noDigit
    have halone := hread [] ends_nil.noDigit
    rw [List.append_nil] at halone
    rw [exponentChars, Option.elim_some, Exponent.chars, List.cons_append, List.append_assoc]
    rcases e.isLetter with hl | hl <;>
      rw [hl, afterDigits, afterDigits, withExponent, withExponent, hall, halone]

/-- **The tail** of a numeral is read in the same way whatever follows. -/
theorem Numeral.readReal_tail (n : Numeral) (significand : Nat) (expo : Int) {after : List Char}
    (h : Ends after) :
    readReal significand expo (n.tail ++ after) = readReal significand expo n.tail := by
  simp only [tail, List.append_assoc]
  cases n.fraction with
  | none =>
    have hread (after : List Char) (h : Ends after) :
        readReal significand expo (exponentChars n.exponent ++ after) =
          afterDigits significand expo (exponentChars n.exponent ++ after) := by
      have hpoint := point_exponent n.exponent h
      generalize exponentChars n.exponent ++ after = cs at hpoint
      cases cs with
      | nil => rfl
      | cons c rest =>
        have hc : c ≠ '.' := hpoint c rfl
        simp [readReal, hc]
    have halone := hread [] ends_nil
    rw [List.append_nil] at halone
    rw [Option.elim_none, List.nil_append, List.nil_append, hread after h, halone,
      afterDigits_exponent n.exponent significand expo h]
  | some ds =>
    obtain ⟨s, count, left, hleft, htake⟩ := takeDigits_append ds.chars ds.digits significand 0
    have hread (after : List Char) (h : Ends after) :
        readReal significand expo ('.' :: (ds.chars ++ (exponentChars n.exponent ++ after))) =
          if count = 0 then afterDigits significand expo (exponentChars n.exponent ++ after)
          else afterDigits s (expo - count) (exponentChars n.exponent ++ after) := by
      have hdigit := noDigit_exponent n.exponent h
      have hdrop := dropWhile_digits ds.digits hdigit
      have hdrop' := dropWhile_digits hleft hdigit
      have htaken := htake _ hdigit
      rw [List.cons_append] at hdrop
      rw [Digits.chars, List.cons_append] at htaken ⊢
      simp only [readReal, withFraction, ds.first_isDigit, if_true, htaken, hdrop, hdrop']
    have halone := hread [] ends_nil
    rw [List.append_nil] at halone
    simp only [Option.elim_some, List.cons_append, hread after h, halone,
      afterDigits_exponent n.exponent _ _ h]

theorem Numeral.finishNumber_tail (n : Numeral) (positive : Bool) (whole : Nat)
    {after : List Char} (h : Ends after) :
    finishNumber positive whole (n.tail ++ after) = finishNumber positive whole n.tail := by
  have hreal := n.readReal_tail whole 0 h
  cases htail : n.tail with
  | nil =>
    cases after with
    | nil => rfl
    | cons c rest =>
      obtain ⟨-, hpoint, he, hE⟩ := h c rfl
      simp [finishNumber, hpoint, he, hE]
  | cons c rest =>
    rw [htail, List.cons_append] at hreal
    rw [List.cons_append]
    by_cases hletter : c = '.' ∨ c = 'e' ∨ c = 'E'
    · rcases hletter with rfl | rfl | rfl <;> simp only [finishNumber, hreal]
    · obtain ⟨hpoint, he, hE⟩ : c ≠ '.' ∧ c ≠ 'e' ∧ c ≠ 'E' := by simpa using hletter
      simp [finishNumber, hpoint, he, hE]

/-- How a number goes on after its digits before the point. -/
theorem Numeral.readNumber_whole (n : Numeral) (positive : Bool) :
    ∃ whole left : Nat, ∀ cs, NoDigit cs → readNumber positive (n.whole.chars ++ cs) =
      if left = 0 then finishNumber positive whole cs
      else realNumber positive (readReal whole left cs) := by
  by_cases hzero : n.whole.first = '0'
  · refine ⟨0, 0, fun cs h => ?_⟩
    rw [Digits.chars, hzero, n.plainZero hzero]
    cases cs with
    | nil => rfl
    | cons c rest =>
      have hc : isDigit c = false := h c rfl
      simp [readNumber, hc]
  · obtain ⟨whole, count, left, hleft, htake⟩ := takeDigits_append n.whole.chars n.whole.digits 0 0
    refine ⟨whole, left.length, fun cs h => ?_⟩
    have htaken := htake cs h
    have hmore := takeWhile_digits hleft h
    have hrest := dropWhile_digits hleft h
    rw [Digits.chars, List.cons_append] at htaken ⊢
    cases left with
    | nil =>
      rw [List.nil_append] at htaken
      cases cs with
      | nil => simp only [readNumber, n.whole.first_isDigit, htaken, if_true, List.length_nil]
      | cons c rest => simp [readNumber, n.whole.first_isDigit, htaken, h c rfl]
    | cons d left =>
      rw [List.cons_append] at htaken hmore hrest
      simp [readNumber, n.whole.first_isDigit, htaken, hleft d List.mem_cons_self, hmore, hrest]

/-- **A numeral** is read in the same way whatever follows. -/
theorem Numeral.readNumber_body (n : Numeral) (positive : Bool) {after : List Char}
    (h : Ends after) : readNumber positive (n.body ++ after) = readNumber positive n.body := by
  obtain ⟨whole, left, hread⟩ := n.readNumber_whole positive
  have halone := hread n.tail (by simpa using n.noDigit_tail ends_nil)
  rw [body, List.append_assoc, hread _ (n.noDigit_tail h), halone,
    n.finishNumber_tail positive whole h, n.readReal_tail whole left h]

/-! ## Cutting into tokens -/

theorem isSpace_digit {c : Char} (h : isDigit c) : isSpace c = false := by
  by_contra hc
  rcases space_cases (Bool.not_eq_false _ ▸ hc) with rfl | rfl | rfl | rfl <;> cases h

theorem lexOne_digit {c : Char} (h : isDigit c) (rest : List Char) :
    lexOne c rest = lexNumber true (c :: rest) := by
  unfold lexOne
  split <;> first | cases h | simp [h]

theorem length_le_pieces (ps : List Piece) : ps.length ≤ (ps.flatMap Piece.chars).length := by
  induction ps with
  | nil => simp
  | cons p ps ih =>
    have hp : 0 < p.chars.length := by cases p <;> simp [Piece.chars]
    rw [List.flatMap_cons, List.length_append, List.length_cons]
    omega

/-- The tokens that some characters begin with, and the characters after them. -/
structure Cuts (cs : List Char) (ts : List Token) (after : List Char) : Prop where
  length : ts.length + after.length ≤ cs.length
  cut : ∀ fuel, lexFrom (ts.length + fuel) cs = ts ++ lexFrom fuel after

namespace Cuts

variable {cs cs' after : List Char} {ts ts' : List Token}

theorem trans (h : Cuts cs ts cs') (h' : Cuts cs' ts' after) : Cuts cs (ts ++ ts') after := by
  refine ⟨?_, fun fuel => ?_⟩
  · have := h.length
    have := h'.length
    rw [List.length_append]
    omega
  · rw [List.length_append, Nat.add_assoc, h.cut, h'.cut, List.append_assoc]

/-- Blanks are passed over. -/
theorem gap (gap : Gap) (h : Cuts cs ts after) : Cuts (gap.chars ++ cs) ts after := by
  refine ⟨?_, fun fuel => ?_⟩
  · have := h.length
    rw [List.length_append]
    omega
  · rw [← h.cut]
    cases ts.length + fuel with
    | zero => rfl
    | succ k => rw [lexFrom, lexFrom, List.dropWhile_append_of_pos gap.blank]

theorem nil (cs : List Char) : Cuts cs [] cs := ⟨by simp, fun fuel => by simp⟩

/-- One token. -/
theorem one {c : Char} {token : Token} (hc : isSpace c = false)
    (h : lexOne c cs = (token, after)) (hlength : after.length ≤ cs.length) :
    Cuts (c :: cs) [token] after := by
  refine ⟨by simp; omega, fun fuel => ?_⟩
  rw [List.length_singleton, Nat.add_comm, lexFrom, List.dropWhile_cons_of_neg (by simp [hc])]
  simp only [h, List.singleton_append]

theorem listStart : Cuts ('[' :: cs) [.listStart] cs := one rfl rfl (Nat.le_refl _)
theorem listEnd : Cuts (']' :: cs) [.listEnd] cs := one rfl rfl (Nat.le_refl _)
theorem recordStart : Cuts ('\x7b' :: cs) [.recordStart] cs := one rfl rfl (Nat.le_refl _)
theorem recordEnd : Cuts ('\x7d' :: cs) [.recordEnd] cs := one rfl rfl (Nat.le_refl _)
theorem comma : Cuts (',' :: cs) [.comma] cs := one rfl rfl (Nat.le_refl _)
theorem colon : Cuts (':' :: cs) [.colon] cs := one rfl rfl (Nat.le_refl _)

theorem word (w : Word) : Cuts (wordChars w ++ cs) [.word (.ok w)] cs := by
  cases w
  · exact one rfl rfl (by simp; omega)
  · exact one rfl rfl (by simp; omega)
  · exact one rfl rfl (by simp; omega)

theorem text (ps : List Piece) :
    Cuts (pieceChars ps ++ cs) [.text (readPieces ps) (.ok ())] cs := by
  rw [pieceChars, List.cons_append, List.append_assoc, List.singleton_append]
  refine one rfl ?_ (by simp; omega)
  have hlength : ps.length < (ps.flatMap Piece.chars ++ '"' :: cs).length + 1 := by
    have := length_le_pieces ps
    rw [List.length_append]
    omega
  have hskip := skipText_pieces ps cs hlength
  have hread := readText_pieces ps [] cs [] hlength (Nat.lt_succ_self _)
  simp only [lexOne, lexText, hskip, hread, readPieces]

theorem number (n : Numeral) (h : Ends cs) : Cuts (n.chars ++ cs) [.number n.read (.ok ())] cs := by
  have hlex (positive : Bool) : lexNumber positive (n.body ++ cs) =
      (.number (readNumber positive n.body) (.ok ()), cs) := by
    rw [lexNumber, n.skipNumber_body h, n.readNumber_body positive h]
  have hbody : n.body ++ cs = n.whole.first :: (n.whole.more ++ (n.tail ++ cs)) := by
    rw [Numeral.body, Digits.chars, List.append_assoc, List.cons_append]
  rw [Numeral.chars, Numeral.read, List.append_assoc]
  cases n.negative with
  | false =>
    rw [if_neg Bool.false_ne_true, List.nil_append, hbody]
    refine one (isSpace_digit n.whole.first_isDigit) ?_ (by simp; omega)
    rw [lexOne_digit n.whole.first_isDigit, ← hbody]
    exact hlex true
  | true =>
    rw [if_pos rfl, List.singleton_append]
    exact one rfl (hlex false) (by simp)

end Cuts

/-! ## The tokens of a written value -/

theorem Ends.gap_cons {c : Char} (h : isDigit c = false ∧ c ≠ '.' ∧ c ≠ 'e' ∧ c ≠ 'E') (gap : Gap)
    (cs : List Char) : Ends (gap.chars ++ c :: cs) := (ends_cons h cs).after gap

mutual

/-- **A written value** is cut into the tokens of its tree. -/
theorem Written.cuts (w : Written) {after : List Char} (h : Ends after) :
    Cuts (w.chars ++ after) w.tree.tokens after := by
  cases w with
  | word w => exact .word w
  | number n => exact .number n h
  | text ps => exact .text ps
  | list items gap =>
    have hitems := items_cut items true gap after
    rw [Written.chars, Written.tree, Tree.tokens, List.cons_append, List.append_assoc,
      List.append_assoc, List.singleton_append]
    exact .trans .listStart hitems
  | record members gap =>
    have hmembers := members_cut members true gap after
    rw [Written.chars, Written.tree, Tree.tokens, List.cons_append, List.append_assoc,
      List.append_assoc, List.singleton_append]
    exact .trans .recordStart hmembers
  | spaced before w gap =>
    have hw := w.cuts (h.after gap)
    rw [Written.chars, Written.tree, List.append_assoc, List.append_assoc]
    have hall := hw.trans (.gap gap (.nil after))
    rw [List.append_nil] at hall
    exact .gap before hall

theorem items_cut (ws : List Written) (first : Bool) (gap : Gap) (after : List Char) :
    Cuts (itemChars first ws ++ (gap.chars ++ ']' :: after))
      (itemTokens first (itemTrees ws) ++ [.listEnd]) after := by
  cases ws with
  | nil => exact .gap gap .listEnd
  | cons w ws =>
    have hrest := items_cut ws false gap after
    have hends : Ends (itemChars false ws ++ (gap.chars ++ ']' :: after)) := by
      cases ws with
      | nil => exact Ends.gap_cons (by decide) gap after
      | cons w ws => exact ends_cons (by decide) _
    have hall := (w.cuts hends).trans hrest
    rw [itemChars, itemTrees, itemTokens]
    simp only [List.append_assoc] at hall ⊢
    cases first with
    | true => exact hall
    | false => exact .trans .comma hall

theorem members_cut (ms : List (Name × Written)) (first : Bool) (gap : Gap) (after : List Char) :
    Cuts (memberChars first ms ++ (gap.chars ++ '\x7d' :: after))
      (memberTokens first (memberTrees ms) ++ [.recordEnd]) after := by
  cases ms with
  | nil => exact .gap gap .recordEnd
  | cons m ms =>
    obtain ⟨name, w⟩ := m
    have hrest := members_cut ms false gap after
    have hends : Ends (memberChars false ms ++ (gap.chars ++ '\x7d' :: after)) := by
      cases ms with
      | nil => exact Ends.gap_cons (by decide) gap after
      | cons m ms => exact ends_cons (by decide) _
    have hvalue := (w.cuts hends).trans hrest
    have hall := Cuts.gap name.before ((Cuts.text name.pieces).trans
      (.gap name.after (Cuts.trans .colon hvalue)))
    rw [memberChars, memberTrees, memberTokens]
    simp only [List.append_assoc, List.cons_append, List.nil_append] at hall ⊢
    cases first with
    | true => exact hall
    | false => exact .trans .comma hall

end

/-- **The tokens** of a written text are those of its tree. -/
theorem Written.lex_asText (w : Written) : lex w.asText = w.tree.tokens := by
  have hcuts := w.cuts ends_nil
  rw [List.append_nil] at hcuts
  have hlength := hcuts.length
  obtain ⟨fuel, hfuel⟩ : ∃ k, w.chars.length + 1 = w.tree.tokens.length + (k + 1) :=
    ⟨w.chars.length - w.tree.tokens.length, by simp at hlength; omega⟩
  rw [lex, asText, String.length_ofList, String.toList_ofList, hfuel, hcuts.cut]
  simp [lexFrom]

/-- **A written text** is decoded as its tree. -/
theorem Written.decodeText_asText {α : Type} {d : Decoder α} (h : Local d) (w : Written) :
    decodeText d w.asText = onTree d maxDepth w.tree := decodeText_of_lex h w.lex_asText

end RuleScan.Json
