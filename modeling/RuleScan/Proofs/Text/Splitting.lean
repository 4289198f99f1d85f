import Mathlib
import RuleScan.Text.Blank

/-!
# Splitting and trimming

A text is split at a character by going over its positions; the parts are those of the list of its
characters (`splitOn_singleton`), so that splitting a joined text is splitting the texts that were
joined. Trimming takes blanks off both ends of a text and stops at the first character that is none
(`trim_pad`, `exists_pad`).
-/

namespace RuleScan.Text

open RuleScan.Unicode

/-! ## Splitting -/

section

open String

variable (c : Char)

theorem get_separator : Pos.Raw.get (ofList [c]) 0 = c := get_of_valid [] [c]

theorem next_separator : Pos.Raw.next (ofList [c]) 0 = ⟨utf8Len [c]⟩ := by
  have hnext : Pos.Raw.next (ofList [c]) 0 = ⟨0 + c.utf8Size⟩ := next_of_valid [] c []
  rw [hnext]
  simp

theorem atEnd_of_valid (l r : List Char) :
    Pos.Raw.atEnd (ofList (l ++ r)) ⟨utf8Len l⟩ = true ↔ r = [] := by
  rw [atEnd_iff, rawEndPos_ofList, Pos.Raw.mk_le_mk, utf8Len_append, ← utf8Len_eq_zero]
  omega

/-- The parts that are found from a position on, where the part that it lies in began before. -/
theorem splitOnAux_of_valid (l m r : List Char) (acc : List String) :
    splitOnAux (ofList (l ++ m ++ r)) (ofList [c]) ⟨utf8Len l⟩ ⟨utf8Len (l ++ m)⟩ 0 acc =
      acc.reverse ++ (List.splitOnPPrepend (· == c) r m.reverse).map ofList := by
  induction r generalizing l m acc with
  | nil =>
    have hextract := extract_of_valid l m []
    rw [← utf8Len_append] at hextract
    rw [splitOnAux, if_pos ((atEnd_of_valid _ _).2 rfl), hextract, List.splitOnPPrepend_nil,
      List.reverse_reverse, List.reverse_cons]
    rfl
  | cons x r ih =>
    have hextract := extract_of_valid l m (x :: r)
    rw [← utf8Len_append] at hextract
    have hnext : Pos.Raw.next (ofList (l ++ m ++ x :: r)) ⟨utf8Len (l ++ m)⟩ =
        ⟨utf8Len (l ++ m ++ [x])⟩ := by
      rw [next_of_valid, utf8Len_append _ [x]]
      simp
    have hback : (⟨utf8Len (l ++ m ++ [x])⟩ : Pos.Raw).unoffsetBy ⟨utf8Len [x]⟩ =
        ⟨utf8Len (l ++ m)⟩ := by
      rw [Pos.Raw.unoffsetBy, utf8Len_append _ [x], Nat.add_sub_cancel]
    have hstay : (⟨utf8Len (l ++ m)⟩ : Pos.Raw).unoffsetBy 0 = ⟨utf8Len (l ++ m)⟩ := rfl
    have hlist : l ++ m ++ x :: r = l ++ m ++ [x] ++ r := by simp
    rw [splitOnAux, if_neg fun h => List.cons_ne_nil _ _ ((atEnd_of_valid _ _).1 h),
      get_of_valid (l ++ m), List.headD_cons, get_separator, hnext, hstay, hnext,
      List.splitOnPPrepend_cons_eq_if, List.reverse_reverse]
    by_cases hx : x = c
    · subst hx
      -- a part ends here, and the next one begins behind the separator
      have hend : Pos.Raw.atEnd (ofList [x]) ⟨utf8Len [x]⟩ = true :=
        (atEnd_of_valid [x] []).2 rfl
      have hrest := ih (l ++ m ++ [x]) [] (ofList m :: acc)
      rw [List.append_nil] at hrest
      simp only [beq_self_eq_true, if_true, next_separator, hend, hback, hextract]
      rw [hlist, hrest]
      simp
    · have hne : ¬(x == c) = true := by simpa using hx
      have hrest := ih l (m ++ [x]) acc
      rw [if_neg hne, if_neg hne, hlist, List.append_assoc l m [x], hrest, List.reverse_append]
      rfl

/-- **Splitting a text at a character** is to split the list of its characters. -/
theorem splitOn_singleton (s : String) :
    s.splitOn (ofList [c]) = (s.toList.splitOn c).map ofList := by
  have hne : ¬(ofList [c] == "") = true := by simp
  have h := splitOnAux_of_valid c [] [] s.toList []
  rw [String.splitOn, if_neg hne]
  simpa [List.splitOn] using h

theorem splitOn_append (s t : String) :
    (s ++ ofList [c] ++ t).splitOn (ofList [c]) =
      s.splitOn (ofList [c]) ++ t.splitOn (ofList [c]) := by
  have htext : (s ++ ofList [c] ++ t).toList = s.toList ++ c :: t.toList := by simp
  rw [splitOn_singleton, splitOn_singleton, splitOn_singleton, htext,
    List.splitOn_append_cons_self, List.map_append]

/-- Texts without the separator are had back from where they were joined. -/
theorem splitOn_intercalate {ts : List String} (h : ∀ t ∈ ts, c ∉ t.toList) (hne : ts ≠ []) :
    ((ofList [c]).intercalate ts).splitOn (ofList [c]) = ts := by
  have htext : ((ofList [c]).intercalate ts).toList = [c].intercalate (ts.map toList) := by simp
  have hparts : ∀ l ∈ ts.map toList, c ∉ l := by simpa using h
  rw [splitOn_singleton, htext, List.splitOn_intercalate c hparts (by simpa using hne),
    List.map_map]
  exact List.map_id'' (fun t => ofList_toList) ts

/-- Joining the parts of a text gives it back. -/
theorem intercalate_splitOn (s : String) :
    (ofList [c]).intercalate (s.splitOn (ofList [c])) = s := by
  rw [← toList_inj, toList_intercalate, splitOn_singleton, List.map_map, toList_ofList]
  have hid : (s.toList.splitOn c).map (toList ∘ ofList) = s.toList.splitOn c :=
    List.map_id'' (fun l => toList_ofList) _
  rw [hid]
  exact List.intercalate_splitOn c

end

theorem notMem_of_mem_splitOn {c : Char} {cs part : List Char} (h : part ∈ cs.splitOn c) :
    c ∉ part := by
  induction cs generalizing part with
  | nil =>
    rw [List.splitOn_nil, List.mem_singleton] at h
    rw [h]
    exact List.not_mem_nil
  | cons x cs ih =>
    rw [List.splitOn_cons_eq_if_modifyHead] at h
    split at h
    · rcases List.mem_cons.1 h with rfl | h
      · exact List.not_mem_nil
      · exact ih h
    · next hx =>
      obtain ⟨first, rest, hsplit⟩ := List.exists_cons_of_ne_nil (List.splitOn_ne_nil c cs)
      rw [hsplit, List.modifyHead_cons] at h
      rcases List.mem_cons.1 h with rfl | h
      · have hfirst := ih (hsplit ▸ List.mem_cons_self)
        rintro (_ | ⟨_, hmem⟩)
        · exact hx (beq_self_eq_true _)
        · exact hfirst hmem
      · exact ih (hsplit ▸ List.mem_cons_of_mem _ h)

/-! ## Trimming -/

/-- A text that neither begins nor ends with a blank. -/
def Bare (s : String) : Prop :=
  (∀ c ∈ s.toList.head?, isBlank c = false) ∧ ∀ c ∈ s.toList.getLast?, isBlank c = false

theorem isBlankText_iff {s : String} : isBlankText s = true ↔ ∀ c ∈ s.toList, isBlank c = true :=
  List.all_eq_true

theorem isBlankText_append {s t : String} (hs : isBlankText s = true) (ht : isBlankText t = true) :
    isBlankText (s ++ t) = true := by
  rw [isBlankText, String.toList_append, List.all_append]
  exact Bool.and_eq_true_iff.2 ⟨hs, ht⟩

/-- Dropping stops at once before a character that is no blank. -/
theorem dropWhile_of_head? {cs : List Char} (h : ∀ c ∈ cs.head?, isBlank c = false) :
    cs.dropWhile isBlank = cs := by
  cases cs with
  | nil => rfl
  | cons c rest => exact List.dropWhile_cons_of_neg (by simp [h c rfl])

theorem trimChars_eq (cs : List Char) :
    trimChars cs = (cs.dropWhile isBlank).rdropWhile isBlank := rfl

theorem trim_of_isBlankText {s : String} (h : isBlankText s = true) : trim s = "" := by
  rw [trim, trimChars_eq, List.dropWhile_eq_nil_iff.2 (isBlankText_iff.1 h), List.rdropWhile_nil,
    String.ofList_nil]

/-- **Blanks around a text do not count**, unless they are all there is. -/
theorem trim_pad {before path after : String} (hbefore : isBlankText before = true)
    (hpath : Bare path) (hafter : isBlankText after = true) :
    trim (before ++ path ++ after) = path := by
  by_cases hempty : path = ""
  · rw [hempty, String.append_empty]
    exact trim_of_isBlankText (isBlankText_append hbefore hafter)
  · obtain ⟨c, rest, hcs⟩ : ∃ c rest, path.toList = c :: rest :=
      List.exists_cons_of_ne_nil (by simpa using hempty)
    have hfront : ((before ++ path ++ after).toList).dropWhile isBlank =
        path.toList ++ after.toList := by
      rw [String.toList_append, String.toList_append, List.append_assoc,
        List.dropWhile_append_of_pos (isBlankText_iff.1 hbefore)]
      have hfirst := hpath.1
      rw [hcs] at hfirst ⊢
      exact dropWhile_of_head? hfirst
    have hback : (path.toList ++ after.toList).reverse.dropWhile isBlank = path.toList.reverse := by
      rw [List.reverse_append, List.dropWhile_append_of_pos fun c hc =>
        isBlankText_iff.1 hafter c (List.mem_reverse.1 hc)]
      refine dropWhile_of_head? ?_
      rw [List.head?_reverse]
      exact hpath.2
    rw [trim, trimChars, hfront, hback, List.reverse_reverse, String.ofList_toList]

/-- What trimming leaves neither begins nor ends with a blank. -/
theorem bare_trim (s : String) : Bare (trim s) := by
  have hstop (cs : List Char) : ∀ c ∈ (cs.dropWhile isBlank).head?, isBlank c = false := by
    intro c hc
    have h := List.head?_dropWhile_not isBlank cs
    rw [Option.mem_def.1 hc] at h
    exact h
  rw [Bare, trim, String.toList_ofList, trimChars_eq]
  constructor
  · -- what the second step leaves is a beginning of what the first one left
    intro c hc
    obtain ⟨rest, hrest⟩ := List.rdropWhile_prefix isBlank (s.toList.dropWhile isBlank)
    have hfirst := hstop s.toList
    rw [← hrest, List.head?_append, Option.mem_def.1 hc] at hfirst
    exact hfirst c rfl
  · rw [List.rdropWhile, List.getLast?_reverse]
    exact hstop _

theorem bare_iff {s : String} : Bare s ↔ trim s = s := by
  constructor
  · intro h
    have hpad : trim ("" ++ s ++ "") = s := trim_pad rfl h rfl
    rwa [String.append_empty, String.empty_append] at hpad
  · intro h
    exact h ▸ bare_trim s

/-- A text is what trimming leaves of it, with blanks on either side. -/
theorem exists_pad (s : String) : ∃ before after, isBlankText before = true ∧
    isBlankText after = true ∧ s = before ++ trim s ++ after := by
  refine ⟨.ofList (s.toList.takeWhile isBlank),
    .ofList ((s.toList.dropWhile isBlank).rtakeWhile isBlank), ?_, ?_, ?_⟩
  · rw [isBlankText_iff, String.toList_ofList]
    exact fun c hc => List.mem_takeWhile_imp hc
  · rw [isBlankText_iff, String.toList_ofList]
    exact fun c hc => List.mem_rtakeWhile_imp hc
  · rw [← String.toList_inj, String.toList_append, String.toList_append, trim, trimChars_eq,
      String.toList_ofList, String.toList_ofList, String.toList_ofList, List.append_assoc,
      List.rdropWhile_append_rtakeWhile, List.takeWhile_append_dropWhile]

theorem trim_eq_empty_iff {s : String} : trim s = "" ↔ isBlankText s = true := by
  refine ⟨fun h => ?_, trim_of_isBlankText⟩
  obtain ⟨before, after, hbefore, hafter, hs⟩ := exists_pad s
  rw [hs, h, String.append_empty]
  exact isBlankText_append hbefore hafter

end RuleScan.Text
