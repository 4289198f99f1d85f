import RuleScan.Proofs.Session.Misuse
import RuleScan.Proofs.Text.Splitting

/-!
# Lists of paths

A list of paths is a text with semicolons between the paths. What stands between two semicolons is
a path with blanks on either side or has nothing but blanks (`Padded`), so that the paths can be
read back from any text that they were joined to (`splitPaths_eq_ok_iff`). Two lists joined by a
semicolon are the paths of the one and then those of the other (`splitPaths_join`): adding the files
of both is to add those of the first and, unless one of these is refused, those of the second. The
main result is `path_lists`.
-/

namespace RuleScan.Session

open Text

variable {κ β α : Type}

/-! ## Segments -/

theorem segments_join (s t : String) : segments (s ++ ";" ++ t) = segments s ++ segments t :=
  splitOn_append ';' s t

/-- What is joined has no semicolon of its own. -/
theorem segments_intercalate {parts : List String} (h : ∀ part ∈ parts, ';' ∉ part.toList)
    (hne : parts ≠ []) : segments (";".intercalate parts) = parts :=
  splitOn_intercalate ';' h hne

theorem intercalate_segments (s : String) : ";".intercalate (segments s) = s :=
  intercalate_splitOn ';' s

theorem notMem_of_mem_segments {s part : String} (h : part ∈ segments s) : ';' ∉ part.toList := by
  have hparts : segments s = (s.toList.splitOn ';').map .ofList := splitOn_singleton ';' s
  rw [hparts, List.mem_map] at h
  obtain ⟨cs, hcs, rfl⟩ := h
  rw [String.toList_ofList]
  exact notMem_of_mem_splitOn hcs

theorem hasNoPath_iff {list : String} :
    hasNoPath list = true ↔ ∀ segment ∈ segments list, isBlankText segment = true := by
  rw [hasNoPath, List.all_eq_true]
  exact forall₂_congr fun _ _ => by rw [decide_eq_true_iff, trim_eq_empty_iff]

theorem hasNoPath_eq_false_iff {list : String} :
    hasNoPath list = false ↔ ∃ segment ∈ segments list, isBlankText segment = false := by
  rw [← Bool.not_eq_true, hasNoPath_iff]
  simp

/-! ## Paths with blanks around them -/

/-- A path as it can be given in a list: blanks are not part of it at either end, and semicolons
nowhere. -/
structure Listable (path : String) : Prop where
  ne_empty : path ≠ ""
  noSemicolon : ';' ∉ path.toList
  bare : Bare path

/-- Paths, each with blanks on either side, and among them any number of segments that have nothing
but blanks. -/
inductive Padded : List String → List String → Prop
  | nil : Padded [] []
  | blank {paths segments : List String} {segment : String}
      (h : isBlankText segment = true) (rest : Padded paths segments) :
      Padded paths (segment :: segments)
  | path {paths segments : List String} (before path after : String)
      (hbefore : isBlankText before = true) (hafter : isBlankText after = true)
      (rest : Padded paths segments) :
      Padded (path :: paths) ((before ++ path ++ after) :: segments)

/-- What is kept of segments: what trimming leaves of them, where it leaves anything. -/
def trimmed (segments : List String) : List String := (segments.map trim).filter (· ≠ "")

theorem isBlank_semicolon : Unicode.isBlank ';' = false := by decide

theorem notMem_of_isBlankText {s : String} (h : isBlankText s = true) : ';' ∉ s.toList := by
  intro hmem
  have hblank := isBlankText_iff.1 h _ hmem
  rw [isBlank_semicolon] at hblank
  cases hblank

namespace Padded

variable {paths segments : List String}

/-- Segments are the paths that are kept of them, with blanks. -/
theorem of_trimmed (segments : List String) : Padded (trimmed segments) segments := by
  induction segments with
  | nil => exact .nil
  | cons segment rest ih =>
    rw [trimmed, List.map_cons, List.filter_cons]
    by_cases h : trim segment = ""
    · rw [if_neg (by simpa using h)]
      exact ih.blank (trim_eq_empty_iff.1 h)
    · rw [if_pos (by simpa using h)]
      obtain ⟨before, after, hbefore, hafter, hsegment⟩ := exists_pad segment
      have hpadded := ih.path before (trim segment) after hbefore hafter
      rw [← hsegment] at hpadded
      exact hpadded

theorem trimmed_eq (h : Padded paths segments) (hpaths : ∀ path ∈ paths, Listable path) :
    trimmed segments = paths := by
  induction h with
  | nil => rfl
  | blank hblank _ ih =>
    rw [trimmed, List.map_cons, trim_of_isBlankText hblank]
    exact ih hpaths
  | path before path after hbefore hafter _ ih =>
    obtain ⟨hpath, hrest⟩ := List.forall_mem_cons.1 hpaths
    rw [trimmed, List.map_cons, trim_pad hbefore hpath.bare hafter, List.filter_cons,
      if_pos (by simpa using hpath.ne_empty)]
    exact congrArg _ (ih hrest)

theorem notMem (h : Padded paths segments) (hpaths : ∀ path ∈ paths, Listable path) :
    ∀ segment ∈ segments, ';' ∉ segment.toList := by
  induction h with
  | nil => exact fun _ h => absurd h List.not_mem_nil
  | blank hblank _ ih =>
    exact List.forall_mem_cons.2 ⟨notMem_of_isBlankText hblank, ih hpaths⟩
  | path before path after hbefore hafter _ ih =>
    obtain ⟨hpath, hrest⟩ := List.forall_mem_cons.1 hpaths
    refine List.forall_mem_cons.2 ⟨?_, ih hrest⟩
    simp [notMem_of_isBlankText hbefore, notMem_of_isBlankText hafter, hpath.noSemicolon]

end Padded

/-- What is kept of a segment is part of it. -/
theorem listable_of_mem_trimmed {list path : String} (h : path ∈ trimmed (segments list)) :
    Listable path := by
  rw [trimmed, List.mem_filter, List.mem_map] at h
  obtain ⟨⟨segment, hmem, rfl⟩, hne⟩ := h
  refine ⟨by simpa using hne, fun hsemi => ?_, bare_trim segment⟩
  obtain ⟨before, after, -, -, hsegment⟩ := exists_pad segment
  refine notMem_of_mem_segments hmem ?_
  rw [hsegment]
  simp [hsemi]

theorem splitPaths_eq_ok {list : String} {paths : List String} :
    splitPaths list = .ok paths ↔ trimmed (segments list) = paths ∧ paths ≠ [] := by
  cases h : trimmed (segments list) with
  | nil =>
    rw [trimmed] at h
    rw [splitPaths, h]
    simp [eq_comm]
  | cons first rest =>
    rw [trimmed] at h
    rw [splitPaths, h, Except.ok.injEq, iff_self_and]
    rintro rfl
    exact List.cons_ne_nil _ _

/-- **The paths of a list are those that it was joined of**, whichever blanks were added. -/
theorem splitPaths_eq_ok_iff (list : String) (paths : List String) :
    splitPaths list = .ok paths ↔ paths ≠ [] ∧ (∀ path ∈ paths, Listable path) ∧
      ∃ segments, Padded paths segments ∧ list = ";".intercalate segments := by
  rw [splitPaths_eq_ok]
  constructor
  · rintro ⟨rfl, hne⟩
    exact ⟨hne, fun _ => listable_of_mem_trimmed, segments list, .of_trimmed _,
      (intercalate_segments list).symm⟩
  · rintro ⟨hne, hpaths, parts, hpadded, rfl⟩
    have hparts : parts ≠ [] := by
      rintro rfl
      cases hpadded
      exact hne rfl
    rw [segments_intercalate (hpadded.notMem hpaths) hparts]
    exact ⟨hpadded.trimmed_eq hpaths, hne⟩

theorem splitPaths_join {s t : String} {ps qs : List String} (hs : splitPaths s = .ok ps)
    (ht : splitPaths t = .ok qs) : splitPaths (s ++ ";" ++ t) = .ok (ps ++ qs) := by
  rw [splitPaths_eq_ok] at hs ht ⊢
  obtain ⟨rfl, hne⟩ := hs
  obtain ⟨rfl, -⟩ := ht
  rw [segments_join, trimmed, List.map_append, List.filter_append]
  exact ⟨rfl, List.append_ne_nil_of_left_ne_nil hne _⟩

/-! ## Adding the files of a list -/

variable (E : Engine κ β)

/-- Adding the files of a list is to add one path after the other. -/
theorem addFile_of_paths {list : String} {paths : List String} (h : splitPaths list = .ok paths) :
    addFile E list = (Action.forEach (addOneFile E) paths).bind fun _ => .pure () := by
  change (Action.ofExcept ((splitPaths list).mapError .input)).bind _ = _
  rw [h]
  rfl

theorem readPaths_eq {list : String} (h : hasNoPath list = true)
    (f : List String → Action (Session κ β) α) (s : Session κ β) :
    (Action.ofExcept ((splitPaths list).mapError .input)).bind f s =
      ⟨.error (.input (.noPaths list)), s, []⟩ := by
  rw [splitPaths_of_hasNoPath h]
  rfl

/-- Two lists that are joined are added one after the other. -/
theorem addFile_join {s t : String} (hs : hasNoPath s = false) (ht : hasNoPath t = false) :
    addFile E (s ++ ";" ++ t) = (addFile E s).bind fun _ => addFile E t := by
  obtain ⟨p, ps, hps⟩ := splitPaths_of_path hs
  obtain ⟨q, qs, hqs⟩ := splitPaths_of_path ht
  rw [addFile_of_paths E hps, addFile_of_paths E hqs, addFile_of_paths E (splitPaths_join hps hqs),
    Action.forEach_append, Action.bind_assoc, Action.bind_assoc]
  congr 1
  funext as
  rw [Action.bind_assoc]
  rfl

/-- **Lists of paths are put together by semicolons.** For every engine: to add the files of two
lists that are joined, each with a segment that is not blank, is to add those of the first and,
where that succeeds, those of the second, with the same reply, session and trace in every session;
a list is read as some paths exactly where it is these paths, at least one and each without
semicolons or blanks at its ends, joined with any blanks around them and any blank segments among
them; and a list that has only blank segments is refused before the session is looked at. -/
theorem path_lists :
    (∀ s t : String, (∃ segment ∈ segments s, isBlankText segment = false) →
      (∃ segment ∈ segments t, isBlankText segment = false) →
      addFile E (s ++ ";" ++ t) = (addFile E s).bind fun _ => addFile E t) ∧
    (∀ (list : String) (paths : List String), splitPaths list = .ok paths ↔
      paths ≠ [] ∧ (∀ path ∈ paths, Listable path) ∧
        ∃ segments, Padded paths segments ∧ list = ";".intercalate segments) ∧
    ∀ list : String, (∀ segment ∈ segments list, isBlankText segment = true) →
      ∀ s : Session κ β, addFile E list s = ⟨.error (.input (.noPaths list)), s, []⟩ ∧
        addFileWithNamespace E list s = ⟨.error (.input (.noPaths list)), s, []⟩ := by
  refine ⟨fun s t hs ht => ?_, splitPaths_eq_ok_iff, fun list hlist s => ?_⟩
  · exact addFile_join E (hasNoPath_eq_false_iff.2 hs) (hasNoPath_eq_false_iff.2 ht)
  · have hnone := hasNoPath_iff.2 hlist
    exact ⟨readPaths_eq hnone _ s, readPaths_eq hnone _ s⟩

/-- Paths that are joined with blanks, and two lists that are added after each other. -/
theorem padded_paths_read_back :
    splitPaths " a ;; b\t;" = .ok ["a", "b"] ∧
      addFile Scripted.engine ("a; b" ++ ";" ++ " c") =
        (addFile Scripted.engine "a; b").bind fun _ => addFile Scripted.engine " c" := by
  obtain ⟨hjoined, hsplit, -⟩ := path_lists Scripted.engine
  have hspace : isBlankText " " = true := by decide
  have htab : isBlankText "\t" = true := by decide
  have hab : "a; b" = ";".intercalate ["a", " b"] := by decide
  have ha : "a" ∈ segments "a; b" := by
    rw [hab, segments_intercalate (by decide) (List.cons_ne_nil _ _)]
    exact List.mem_cons_self
  have hc : " c" ∈ segments " c" := by
    have hpart : segments (";".intercalate [" c"]) = [" c"] :=
      segments_intercalate (by decide) (List.cons_ne_nil _ _)
    exact hpart ▸ List.mem_cons_self
  constructor
  · refine (hsplit _ _).2 ⟨List.cons_ne_nil _ _, ?_,
      [" " ++ "a" ++ " ", "", " " ++ "b" ++ "\t", ""], ?_, by decide⟩
    · exact List.forall_mem_cons.2 ⟨⟨by decide, by decide, bare_iff.2 (by decide)⟩,
        List.forall_mem_singleton.2 ⟨by decide, by decide, bare_iff.2 (by decide)⟩⟩
    · exact .path " " "a" " " hspace hspace <| .blank rfl <| .path " " "b" "\t" hspace htab <|
        .blank rfl .nil
  · exact hjoined _ _ ⟨"a", ha, by decide⟩ ⟨" c", hc, by decide⟩

end RuleScan.Session
