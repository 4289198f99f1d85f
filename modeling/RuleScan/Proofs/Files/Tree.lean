import Mathlib
import RuleScan.Files.Basic

/-!
# What stands where in a tree of files

`Node.look` says what stands at a list of names: a file with its bytes, a directory, or nothing.
Putting something into a directory and taking it away change what stands at its names and below, and
nothing else (`look_put`, `look_erase`). Whatever stands somewhere stands in directories
(`look_of_isSome_append`), so that nothing stands below a file, and for files and new directories
these become equations at a single list of names.
-/

namespace RuleScan

/-- What stands somewhere in a tree, without what stands below it. -/
inductive Entry
  | file (data : ByteArray)
  | dir
  deriving DecidableEq

namespace Node

/-- A file or a directory as an entry. -/
def entry : Node → Entry
  | file data => .file data
  | dir _ => .dir

/-- What stands at a list of names. -/
def look (n : Node) (names : List String) : Option Entry := (n.get? names).map entry

theorem get?_append (n : Node) (above below : List String) :
    n.get? (above ++ below) = (n.get? above).bind (·.get? below) := by
  induction above generalizing n with
  | nil => rfl
  | cons name rest ih =>
    rw [List.cons_append, get?, get?, Option.bind_assoc]
    exact congrArg _ (funext ih)

@[simp] theorem look_nil (n : Node) : n.look [] = some n.entry := rfl

theorem look_cons (n : Node) (name : String) (rest : List String) :
    n.look (name :: rest) = (n.child? name).bind (·.look rest) := by
  rw [look, get?, Option.map_bind]
  rfl

@[simp] theorem look_file_cons (data : ByteArray) (name : String) (rest : List String) :
    (file data).look (name :: rest) = none := rfl

theorem look_append (n : Node) (above below : List String) :
    n.look (above ++ below) = (n.get? above).bind (·.look below) := by
  rw [look, get?_append, Option.map_bind]
  rfl

/-- What stands below some names stands in a directory. -/
theorem look_of_isSome_append {n : Node} {above : List String} {name : String}
    {below : List String} (h : (n.look (above ++ name :: below)).isSome) :
    n.look above = some .dir := by
  rw [look_append] at h
  obtain ⟨e, he⟩ := Option.isSome_iff_exists.1 h
  obtain ⟨m, hm, hbelow⟩ := Option.bind_eq_some_iff.1 he
  rw [look, hm]
  cases m with
  | file data => cases hbelow
  | dir entries => rfl

theorem look_above {n : Node} {above names : List String} (h : above <+: names)
    (hne : above ≠ names) (hsome : (n.look names).isSome) : n.look above = some .dir := by
  obtain ⟨below, rfl⟩ := h
  cases below with
  | nil => exact absurd (List.append_nil above).symm hne
  | cons name below => exact look_of_isSome_append hsome

/-- Nothing stands below what is no directory. -/
theorem look_below {n : Node} {names below : List String} (hdir : n.look names ≠ some .dir)
    (h : names <+: below) (hne : names ≠ below) : n.look below = none := by
  by_contra hsome
  exact hdir (look_above h hne (Option.isSome_iff_ne_none.2 hsome))

theorem eq_dir_of_look {n : Node} {names : List String} (h : n.look names = some .dir) :
    ∃ entries, n.get? names = some (dir entries) := by
  obtain ⟨m, hm, he⟩ := Option.map_eq_some_iff.1 h
  cases m with
  | file data => cases he
  | dir entries => exact ⟨entries, hm⟩

theorem look_eq_file {n : Node} {names : List String} {data : ByteArray} :
    n.look names = some (.file data) ↔ n.get? names = some (file data) := by
  rw [look]
  rcases n.get? names with _ | ⟨other⟩ | entries <;> simp [entry]

/-! ## Putting -/

theorem child?_putEntry (name other : String) (c : Node) (entries : List (String × Node)) :
    (dir (putEntry name c entries)).child? other =
      if other = name then some c else (dir entries).child? other := by
  simp only [child?]
  induction entries with
  | nil => by_cases h : other = name <;> simp [putEntry, h, eq_comm]
  | cons e rest ih =>
    rw [putEntry]
    by_cases he : e.1 = name
    · rw [if_pos he]
      by_cases h : other = name
      · simp [h]
      · simp [h, he, Ne.symm h]
    · rw [if_neg he, List.find?_cons, List.find?_cons]
      by_cases h : e.1 = other
      · have hne : other ≠ name := fun ho => he (h.trans ho)
        simp [h, hne]
      · simpa [h] using ih

theorem put_singleton (entries : List (String × Node)) (name : String) (c : Node) :
    (dir entries).put [name] c = dir (putEntry name c entries) := by
  rw [put]

theorem put_cons {entries : List (String × Node)} {name : String} {old : Node}
    (h : (dir entries).child? name = some old) {rest : List String} (hrest : rest ≠ [])
    (c : Node) :
    (dir entries).put (name :: rest) c = dir (putEntry name (old.put rest c) entries) := by
  cases rest with
  | nil => exact absurd rfl hrest
  | cons next below => simp [put, h]

/-- **Putting** something into a directory changes what stands at its names and below. -/
theorem look_put {n : Node} {here : List String} (h : n.look here = some .dir) (name : String)
    (c : Node) (names : List String) :
    (n.put (here ++ [name]) c).look names =
      if here ++ [name] <+: names then c.look (names.drop (here.length + 1))
      else n.look names := by
  induction here generalizing n names with
  | nil =>
    obtain ⟨entries, hn⟩ := eq_dir_of_look h
    cases hn
    rw [List.nil_append, put_singleton]
    cases names with
    | nil => simp [entry]
    | cons other rest =>
      rw [look_cons, look_cons, child?_putEntry]
      by_cases ho : other = name
      · simp [ho]
      · simp [ho, Ne.symm ho]
  | cons first here ih =>
    obtain ⟨entries, hn⟩ : ∃ entries, n = dir entries := by
      cases n with
      | file data => cases h
      | dir entries => exact ⟨entries, rfl⟩
    subst hn
    rw [look_cons] at h
    obtain ⟨old, hold, hdir⟩ := Option.bind_eq_some_iff.1 h
    rw [List.cons_append, put_cons hold (by simp)]
    cases names with
    | nil => simp [entry]
    | cons other rest =>
      rw [look_cons, look_cons, child?_putEntry]
      by_cases ho : other = first
      · subst ho
        simp [ih hdir, hold]
      · simp [ho, Ne.symm ho]

/-- A file in place of nothing or of another file. -/
theorem look_put_file {n : Node} {here : List String} {name : String}
    (h : n.look here = some .dir) (hdir : n.look (here ++ [name]) ≠ some .dir) (data : ByteArray)
    (names : List String) :
    (n.put (here ++ [name]) (file data)).look names =
      if names = here ++ [name] then some (.file data) else n.look names := by
  rw [look_put h]
  split
  next hpre =>
    obtain ⟨below, rfl⟩ := hpre
    cases below with
    | nil => simp [entry]
    | cons next below =>
      rw [look_below hdir (List.prefix_append _ _) (by simp)]
      simp
  next hpre =>
    have hne : names ≠ here ++ [name] := fun heq => hpre (heq ▸ List.prefix_refl names)
    rw [if_neg hne]

/-- A new directory. -/
theorem look_put_dir {n : Node} {here : List String} {name : String}
    (h : n.look here = some .dir) (hnone : n.look (here ++ [name]) = none) (names : List String) :
    (n.put (here ++ [name]) (dir [])).look names =
      if names = here ++ [name] then some .dir else n.look names := by
  rw [look_put h]
  split
  next hpre =>
    obtain ⟨below, rfl⟩ := hpre
    cases below with
    | nil => simp [entry]
    | cons next below =>
      rw [look_below (by simp [hnone]) (List.prefix_append _ _) (by simp)]
      simp [look_cons, child?]
  next hpre =>
    have hne : names ≠ here ++ [name] := fun heq => hpre (heq ▸ List.prefix_refl names)
    rw [if_neg hne]

/-! ## Taking away -/

theorem child?_filter (name other : String) (entries : List (String × Node)) :
    (dir (entries.filter (·.1 ≠ name))).child? other =
      if other = name then none else (dir entries).child? other := by
  simp only [child?, List.find?_filter]
  by_cases h : other = name
  · subst h
    simp
  · have hp : (fun e : String × Node => !decide (e.1 = name) && decide (e.1 = other)) =
        fun e => decide (e.1 = other) := by
      funext e
      by_cases he : e.1 = other <;> simp [he, h]
    simp [h, hp]

theorem erase_cons {entries : List (String × Node)} {name : String} {old : Node}
    (h : (dir entries).child? name = some old) {rest : List String} (hrest : rest ≠ []) :
    (dir entries).erase (name :: rest) = dir (putEntry name (old.erase rest) entries) := by
  cases rest with
  | nil => exact absurd rfl hrest
  | cons next below => rw [erase, h]; simp

/-- **Taking away** what stands in a directory takes away what stands below it as well. -/
theorem look_erase {n : Node} {here : List String} (h : n.look here = some .dir) (name : String)
    (names : List String) :
    (n.erase (here ++ [name])).look names =
      if here ++ [name] <+: names then none else n.look names := by
  induction here generalizing n names with
  | nil =>
    obtain ⟨entries, hn⟩ := eq_dir_of_look h
    cases hn
    rw [List.nil_append, erase]
    cases names with
    | nil => simp [entry]
    | cons other rest =>
      rw [look_cons, look_cons, child?_filter]
      by_cases ho : other = name
      · simp [ho]
      · simp [ho, Ne.symm ho]
  | cons first here ih =>
    obtain ⟨entries, hn⟩ : ∃ entries, n = dir entries := by
      cases n with
      | file data => cases h
      | dir entries => exact ⟨entries, rfl⟩
    subst hn
    rw [look_cons] at h
    obtain ⟨old, hold, hdir⟩ := Option.bind_eq_some_iff.1 h
    rw [List.cons_append, erase_cons hold (by simp)]
    cases names with
    | nil => simp [entry]
    | cons other rest =>
      rw [look_cons, look_cons, child?_putEntry]
      by_cases ho : other = first
      · subst ho
        simp [ih hdir, hold]
      · simp [ho, Ne.symm ho]

/-- A file that is taken away. -/
theorem look_erase_file {n : Node} {here : List String} {name : String} {data : ByteArray}
    (hfile : n.look (here ++ [name]) = some (.file data)) (names : List String) :
    (n.erase (here ++ [name])).look names =
      if names = here ++ [name] then none else n.look names := by
  have h : n.look here = some .dir := look_of_isSome_append (by rw [hfile]; rfl)
  rw [look_erase h]
  split
  next hpre =>
    split
    · rfl
    next hne => rw [look_below (by simp [hfile]) hpre (Ne.symm hne)]
  next hpre =>
    have hne : names ≠ here ++ [name] := fun heq => hpre (heq ▸ List.prefix_refl names)
    rw [if_neg hne]

end Node

end RuleScan
