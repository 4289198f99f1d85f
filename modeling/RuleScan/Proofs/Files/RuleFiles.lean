import Mathlib.Data.List.Basic
import RuleScan.Files.Walk
import RuleScan.Proofs.Files.Plain

/-!
# The rule files of a directory

The rule files that stand at any depth below a directory, told by the names that lead to them
(`Node.ruleNames`). They are exactly the files with the right extension (`mem_ruleNames`), each of
them once, in the order of their names (`ruleNames_sorted`): name by name, since the entries of
every directory are put in order. What is read at these names behind the path of the directory is
the file itself (`read_below`).
-/

namespace RuleScan

/-! ## Proper trees -/

/-- A text that can be the name of an entry. -/
structure IsName (name : String) : Prop where
  ne_empty : name ≠ ""
  ne_dot : name ≠ "."
  ne_up : name ≠ ".."
  no_slash : '/' ∉ name.toList
  no_nul : '\x00' ∉ name.toList
  short : name.utf8ByteSize ≤ Files.maxName

instance (name : String) : Decidable (IsName name) :=
  decidable_of_iff
    (name ≠ "" ∧ name ≠ "." ∧ name ≠ ".." ∧ '/' ∉ name.toList ∧ '\x00' ∉ name.toList ∧
      name.utf8ByteSize ≤ Files.maxName)
    ⟨fun ⟨hempty, hdot, hup, hslash, hnul, hshort⟩ => ⟨hempty, hdot, hup, hslash, hnul, hshort⟩,
      fun h => ⟨h.ne_empty, h.ne_dot, h.ne_up, h.no_slash, h.no_nul, h.short⟩⟩

namespace Node

mutual

/-- A tree in which the entries of a directory have names, no two the same one. -/
def Tidy : Node → Prop
  | file _ => True
  | dir entries => (entries.map (·.1)).Nodup ∧ TidyEntries entries

/-- Entries with names, below which the tree is tidy. -/
def TidyEntries : List (String × Node) → Prop
  | [] => True
  | (name, node) :: rest => IsName name ∧ node.Tidy ∧ TidyEntries rest

end

theorem TidyEntries.of_mem {entries : List (String × Node)} (h : TidyEntries entries)
    {name : String} {node : Node} (hmem : (name, node) ∈ entries) : IsName name ∧ node.Tidy := by
  induction entries with
  | nil => cases hmem
  | cons e rest ih =>
    rw [TidyEntries] at h
    rcases List.mem_cons.1 hmem with rfl | hmem
    · exact ⟨h.1, h.2.1⟩
    · exact ih h.2.2 hmem

/-- In a tidy directory an entry is found by its name. -/
theorem child?_eq_some {entries : List (String × Node)} (h : (entries.map (·.1)).Nodup)
    {name : String} {node : Node} :
    (dir entries).child? name = some node ↔ (name, node) ∈ entries := by
  rw [child?, Option.map_eq_some_iff]
  constructor
  · rintro ⟨⟨other, found⟩, hfind, rfl⟩
    have hname : other = name := by simpa using List.find?_some hfind
    exact hname ▸ List.mem_of_find?_eq_some hfind
  · intro hmem
    refine ⟨(name, node), ?_, rfl⟩
    induction entries with
    | nil => cases hmem
    | cons e rest ih =>
      rw [List.map_cons, List.nodup_cons] at h
      rcases List.mem_cons.1 hmem with rfl | hmem
      · simp
      · have hne : e.1 ≠ name := fun heq => h.1 (heq ▸ List.mem_map.2 ⟨_, hmem, rfl⟩)
        rw [List.find?_cons_of_neg (by simpa using hne), ih h.2 hmem]

theorem Tidy.nodup {entries : List (String × Node)} (h : (dir entries).Tidy) :
    (entries.map (·.1)).Nodup := by
  rw [Tidy] at h
  exact h.1

theorem Tidy.child {n c : Node} (h : n.Tidy) {name : String} (hc : n.child? name = some c) :
    IsName name ∧ c.Tidy := by
  cases n with
  | file data => cases hc
  | dir entries =>
    rw [Tidy] at h
    exact h.2.of_mem ((child?_eq_some h.1).1 hc)

theorem Tidy.get? {n c : Node} (h : n.Tidy) {names : List String} (hc : n.get? names = some c) :
    c.Tidy := by
  induction names generalizing n with
  | nil =>
    cases hc
    exact h
  | cons name rest ih =>
    obtain ⟨m, hm, hrest⟩ := Option.bind_eq_some_iff.1 hc
    exact ih (h.child hm).2 hrest

/-- What stands in a tidy tree stands at names. -/
theorem Tidy.isName {n : Node} (h : n.Tidy) {names : List String} {e : Entry}
    (he : n.look names = some e) : ∀ name ∈ names, IsName name := by
  induction names generalizing n with
  | nil => simp
  | cons name rest ih =>
    rw [look_cons] at he
    obtain ⟨c, hc, hrest⟩ := Option.bind_eq_some_iff.1 he
    obtain ⟨hname, htidy⟩ := h.child hc
    exact List.forall_mem_cons.2 ⟨hname, ih htidy hrest⟩

end Node

/-! ## Extensions -/

namespace Files

/-- A name has an extension when something stands before its last dot. -/
theorem extension?_eq_some {name ext : String} :
    extension? name = some ext ↔
      ∃ stem, stem ≠ "" ∧ '.' ∉ ext.toList ∧ name = stem ++ "." ++ ext := by
  have hsplit := List.takeWhile_append_dropWhile (p := (· != '.')) (l := name.toList.reverse)
  unfold extension?
  dsimp only
  constructor
  · intro h
    split at h
    · next dot first rest hdrop =>
      have hdot : dot = '.' := by
        have hhead := List.head?_dropWhile_not (· != '.') name.toList.reverse
        simpa [hdrop] using hhead
      refine ⟨String.ofList (first :: rest).reverse, by simp [← String.toList_inj], ?_, ?_⟩
      · rw [← Option.some.inj h, String.toList_ofList, List.mem_reverse]
        intro hmem
        simpa using List.all_eq_true.1 List.all_takeWhile _ hmem
      · rw [← Option.some.inj h, ← String.toList_inj, String.toList_append, String.toList_append,
          String.toList_ofList, String.toList_ofList]
        have hname := congrArg List.reverse hsplit
        rw [List.reverse_reverse, hdrop, hdot, List.reverse_append] at hname
        exact hname.symm.trans (by simp)
    · cases h
  · rintro ⟨stem, hstem, hext, rfl⟩
    have hbefore : ∀ c ∈ ext.toList.reverse, (c != '.') = true := by
      intro c hc
      rw [bne_iff_ne]
      rintro rfl
      exact hext (List.mem_reverse.1 hc)
    have hreverse : (stem ++ "." ++ ext).toList.reverse =
        ext.toList.reverse ++ '.' :: stem.toList.reverse := by
      simp
    obtain ⟨first, rest, hrest⟩ : ∃ first rest, stem.toList.reverse = first :: rest :=
      List.exists_cons_of_ne_nil (by simpa using hstem)
    rw [hreverse, List.dropWhile_append_of_pos hbefore, List.takeWhile_append_of_pos hbefore, hrest]
    simp

/-- **Rule files** have the extension `yar` or `yara`, in capitals or not. -/
theorem isRuleFile_iff {name : String} :
    isRuleFile name ↔ ∃ stem ext, stem ≠ "" ∧ (ext.toLower = "yar" ∨ ext.toLower = "yara") ∧
      name = stem ++ "." ++ ext := by
  have hdot {ext : String} (h : ext.toLower = "yar" ∨ ext.toLower = "yara") :
      '.' ∉ ext.toList := by
    intro hmem
    have hlower : '.' ∈ ext.toLower.toList := by
      rw [String.toLower, String.toList_map]
      exact List.mem_map.2 ⟨'.', hmem, rfl⟩
    rcases h with h | h
    · rw [h] at hlower
      exact absurd hlower (by decide)
    · rw [h] at hlower
      exact absurd hlower (by decide)
  rw [isRuleFile, Option.any_eq_true]
  constructor
  · rintro ⟨ext, hext, hlower⟩
    obtain ⟨stem, hstem, -, hname⟩ := extension?_eq_some.1 hext
    exact ⟨stem, ext, hstem, by simpa using hlower, hname⟩
  · rintro ⟨stem, ext, hstem, hlower, hname⟩
    exact ⟨ext, extension?_eq_some.2 ⟨stem, hstem, hdot hlower, hname⟩, by simpa using hlower⟩

end Files

/-! ## Names of rule files -/

/-- A rule file stands at some names: a file whose own name ends in a dot and the extension `yar` or
`yara`, in capitals or not, after something else. -/
def Node.RuleFileAt (n : Node) (names : List String) : Prop :=
  ∃ above stem ext data, names = above ++ [stem ++ "." ++ ext] ∧ stem ≠ "" ∧
    (ext.toLower = "yar" ∨ ext.toLower = "yara") ∧ n.look names = some (.file data)

namespace Files

/-- The path of what stands at some names below another path. -/
def below (path : String) (names : List String) : String := names.foldl join path

end Files

namespace Node

open Files (isRuleFile inOrder below)

mutual

/-- The names that lead to the rule files in what has some name, none of them to that itself. -/
def ruleNames (name : String) : Node → List (List String)
  | file _ => if isRuleFile name then [[]] else []
  | dir entries => inOrder (entryNames entries)

/-- The names that lead to the rule files in each entry of a directory. -/
def entryNames : List (String × Node) → List (String × List (List String))
  | [] => []
  | (name, node) :: rest => (name, (node.ruleNames name).map (name :: ·)) :: entryNames rest

end

theorem entryNames_eq (entries : List (String × Node)) :
    entryNames entries = entries.map fun e => (e.1, (e.2.ruleNames e.1).map (e.1 :: ·)) := by
  induction entries with
  | nil => rw [entryNames, List.map_nil]
  | cons e rest ih => rw [entryNames, ih, List.map_cons]

theorem mem_inOrder {α : Type} {entries : List (String × List α)} {a : α} :
    a ∈ inOrder entries ↔ ∃ e ∈ entries, a ∈ e.2 := by
  simp only [inOrder, List.mem_flatMap, (List.mergeSort_perm entries _).mem_iff]

/-- **The names lead to the rule files**: to files whose own name is that of one. -/
theorem mem_ruleNames {n : Node} (h : n.Tidy) {name : String} {names : List String} :
    names ∈ n.ruleNames name ↔
      isRuleFile (names.getLastD name) ∧ ∃ data, n.look names = some (.file data) := by
  induction names generalizing n name with
  | nil =>
    cases n with
    | file data => simp [ruleNames, entry]
    | dir entries => simp [ruleNames, mem_inOrder, entryNames_eq, entry]
  | cons next rest ih =>
    rw [List.getLastD_cons, look_cons]
    cases n with
    | file data => simp [ruleNames, child?]
    | dir entries =>
      rw [ruleNames, mem_inOrder, entryNames_eq]
      constructor
      · rintro ⟨_, he, hin⟩
        obtain ⟨⟨other, node⟩, hentry, rfl⟩ := List.mem_map.1 he
        obtain ⟨below, hbelow, hcons⟩ := List.mem_map.1 hin
        obtain ⟨rfl, rfl⟩ := List.cons.inj hcons
        have hchild := (child?_eq_some h.nodup).2 hentry
        rw [hchild]
        exact (ih (h.child hchild).2).1 hbelow
      · rintro ⟨hrule, data, hlook⟩
        obtain ⟨node, hchild, hlook⟩ := Option.bind_eq_some_iff.1 hlook
        have hrest := (ih (h.child hchild).2).2 ⟨hrule, data, hlook⟩
        exact ⟨_, List.mem_map.2 ⟨_, (child?_eq_some h.nodup).1 hchild, rfl⟩,
          List.mem_map.2 ⟨rest, hrest, rfl⟩⟩

/-- What belongs to entries with different names is in order if each list starts with the name of
its entry, and is in order itself. -/
theorem inOrder_sorted {entries : List (String × List (List String))}
    (hnodup : (entries.map (·.1)).Nodup)
    (hstart : ∀ e ∈ entries, ∀ names ∈ e.2, ∃ rest, names = e.1 :: rest)
    (hsorted : ∀ e ∈ entries, e.2.Pairwise (· < ·)) : (inOrder entries).Pairwise (· < ·) := by
  have hperm := List.mergeSort_perm entries fun a b => decide (a.1 ≤ b.1)
  have hle : (entries.mergeSort fun a b => a.1 ≤ b.1).Pairwise fun a b => decide (a.1 ≤ b.1) :=
    List.pairwise_mergeSort (by simpa using fun a b c => String.le_trans)
      (by simpa using fun a b => String.le_total _ _) entries
  have hne : ((entries.mergeSort fun a b => a.1 ≤ b.1).map (·.1)).Nodup :=
    (hperm.map _).nodup_iff.2 hnodup
  refine List.pairwise_flatMap.2 ⟨fun e he => hsorted e (hperm.mem_iff.1 he), ?_⟩
  refine List.Pairwise.imp_of_mem ?_ (hle.and (List.pairwise_map.1 hne))
  rintro a b ha hb ⟨hab, hdiffer⟩ x hx y hy
  obtain ⟨above, rfl⟩ := hstart a (hperm.mem_iff.1 ha) x hx
  obtain ⟨other, rfl⟩ := hstart b (hperm.mem_iff.1 hb) y hy
  refine List.cons_lt_cons_iff.2 (.inl ?_)
  by_contra hnot
  exact hdiffer (String.le_antisymm (of_decide_eq_true hab) (String.not_lt.1 hnot))

mutual

/-- **The names are in order, and each is there once**: an earlier one is smaller than a later one
in the first place where they differ. -/
theorem ruleNames_sorted (name : String) :
    (n : Node) → n.Tidy → (n.ruleNames name).Pairwise (· < ·)
  | file _, _ => by
    rw [ruleNames]
    split <;> simp
  | dir entries, h => by
    rw [ruleNames]
    refine inOrder_sorted ?_ ?_ (entryNames_sorted entries (by rw [Tidy] at h; exact h.2))
    · rw [entryNames_eq, List.map_map]
      exact h.nodup
    · rw [entryNames_eq]
      intro e he names hnames
      obtain ⟨entry, -, rfl⟩ := List.mem_map.1 he
      obtain ⟨rest, -, rfl⟩ := List.mem_map.1 hnames
      exact ⟨rest, rfl⟩

theorem entryNames_sorted :
    (entries : List (String × Node)) → TidyEntries entries →
      ∀ e ∈ entryNames entries, e.2.Pairwise (· < ·)
  | [], _ => by simp [entryNames]
  | (name, node) :: rest, h => by
    rw [TidyEntries] at h
    rw [entryNames]
    refine List.forall_mem_cons.2 ⟨List.pairwise_map.2 ?_, entryNames_sorted rest h.2.2⟩
    exact (ruleNames_sorted name node h.2.1).imp fun hlt =>
      List.cons_lt_cons_iff.2 (.inr ⟨rfl, hlt⟩)

end

end Node

/-! ## Names behind a path -/

namespace Path

theorem segments_ne_nil (path : String) : segments path ≠ [] := by
  rw [segments, Ne, List.map_eq_nil_iff]
  exact List.splitOn_ne_nil '/' _

theorem segments_append (above : String) {name : String} (h : '/' ∉ name.toList) :
    segments (above ++ "/" ++ name) = segments above ++ [name] := by
  have hsplit : (above ++ "/" ++ name).toList.splitOn '/' =
      above.toList.splitOn '/' ++ name.toList.splitOn '/' := by
    rw [String.toList_append, String.toList_append, List.append_assoc]
    exact List.splitOnP_append_cons _ _ (beq_self_eq_true '/')
  rw [segments, hsplit, List.splitOn_eq_singleton h, List.map_append, List.map_singleton,
    String.ofList_toList, segments]

/-- A path without a slash is its only segment. -/
theorem eq_of_segments {path segment : String} (h : segments path = [segment]) :
    segment = path := by
  obtain ⟨piece, hpiece, rfl⟩ := List.map_eq_singleton_iff.1 h
  have hjoin : ['/'].intercalate (path.toList.splitOn '/') = path.toList :=
    List.intercalate_splitOn '/'
  rw [hpiece] at hjoin
  rw [← String.toList_inj, String.toList_ofList, ← hjoin]
  simp [List.intercalate]

/-- A path starts at the top of the tree if nothing stands before its first slash. -/
theorem absolute_eq {path : String} (h : path ≠ "") :
    (parse path).absolute = decide ((segments path).head? = some "") := by
  obtain ⟨first, rest, hsegments⟩ := List.exists_cons_of_ne_nil (segments_ne_nil path)
  rw [parse, hsegments]
  cases rest with
  | nil => simp [eq_of_segments hsegments, h]
  | cons next rest => simp

/-- A path with one more name, whether or not the path ends in a slash. -/
theorem join_cases {path : String} (name : String) (h : path ≠ "") :
    ∃ above, Files.join path name = above ++ "/" ++ name ∧
      (path = above ∨ path = above ++ "/" ++ "") := by
  rw [Files.join, if_neg (by simpa using h)]
  split
  next hslash =>
    obtain ⟨chars, hchars⟩ := List.getLast?_eq_some_iff.1 hslash
    have hpath : path = String.ofList chars ++ "/" := by simp [← String.toList_inj, hchars]
    exact ⟨String.ofList chars, by rw [← hpath], .inr (by rw [String.append_empty, ← hpath])⟩
  next => exact ⟨path, rfl, .inl rfl⟩

theorem join_ne_empty {path name : String} (h : path ≠ "") : Files.join path name ≠ "" := by
  obtain ⟨above, hjoin, -⟩ := join_cases name h
  rw [hjoin, ← String.toList_inj.ne]
  simp

/-- A name behind a path is one more of its names. -/
theorem parse_join {path name : String} (hpath : path ≠ "") (hname : IsName name) :
    parse (Files.join path name) =
      { absolute := (parse path).absolute
        names := (parse path).names ++ [name]
        slashed := false } := by
  obtain ⟨above, hjoin, hcases⟩ := join_cases name hpath
  have hsegments := segments_append above hname.no_slash
  have hhead (segment : String) : (segments above ++ [segment]).head? = (segments above).head? :=
    List.head?_append_of_ne_nil _ (segments_ne_nil above)
  have habsolute : (parse (Files.join path name)).absolute = (parse path).absolute := by
    rw [absolute_eq (join_ne_empty hpath), absolute_eq hpath, hjoin, hsegments, hhead]
    rcases hcases with rfl | rfl
    · rfl
    · rw [segments_append above (by simp), hhead]
  have hkept : [name].filter (fun n => n ≠ "" && n ≠ ".") = [name] := by
    simp [hname.ne_empty, hname.ne_dot]
  have hnames : (parse (Files.join path name)).names = (parse path).names ++ [name] := by
    rw [parse, parse, hjoin]
    dsimp only
    rw [hsegments, List.filter_append, hkept]
    rcases hcases with rfl | rfl
    · rfl
    · rw [segments_append above (by simp), List.filter_append]
      simp
  have hslashed : (parse (Files.join path name)).slashed = false := by
    simp [parse, hjoin, hsegments, hname.ne_empty, hname.ne_dot]
  cases hparse : parse (Files.join path name)
  simp_all

/-- A path with slashes behind it. -/
def padded (path : String) : Nat → String
  | 0 => path
  | n + 1 => padded path n ++ "/"

variable {path : String}

theorem padded_toList (n : Nat) : (padded path n).toList = path.toList ++ List.replicate n '/' := by
  induction n with
  | zero => rw [padded, List.replicate_zero, List.append_nil]
  | succ n ih =>
    rw [padded, String.toList_append, ih, List.replicate_succ', List.append_assoc]
    rfl

theorem padded_size (n : Nat) : (padded path n).utf8ByteSize = path.utf8ByteSize + n := by
  induction n with
  | zero => rfl
  | succ n ih =>
    rw [padded, String.utf8ByteSize_append, ih]
    rfl

theorem padded_ne_empty (hpath : path ≠ "") (n : Nat) : padded path n ≠ "" := by
  rw [← String.toList_inj.ne, padded_toList]
  simpa using fun h => absurd h hpath

theorem segments_padded (n : Nat) :
    segments (padded path n) = segments path ++ List.replicate n "" := by
  induction n with
  | zero => rw [padded, List.replicate_zero, List.append_nil]
  | succ n ih =>
    have hnone : '/' ∉ "".toList := by simp
    have hslash := segments_append (padded path n) hnone
    rw [String.append_empty] at hslash
    rw [padded, hslash, ih, List.append_assoc, ← List.replicate_succ']

/-- Slashes behind a path change nothing about where it starts and which names it is cut into. -/
theorem parse_padded (hpath : path ≠ "") (n : Nat) :
    (parse (padded path n)).absolute = (parse path).absolute ∧
      (parse (padded path n)).names = (parse path).names := by
  constructor
  · rw [absolute_eq (padded_ne_empty hpath n), absolute_eq hpath, segments_padded,
      List.head?_append_of_ne_nil _ (segments_ne_nil path)]
  · simp [parse, segments_padded]

/-- A name behind a path that ends in slashes stands right behind them. -/
theorem join_padded (n : Nat) (name : String) :
    Files.join (padded path (n + 1)) name = padded path (n + 1) ++ name := by
  have hlast : (padded path (n + 1)).toList.getLast? = some '/' := by
    rw [padded_toList, List.replicate_succ', ← List.append_assoc, List.getLast?_concat]
  have hne : (padded path (n + 1)).isEmpty = false := by
    simp [padded]
  rw [Files.join, hne, if_neg Bool.false_ne_true, if_pos hlast]
end Path

namespace Files

variable {fs : Files} {path : String} {names : List String}

theorem below_ne_empty (hpath : path ≠ "") : below path names ≠ "" := by
  induction names generalizing path with
  | nil => exact hpath
  | cons name rest ih => exact ih (Path.join_ne_empty hpath)

theorem parse_below (hpath : path ≠ "") (hnames : ∀ name ∈ names, IsName name) :
    Path.parse (below path names) =
      { absolute := (Path.parse path).absolute
        names := (Path.parse path).names ++ names
        slashed := (Path.parse path).slashed && names.isEmpty } := by
  induction names generalizing path with
  | nil => simp [below]
  | cons name rest ih =>
    obtain ⟨hname, hrest⟩ := List.forall_mem_cons.1 hnames
    change Path.parse (below (join path name) rest) = _
    rw [ih (Path.join_ne_empty hpath) hrest, Path.parse_join hpath hname]
    simp

theorem no_nul_below (hpath : path ≠ "") (hnul : '\x00' ∉ path.toList)
    (hnames : ∀ name ∈ names, IsName name) : '\x00' ∉ (below path names).toList := by
  induction names generalizing path with
  | nil => exact hnul
  | cons name rest ih =>
    obtain ⟨hname, hrest⟩ := List.forall_mem_cons.1 hnames
    refine ih (Path.join_ne_empty hpath) ?_ hrest
    obtain ⟨above, hjoin, hcases⟩ := Path.join_cases name hpath
    have habove : '\x00' ∉ above.toList := by
      rcases hcases with rfl | rfl
      · exact hnul
      · exact fun hmem => hnul (by simp [hmem])
    simpa [hjoin, hname.no_nul] using habove

/-- What a path has to be for a directory to stand at it. -/
theorem locate_dir {here : List String} {entries : List (String × Node)}
    (h : fs.locate path = .ok (here, .dir entries)) :
    path ≠ "" ∧ '\x00' ∉ path.toList ∧
      descend fs.root (fs.start (Path.parse path)) (Path.parse path).names = .ok here ∧
      fs.root.get? here = some (.dir entries) := by
  rw [locate] at h
  rcases hcheck : checkPath path with e | ⟨⟩
  · simp [hcheck, bind, Except.bind] at h
  rcases hd : descend fs.root (fs.start (Path.parse path)) (Path.parse path).names with e | there
  · simp [hcheck, hd, bind, Except.bind] at h
  obtain ⟨rfl, hget⟩ : there = here ∧ fs.root.get? there = some (.dir entries) := by
    rcases hget : fs.root.get? there with _ | ⟨data⟩ | other
    · simp [hcheck, hd, hget, bind, Except.bind] at h
    · cases hs : (Path.parse path).slashed <;> simp [hcheck, hd, hget, hs, bind, Except.bind] at h
    · simpa [hcheck, hd, hget, bind, Except.bind] using h
  rw [checkPath] at hcheck
  split_ifs at hcheck with hnul hempty hlong
  exact ⟨by simpa using hempty, by simpa using hnul, rfl, hget⟩

/-- **What is read below a directory is what stands there**, unless its path is too long. -/
theorem read_below {here : List String} {entries : List (String × Node)} {data : ByteArray}
    (h : fs.locate path = .ok (here, .dir entries)) (hne : names ≠ [])
    (hnames : ∀ name ∈ names, IsName name)
    (hfile : (Node.dir entries).look names = some (.file data)) :
    fs.read (below path names) =
      if (below path names).utf8ByteSize ≤ maxPath then .ok data else .error .nameTooLong := by
  obtain ⟨hpath, hnul, hdescend, hget⟩ := locate_dir h
  have hparse := parse_below hpath hnames
  have hslashed : (Path.parse (below path names)).slashed = false := by
    rw [hparse, List.isEmpty_eq_false_iff.2 hne, Bool.and_false]
  have hcheck : checkPath (below path names) =
      if (below path names).utf8ByteSize ≤ maxPath then .ok () else .error .nameTooLong := by
    rw [checkPath, if_neg (by simpa using no_nul_below hpath hnul hnames),
      if_neg (by simpa using below_ne_empty hpath)]
    split_ifs <;> first | rfl | omega
  split
  next hshort =>
    have hlook : fs.root.look (here ++ names) = some (.file data) := by
      rw [Node.look_append, hget]
      exact hfile
    have hup : ".." ∉ names := fun hmem => (hnames _ hmem).ne_up rfl
    have hshortNames (name : String) (hmem : name ∈ names) := (hnames name hmem).short
    have hdown : descend fs.root (fs.start (Path.parse (below path names)))
        (Path.parse (below path names)).names = .ok (here ++ names) := by
      rw [hparse, descend_append]
      change (descend fs.root (fs.start (Path.parse path)) _).bind _ = _
      rw [hdescend]
      exact (descend_plain hup).2 ⟨rfl, hshortNames, .inr (by simp [hlook])⟩
    rw [if_pos hshort] at hcheck
    exact read_eq_ok.2 ⟨_, locate_file.2 ⟨hcheck, hslashed, hdown, hlook⟩⟩
  next hlong =>
    rw [if_neg hlong] at hcheck
    simp [read, locate, hcheck, bind, Except.bind]

end Files

namespace Files

theorem ruleFileAt_iff {n : Node} {names : List String} (hdir : n.entry = .dir) :
    n.RuleFileAt names ↔
      isRuleFile (names.getLastD "") ∧ ∃ data, n.look names = some (.file data) := by
  constructor
  · rintro ⟨above, stem, ext, data, rfl, hstem, hext, hfile⟩
    exact ⟨by simpa using isRuleFile_iff.2 ⟨stem, ext, hstem, hext, rfl⟩, data, hfile⟩
  · rintro ⟨hrule, data, hfile⟩
    rcases names.eq_nil_or_concat with rfl | ⟨above, last, rfl⟩
    · simp [hdir] at hfile
    · rw [List.concat_eq_append] at hrule hfile ⊢
      rw [List.getLastD_concat] at hrule
      obtain ⟨stem, ext, hstem, hext, rfl⟩ := isRuleFile_iff.1 hrule
      exact ⟨above, stem, ext, data, rfl, hstem, hext, hfile⟩

end Files

end RuleScan
