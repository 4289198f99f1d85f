import RuleScan.Proofs.Files.RuleFiles

/-!
# What a walk finds

A walk is described by what it comes to at each file and each directory, given which directories it
cannot list (`Walks`). It fails exactly when one of these is the directory at which it starts or
stands below it (`error_mem_iff`). The rule files that are picked from a walk that does not fail are
all the rule files of the directory, in the order of their names (`picked_walk`).
-/

namespace RuleScan.Files

open Node (ruleNames entryNames Tidy TidyEntries)

/-! ## Walks -/

section Walks

variable (shut : String → Prop)

mutual

/-- **What a walk comes to** at a path where something stands: at a file to its path; at a directory
to its path, and then to what its entries come to, in the order of their names, or to a failure if
the directory cannot be listed. -/
inductive Walks : String → Node → List (Except String Spot) → Prop
  | file (path : String) (data : ByteArray) :
    Walks path (.file data) [.ok { path, isFile := true }]
  | shut {path : String} (entries : List (String × Node)) (words : String) : shut path →
    Walks path (.dir entries) [.ok { path, isFile := false }, .error words]
  | listed {path : String} {entries : List (String × Node)}
    {parts : List (String × List (Except String Spot))} : ¬ shut path →
    WalksEach path entries parts →
    Walks path (.dir entries) (.ok { path, isFile := false } :: inOrder parts)

/-- What a walk comes to at each of some entries below a path. -/
inductive WalksEach :
    String → List (String × Node) → List (String × List (Except String Spot)) → Prop
  | nil (path : String) : WalksEach path [] []
  | cons {path name : String} {node : Node} {rest : List (String × Node)}
    {spots : List (Except String Spot)} {parts : List (String × List (Except String Spot))} :
    Walks (join path name) node spots → WalksEach path rest parts →
    WalksEach path ((name, node) :: rest) ((name, spots) :: parts)

end

end Walks

mutual

/-- This library's walks. They cannot list a directory whose path is refused. -/
theorem spotsOf_walks (path : String) :
    (n : Node) → Walks (fun path => checkPath path ≠ .ok ()) path n (spotsOf path n)
  | .file data => by
    rw [spotsOf]
    exact .file path data
  | .dir entries => by
    rw [spotsOf]
    cases hcheck : checkPath path with
    | error fault => exact .shut entries _ (by simp [hcheck])
    | ok _ => exact .listed (by simp [hcheck]) (entrySpots_walks path entries)

theorem entrySpots_walks (path : String) :
    (entries : List (String × Node)) →
      WalksEach (fun path => checkPath path ≠ .ok ()) path entries (entrySpots path entries)
  | [] => by
    rw [entrySpots]
    exact .nil path
  | (name, node) :: rest => by
    rw [entrySpots]
    exact .cons (spotsOf_walks (join path name) node) (entrySpots_walks path rest)

end

variable {shut : String → Prop} {path : String} {spots : List (Except String Spot)}

theorem WalksEach.of_mem {entries : List (String × Node)}
    {parts : List (String × List (Except String Spot))} (h : WalksEach shut path entries parts)
    {name : String} {node : Node} (hmem : (name, node) ∈ entries) :
    ∃ spots, (name, spots) ∈ parts ∧ Walks shut (join path name) node spots := by
  induction entries generalizing parts with
  | nil => cases hmem
  | cons e rest ih =>
    cases h with
    | cons hfirst hrest =>
      rcases List.mem_cons.1 hmem with hmem | hmem
      · cases hmem
        exact ⟨_, List.mem_cons_self, hfirst⟩
      · obtain ⟨spots, hspots, hwalks⟩ := ih hrest hmem
        exact ⟨spots, List.mem_cons_of_mem _ hspots, hwalks⟩

/-! ## Failures -/

/-- A directory that cannot be listed is not passed over. -/
theorem Walks.error_mem {n : Node} (hn : n.Tidy) (h : Walks shut path n spots)
    {names : List String} (hdir : n.look names = some .dir)
    (hshut : shut (Files.below path names)) : ∃ words, .error words ∈ spots := by
  induction names generalizing n path spots with
  | nil =>
    cases h with
    | file => simp [Node.entry] at hdir
    | shut entries words _ => exact ⟨words, by simp⟩
    | listed hopen _ => exact absurd hshut hopen
  | cons name rest ih =>
    rw [Node.look_cons] at hdir
    obtain ⟨c, hc, hrest⟩ := Option.bind_eq_some_iff.1 hdir
    cases h with
    | file => cases hc
    | shut entries words _ => exact ⟨words, by simp⟩
    | listed _ heach =>
      obtain ⟨part, hpart, hwalks⟩ := heach.of_mem ((Node.child?_eq_some hn.nodup).1 hc)
      obtain ⟨words, hwords⟩ := ih (hn.child hc).2 hwalks hrest hshut
      exact ⟨words, List.mem_cons_of_mem _ (Node.mem_inOrder.2 ⟨_, hpart, hwords⟩)⟩

mutual

/-- A walk fails at a directory that cannot be listed. -/
theorem Walks.shut_of_error : (n : Node) → n.Tidy → {path : String} →
    {spots : List (Except String Spot)} → Walks shut path n spots →
    (∃ words, .error words ∈ spots) →
    ∃ names, n.look names = some .dir ∧ shut (Files.below path names)
  | .file _, _, _, _, .file .., hmem => by simp at hmem
  | .dir _, _, _, _, .shut _ _ hshut, _ => ⟨[], rfl, hshut⟩
  | .dir entries, hn, _, _, .listed _ heach, hmem => by
    obtain ⟨words, hmem⟩ := hmem
    obtain ⟨part, hpart, hmem⟩ := Node.mem_inOrder.1 (List.mem_of_ne_of_mem (by simp) hmem)
    obtain ⟨node, hnode, names, hdir, hshut⟩ :=
      WalksEach.shut_of_error entries (by rw [Tidy] at hn; exact hn.2) heach part hpart ⟨_, hmem⟩
    refine ⟨part.1 :: names, ?_, hshut⟩
    rw [Node.look_cons, (Node.child?_eq_some hn.nodup).2 hnode]
    exact hdir

theorem WalksEach.shut_of_error : (entries : List (String × Node)) → TidyEntries entries →
    {path : String} → {parts : List (String × List (Except String Spot))} →
    WalksEach shut path entries parts → ∀ part ∈ parts, (∃ words, .error words ∈ part.2) →
      ∃ node, (part.1, node) ∈ entries ∧
        ∃ names, node.look names = some .dir ∧ shut (Files.below (join path part.1) names)
  | [], _, _, _, .nil _, part, hpart, _ => by cases hpart
  | (name, node) :: rest, hn, _, _, .cons hfirst hrest, part, hpart, hmem => by
    rw [TidyEntries] at hn
    rcases List.mem_cons.1 hpart with rfl | hpart
    · exact ⟨node, List.mem_cons_self, Walks.shut_of_error node hn.2.1 hfirst hmem⟩
    · obtain ⟨other, hother, hnames⟩ :=
        WalksEach.shut_of_error rest hn.2.2 hrest part hpart hmem
      exact ⟨other, List.mem_cons_of_mem _ hother, hnames⟩

end

/-- **A walk fails exactly when it gets to a directory that cannot be listed.** -/
theorem Walks.error_mem_iff {n : Node} (hn : n.Tidy) (h : Walks shut path n spots) :
    (∃ words, .error words ∈ spots) ↔
      ∃ names, n.look names = some .dir ∧ shut (Files.below path names) :=
  ⟨h.shut_of_error n hn, fun ⟨_, hdir, hshut⟩ => h.error_mem hn hdir hshut⟩

/-! ## Rule files -/

/-- The path of the rule file that a walk has come to. -/
def rulePath? : Except String Spot → Option String
  | .ok spot => if spot.isFile && isRulePath spot.path then some spot.path else none
  | .error _ => none

theorem picked_eq_ok (h : ¬ ∃ words, .error words ∈ spots) :
    picked spots = .ok (spots.filterMap rulePath?) := by
  induction spots with
  | nil => rfl
  | cons spot rest ih =>
    rcases spot with words | spot
    · exact absurd ⟨words, List.mem_cons_self⟩ h
    · rw [picked, ih fun ⟨words, hmem⟩ => h ⟨words, List.mem_cons_of_mem _ hmem⟩,
        List.filterMap_cons, rulePath?]
      split <;> simp_all [Except.map]

theorem picked_eq_error (h : ∃ words, .error words ∈ spots) :
    ∃ words, picked spots = .error words := by
  induction spots with
  | nil => simp at h
  | cons spot rest ih =>
    rcases spot with words | spot
    · exact ⟨words, rfl⟩
    · obtain ⟨words, hwords⟩ := ih (by simpa using h)
      exact ⟨words, by rw [picked, hwords]; rfl⟩

/-- What is done to what belongs to some entries does not touch their order. -/
theorem inOrder_map {α β : Type} (entries : List (String × List α)) (f : List α → List β) :
    inOrder (entries.map fun e => (e.1, f e.2)) =
      (entries.mergeSort fun a b => a.1 ≤ b.1).flatMap fun e => f e.2 := by
  rw [inOrder, ← List.map_mergeSort (r := fun a b => decide (a.1 ≤ b.1)) fun _ _ _ _ => rfl,
    List.flatMap_map]

theorem isRulePath_join {name : String} (hpath : path ≠ "") (hname : IsName name) :
    isRulePath (join path name) = isRuleFile name := by
  rw [isRulePath, Path.name?, Path.parse_join hpath hname]
  simp [hname.ne_up]

/-- Where each entry comes to its rule files, the directory does. -/
theorem filterMap_inOrder {entries : List (String × Node)}
    {parts : List (String × List (Except String Spot))}
    (h : (parts.map fun part => (part.1, part.2.filterMap rulePath?)) =
      (entryNames entries).map fun e => (e.1, e.2.map (below path))) :
    (inOrder parts).filterMap rulePath? = (inOrder (entryNames entries)).map (below path) := by
  rw [inOrder, List.filterMap_flatMap, ← inOrder_map parts (List.filterMap rulePath?), h,
    inOrder_map, inOrder, List.map_flatMap]

mutual

/-- A walk through an entry comes to the rule files in it, in the order of their names. -/
theorem Walks.rulePaths : (n : Node) → n.Tidy → {path name : String} → path ≠ "" → IsName name →
    {spots : List (Except String Spot)} → Walks shut (join path name) n spots →
    (¬ ∃ words, .error words ∈ spots) →
      spots.filterMap rulePath? = (n.ruleNames name).map (Files.below (join path name))
  | .file _, _, _, name, hpath, hname, _, h, _ => by
    cases h
    rw [ruleNames, List.filterMap_cons, rulePath?, isRulePath_join hpath hname]
    cases isRuleFile name <;> rfl
  | .dir entries, hn, _, _, hpath, _, _, h, hnone => by
    rw [Tidy] at hn
    cases h with
    | shut _ words _ => exact absurd ⟨words, by simp⟩ hnone
    | listed _ heach =>
      rw [ruleNames, List.filterMap_cons, rulePath?]
      refine filterMap_inOrder
        (WalksEach.rulePaths entries hn.2 (Path.join_ne_empty hpath) heach ?_)
      rintro ⟨part, hpart, words, hmem⟩
      exact hnone ⟨words, List.mem_cons_of_mem _ (Node.mem_inOrder.2 ⟨part, hpart, hmem⟩)⟩

theorem WalksEach.rulePaths : (entries : List (String × Node)) → TidyEntries entries →
    {path : String} → path ≠ "" → {parts : List (String × List (Except String Spot))} →
    WalksEach shut path entries parts → (¬ ∃ part ∈ parts, ∃ words, .error words ∈ part.2) →
      (parts.map fun part => (part.1, part.2.filterMap rulePath?)) =
        (entryNames entries).map fun e => (e.1, e.2.map (Files.below path))
  | [], _, _, _, _, h, _ => by
    cases h
    rw [entryNames, List.map_nil, List.map_nil]
  | (name, node) :: rest, hn, _, hpath, _, h, hnone => by
    rw [TidyEntries] at hn
    cases h with
    | cons hfirst hrest =>
      have hspots := Walks.rulePaths node hn.2.1 hpath hn.1 hfirst fun hmem =>
        hnone ⟨_, List.mem_cons_self, hmem⟩
      have hparts := WalksEach.rulePaths rest hn.2.2 hpath hrest fun ⟨part, hpart, hmem⟩ =>
        hnone ⟨part, List.mem_cons_of_mem _ hpart, hmem⟩
      rw [entryNames, List.map_cons, List.map_cons, hparts, hspots, List.map_map]
      rfl

end

/-- **What is picked from a walk** through a directory: all the rule files in it, in the order of
their names, or nothing if there is a directory that cannot be listed. -/
theorem picked_walk {entries : List (String × Node)} (hn : (Node.dir entries).Tidy)
    (hpath : path ≠ "") (h : Walks shut path (.dir entries) spots) :
    ((∀ names, (Node.dir entries).look names = some .dir → ¬ shut (below path names)) →
        picked spots = .ok (((Node.dir entries).ruleNames "").map (below path))) ∧
      ∀ names, (Node.dir entries).look names = some .dir → shut (below path names) →
        ∃ words, picked spots = .error words := by
  refine ⟨fun hopen => ?_, fun names hdir hshut => picked_eq_error (h.error_mem hn hdir hshut)⟩
  have hnone : ¬ ∃ words, .error words ∈ spots := by
    rw [h.error_mem_iff hn]
    exact fun ⟨names, hdir, hshut⟩ => hopen names hdir hshut
  rw [picked_eq_ok hnone]
  cases h with
  | shut _ words _ => exact absurd ⟨words, by simp⟩ hnone
  | listed _ heach =>
    rw [Tidy] at hn
    rw [ruleNames, List.filterMap_cons, rulePath?]
    refine congrArg Except.ok (filterMap_inOrder (WalksEach.rulePaths entries hn.2 hpath heach ?_))
    rintro ⟨part, hpart, words, hmem⟩
    exact hnone ⟨words, List.mem_cons_of_mem _ (Node.mem_inOrder.2 ⟨part, hpart, hmem⟩)⟩

end RuleScan.Files
