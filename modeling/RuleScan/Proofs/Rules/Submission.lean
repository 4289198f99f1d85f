import RuleScan.Proofs.Files.Walk
import RuleScan.Proofs.Rules.Sequential

/-!
# Changes that are handed to a compiler

Of some planned changes a compiler is handed those before the first one that cannot be made or is
refused, and the refused one (`Toolchain.Submits`). Adding paths hands it the changes of the files
that the paths stand for (`Files.Collected`), one file after the other, until something fails
(`Collector.addPaths_submits`). None is handed over for a directory that cannot be walked through
to its end, whatever the walk has come to (`longPath_submits_nothing`).
-/

namespace RuleScan

/-- The change that an entry of a trace is about, with the words of its refusal. -/
def Event.change? : Event → Option (Change × Option String)
  | change c refusal => some (c, refusal)
  | _ => none

/-- The changes in a trace that a compiler was handed, each with the words of its refusal. -/
def handed (trace : List Event) : List (Change × Option String) := trace.filterMap Event.change?

@[simp] theorem handed_append (t u : List Event) : handed (t ++ u) = handed t ++ handed u :=
  List.filterMap_append

/-- Log lines are about no change. -/
theorem handed_happenings (trace : List Event) : handed (happenings trace) = handed trace := by
  rw [handed, happenings, List.filterMap_filter, handed]
  refine congrArg (List.filterMap · trace) (funext fun event => ?_)
  cases event <;> rfl

namespace Rules

open Files (below maxPath)

variable {C R : Type}

namespace Toolchain

variable (T : Toolchain C R) (fs : Files)

/-- A compiler accepts some changes, one after the other. -/
inductive Accepts : C → List Change → C → Prop
  | none (k : C) : Accepts k [] k
  | next {change : Change} {rest : List Change} {k mid k' : C} :
    T.apply fs change k = (.none, mid) → Accepts mid rest k' → Accepts k (change :: rest) k'

/-- How far a compiler gets with some planned changes: with which failure it stops, which changes it
was handed then, and what became of it. -/
inductive Submits (planned : List (Except Failure Change)) (k : C) :
    Option Failure → List (Change × Option String) → C → Prop
  | all {done : List Change} {k' : C} :
    planned = done.map .ok → T.Accepts fs k done k' →
    Submits planned k none (done.map (·, none)) k'
  /-- A change cannot be made. -/
  | unmade {done : List Change} {e : Failure} {rest : List (Except Failure Change)} {k' : C} :
    planned = done.map .ok ++ .error e :: rest → T.Accepts fs k done k' →
    Submits planned k (some e) (done.map (·, none)) k'
  | refused {done : List Change} {change : Change} {words : String}
    {rest : List (Except Failure Change)} {mid k' : C} :
    planned = done.map .ok ++ .ok change :: rest → T.Accepts fs k done mid →
    T.apply fs change mid = (some words, k') →
    Submits planned k (some (.compile (.refused words)))
      (done.map (·, none) ++ [(change, some words)]) k'

/-- What is planned before other changes and accepted is handed over before them. -/
theorem Submits.next {change : Change} {rest : List (Except Failure Change)} {k mid k' : C}
    {failure : Option Failure} {made : List (Change × Option String)}
    (hfirst : T.apply fs change k = (none, mid)) (h : T.Submits fs rest mid failure made k') :
    T.Submits fs (.ok change :: rest) k failure ((change, none) :: made) k' := by
  cases h with
  | all hrest haccepts => exact .all (by rw [hrest]; rfl) (.next hfirst haccepts)
  | unmade hrest haccepts => exact .unmade (by rw [hrest]; rfl) (.next hfirst haccepts)
  | refused hrest haccepts hrefused =>
    exact .refused (by rw [hrest]; rfl) (.next hfirst haccepts) hrefused

/-- A first change that can be made is handed over. -/
theorem Submits.ne_nil {change : Change} {rest : List (Except Failure Change)} {k k' : C}
    {failure : Option Failure} {made : List (Change × Option String)}
    (h : T.Submits fs (.ok change :: rest) k failure made k') : made ≠ [] := by
  cases h with
  | all hplanned _ =>
    rintro hmade
    rw [List.map_eq_nil_iff.1 hmade] at hplanned
    cases hplanned
  | unmade hplanned _ =>
    rintro hmade
    rw [List.map_eq_nil_iff.1 hmade] at hplanned
    cases hplanned
  | refused _ _ _ => simp

/-- **Changes are made up to the first failure.** -/
theorem makeAll_submits (planned : List (Except Failure Change)) (k : C) :
    ∃ failure, T.Submits fs planned k failure
        (handed (Request.makeAll (T.make fs) planned k).trace)
        (Request.makeAll (T.make fs) planned k).state ∧
      (Request.makeAll (T.make fs) planned k).reply = failure.elim (.ok ()) .error := by
  induction planned generalizing k with
  | nil => exact ⟨none, .all rfl (.none k), rfl⟩
  | cons change rest ih =>
    rcases change with e | change
    · exact ⟨some e, .unmade rfl (.none k), rfl⟩
    · rcases happly : T.apply fs change k with ⟨refusal, mid⟩
      have hmake : T.make fs change k = ⟨replyOf refusal, mid, [.change change refusal]⟩ := by
        rw [make, happly]
      cases refusal with
      | none =>
        obtain ⟨failure, hrest, hreply⟩ := ih mid
        have hbind := Action.bind_of_ok (x := T.make fs change)
          (f := fun _ => Request.makeAll (T.make fs) rest) (s := k) (a := ()) (by rw [hmake]; rfl)
        rw [hmake] at hbind
        rw [Request.makeAll, hbind]
        exact ⟨failure, hrest.next T fs happly, hreply⟩
      | some words =>
        have hbind := Action.bind_of_error (x := T.make fs change)
          (f := fun _ => Request.makeAll (T.make fs) rest) (s := k)
          (e := .compile (.refused words)) (by rw [hmake]; rfl)
        rw [hmake] at hbind
        rw [Request.makeAll, hbind]
        exact ⟨_, .refused (List.nil_append _).symm (.none k) happly, rfl⟩

theorem handed_closing (r : Request) : handed (r.closing T fs).2 = [] := by
  cases r <;> rfl

/-- **A request is carried out up to the first failure**, with which it is answered. -/
theorem direct_submits (r : Request) (k : C) :
    ∃ failure, T.Submits fs (r.changes T fs) k failure (handed (T.direct fs r k).trace)
        (T.direct fs r k).state ∧
      (T.direct fs r k).reply = failure.elim (.ok (r.closing T fs).1) .error := by
  obtain ⟨failure, hsubmits, hreply⟩ := T.makeAll_submits fs (r.changes T fs) k
  refine ⟨failure, ?_⟩
  cases failure with
  | none =>
    rw [direct, Request.carryOut, Action.bind_of_ok hreply]
    refine ⟨?_, rfl⟩
    rw [handed_append]
    change T.Submits fs _ k none (_ ++ handed (r.closing T fs).2) _
    rw [handed_closing, List.append_nil]
    exact hsubmits
  | some e =>
    rw [direct, Request.carryOut, Action.bind_of_error hreply]
    exact ⟨hsubmits, rfl⟩

end Toolchain

/-! ## The files of a path -/

/-- **The files that a path stands for.** A path at which no directory stands is the only one. Of a
directory they are the rule files at any depth below it, in the order of their names; what is read
there is what stands there, unless the path is too long. It cannot be told what they are if the
directory itself or one below it cannot be listed. -/
structure Collected (shut : String → Prop) (fs : Files) (path : String)
    (files : Except CompileFault (List String)) : Prop where
  itself : fs.isDirectory path = false → files = .ok [path]
  inside : ∀ here entries, fs.locate path = .ok (here, .dir entries) →
    (∀ names, (Node.dir entries).look names = some .dir → ¬ shut (below path names)) →
    ∃ found : List (List String), files = .ok (found.map (below path)) ∧
      found.Pairwise (· < ·) ∧
      (∀ names, names ∈ found ↔ (Node.dir entries).RuleFileAt names) ∧
      ∀ names ∈ found, ∀ data, (Node.dir entries).look names = some (.file data) →
        fs.read (below path names) =
          if (below path names).utf8ByteSize ≤ maxPath then .ok data else .error .nameTooLong
  stopped : ∀ here entries, fs.locate path = .ok (here, .dir entries) →
    ∀ names, (Node.dir entries).look names = some .dir → shut (below path names) →
      ∃ words, files = .error (.unlisted path words)

namespace Toolchain

/-- A toolchain walks through directories in order, all but those that it cannot list. -/
def WalksInOrder (T : Toolchain C R) (shut : Files → String → Prop) : Prop :=
  ∀ fs path here entries, fs.locate path = .ok (here, .dir entries) →
    Files.Walks (shut fs) path (.dir entries) (T.walk fs path)

variable {T : Toolchain C R} {shut : Files → String → Prop} {fs : Files}

theorem ruleFiles_collected (hwalk : T.WalksInOrder shut) (h : fs.root.Tidy) (path : String) :
    Collected (shut fs) fs path (T.ruleFiles fs path) where
  itself hpath := by rw [ruleFiles, hpath, if_neg Bool.false_ne_true]
  inside here entries hlocate hopen := by
    obtain ⟨hpath, -, -, hget⟩ := Files.locate_dir hlocate
    have htidy : (Node.dir entries).Tidy := h.get? hget
    have hdir : fs.isDirectory path = true := by rw [Files.isDirectory, hlocate]
    have hpicked :=
      (Files.picked_walk htidy hpath (hwalk fs path here entries hlocate)).1 hopen
    have hfound (names : List String) :
        names ∈ (Node.dir entries).ruleNames "" ↔ (Node.dir entries).RuleFileAt names := by
      rw [Node.mem_ruleNames htidy, Files.ruleFileAt_iff rfl]
    refine ⟨_, ?_, Node.ruleNames_sorted "" _ htidy, hfound, fun names hmem data hfile => ?_⟩
    · rw [ruleFiles, if_pos hdir, hpicked]
      rfl
    · obtain ⟨above, stem, ext, -, rfl, -⟩ := (hfound names).1 hmem
      exact Files.read_below hlocate (by simp) (htidy.isName hfile) hfile
  stopped here entries hlocate names hnames hshut := by
    obtain ⟨hpath, -, -, hget⟩ := Files.locate_dir hlocate
    have hdir : fs.isDirectory path = true := by rw [Files.isDirectory, hlocate]
    obtain ⟨words, hpicked⟩ :=
      (Files.picked_walk (h.get? hget) hpath (hwalk fs path here entries hlocate)).2 names hnames
        hshut
    exact ⟨words, by rw [ruleFiles, if_pos hdir, hpicked]; rfl⟩

end Toolchain

/-- This library's walks are in order. They cannot list a directory whose path is refused. -/
theorem toolchain_walksInOrder :
    toolchain.WalksInOrder fun _ path => Files.checkPath path ≠ .ok () := by
  intro fs path here entries hlocate
  change Files.Walks _ path (.dir entries) (fs.walk path)
  rw [Files.walk, hlocate]
  exact Files.spotsOf_walks path (.dir entries)

/-! ## Paths -/

section Paths

variable (T : Toolchain C R) (fs : Files)

/-- The changes that adding paths comes to, path by path and file by file: a namespace named by the
path of the file, if that is wanted, which must not be blank, and the source in its bytes. None can
be made for a path when it cannot be told what files it stands for. -/
def plannedFor (paths : List String) (spacePerFile : Bool) : List (Except Failure Change) :=
  paths.flatMap fun path =>
    match T.ruleFiles fs path with
    | .error fault => [.error (.compile fault)]
    | .ok files => files.flatMap fun file =>
      (if spacePerFile then
        [if Text.isBlankText file then .error (.compile .blankNamespace) else .ok (.space file)]
      else []) ++
      [match fs.read file with
        | .ok data => .ok (.source data (some file))
        | .error fault => .error (.compile (.unreadable file fault))]

theorem changes_paths (paths : List String) (spacePerFile : Bool) :
    (Request.paths paths spacePerFile).changes T fs = plannedFor T fs paths spacePerFile := by
  have hfile (file : String) : Request.fileChange fs file = match fs.read file with
      | .ok data => .ok (.source data (some file))
      | .error fault => .error (.compile (.unreadable file fault)) := by
    rw [Request.fileChange]
    cases fs.read file <;> rfl
  rw [Request.changes, plannedFor]
  refine congrArg (List.flatMap · paths) (funext fun path => ?_)
  rw [Request.pathChanges]
  cases T.ruleFiles fs path with
  | error fault => rfl
  | ok files =>
    simp only [Request.filesChanges, hfile]
    rfl

end Paths

namespace Collector

variable {T : Toolchain C R} {shut : Files → String → Prop}

/-- **Adding paths.** -/
theorem addPaths_submits (hwalk : T.WalksInOrder shut) {fs : Files} (h : fs.root.Tidy)
    (paths : List String) (spacePerFile : Bool) (c : Collector C) :
    (∀ path, Collected (shut fs) fs path (T.ruleFiles fs path)) ∧
      ∃ failure, T.Submits fs (plannedFor T fs paths spacePerFile) (hand T c) failure
          (handed (addPaths T fs paths spacePerFile c).trace)
          (hand T (addPaths T fs paths spacePerFile c).state) ∧
        (addPaths T fs paths spacePerFile c).reply =
          failure.elim (.ok (paths.flatMap (Request.filesOf T fs)).length) .error ∧
        ∀ e, failure = some e → ∃ fault, e = .compile fault := by
  refine ⟨Toolchain.ruleFiles_collected hwalk h, ?_⟩
  obtain ⟨failure, hsubmits, hdirect⟩ := T.direct_submits fs (.paths paths spacePerFile) (hand T c)
  obtain ⟨hreply, hstate, hhappen⟩ := ingest_direct T fs (.paths paths spacePerFile) c
  change (addPaths T fs paths spacePerFile c).reply = _ at hreply
  change hand T (addPaths T fs paths spacePerFile c).state = _ at hstate
  change happenings (addPaths T fs paths spacePerFile c).trace = _ at hhappen
  have hhanded : handed (addPaths T fs paths spacePerFile c).trace =
      handed (T.direct fs (.paths paths spacePerFile) (hand T c)).trace := by
    rw [← handed_happenings, hhappen, handed_happenings]
  rw [Reply.map_id, hdirect] at hreply
  refine ⟨failure, ?_, hreply, ?_⟩
  · rw [hhanded, hstate, ← changes_paths]
    exact hsubmits
  · rintro e rfl
    exact direct_error T fs hdirect

end Collector

/-! ## A tree of rule files -/

/-- A directory with another one in it that has the name of a rule file, and with a file that has
only the extension of one. -/
def ruleEntries : List (String × Node) :=
  [("b.YARA", .file "rule b \x7b condition: true \x7d".toUTF8),
    ("a.yar", .dir [("x.yara", .file "rule x \x7b condition: true \x7d".toUTF8)]),
    (".yar", .file .empty),
    ("notes.txt", .file .empty)]

/-- The directory next to a file without the extension of a rule file. -/
def ruleTree : Files where
  root := .dir
    [("rules", .dir ruleEntries), ("one.txt", .file "rule one \x7b condition: true \x7d".toUTF8)]
  cwd := []

theorem ruleTree_tidy : ruleTree.root.Tidy := by
  simp only [ruleTree, ruleEntries, Node.Tidy, Node.TidyEntries, and_true, true_and]
  decide

theorem ruleTree_files :
    toolchain.ruleFiles ruleTree "rules" = .ok ["rules/a.yar/x.yara", "rules/b.YARA"] ∧
      toolchain.ruleFiles ruleTree "one.txt" = .ok ["one.txt"] := by
  refine ⟨?_, rfl⟩
  have hdir : ruleTree.isDirectory "rules" = true := rfl
  have hwalk : toolchain.walk ruleTree "rules" =
      [.ok ⟨"rules", false⟩, .ok ⟨"rules/.yar", true⟩, .ok ⟨"rules/a.yar", false⟩,
        .ok ⟨"rules/a.yar/x.yara", true⟩, .ok ⟨"rules/b.YARA", true⟩,
        .ok ⟨"rules/notes.txt", true⟩] := by
    change Files.spotsOf "rules" (.dir ruleEntries) = _
    have hcheck : Files.checkPath "rules" = .ok () := rfl
    have hinner : Files.checkPath "rules/a.yar" = .ok () := rfl
    have hjoin (name : String) : Files.join "rules" name = "rules/" ++ name := rfl
    have hbelow (name : String) : Files.join "rules/a.yar" name = "rules/a.yar/" ++ name := rfl
    simp [ruleEntries, Files.spotsOf, Files.entrySpots, Files.inOrder, hcheck, hinner, hjoin,
      hbelow, List.mergeSort, List.MergeSort.Internal.splitInTwo]
  rw [Toolchain.ruleFiles, if_pos hdir, hwalk]
  decide +kernel

theorem ruleTree_submits :
    toolchain.WalksInOrder (fun _ path => Files.checkPath path ≠ .ok ()) ∧ ruleTree.root.Tidy ∧
      (Collector.addPaths toolchain ruleTree ["rules", "one.txt"] true {}).reply = .ok 3 ∧
      ∃ made k, toolchain.Submits ruleTree (plannedFor toolchain ruleTree ["rules", "one.txt"] true)
        (toolchain.start {}) none made k := by
  obtain ⟨-, failure, hsubmits, hreply, -⟩ :=
    Collector.addPaths_submits toolchain_walksInOrder ruleTree_tidy ["rules", "one.txt"] true {}
  obtain ⟨hrules, hone⟩ := ruleTree_files
  have hok : (Collector.addPaths toolchain ruleTree ["rules", "one.txt"] true {}).reply.isOk := by
    rw [Collector.addPaths, Collector.addEach, Collector.addEach, Collector.addEach, hrules, hone]
    decide +kernel
  cases failure with
  | none =>
    refine ⟨toolchain_walksInOrder, ruleTree_tidy, ?_, _, _, hsubmits⟩
    simp [hreply, Request.filesOf, hrules, hone, Except.toOption]
  | some e =>
    rw [hreply] at hok
    cases hok

/-! ## A directory that cannot be walked through -/

/-- A directory with a rule file and an empty directory in it. -/
def nestedEntries : List (String × Node) :=
  [("a.yar", .file "rule a \x7b condition: true \x7d".toUTF8), ("subdir", .dir [])]

/-- The directory, alone in a tree. -/
def nestedTree : Files := { root := .dir [("d", .dir nestedEntries)], cwd := [] }

theorem nestedTree_tidy : nestedTree.root.Tidy := by
  simp only [nestedTree, nestedEntries, Node.Tidy, Node.TidyEntries, and_true, true_and]
  decide

theorem nestedEntries_files (names : List String) :
    (Node.dir nestedEntries).RuleFileAt names ↔ names = ["a.yar"] := by
  have hget : nestedTree.root.get? ["d"] = some (.dir nestedEntries) := rfl
  have htidy : (Node.dir nestedEntries).Tidy := nestedTree_tidy.get? hget
  have hnames : (Node.dir nestedEntries).ruleNames "" = [["a.yar"]] := by
    have hrule : Files.isRuleFile "a.yar" = true := by decide +kernel
    simp [nestedEntries, Node.ruleNames, Node.entryNames, Files.inOrder, hrule, List.mergeSort,
      List.MergeSort.Internal.splitInTwo]
  rw [Files.ruleFileAt_iff rfl, ← Node.mem_ruleNames htidy, hnames, List.mem_singleton]

section Padded

/-! Slashes behind the path of the directory, `n` of them, leave room for the name of the rule file
and none for that of the directory next to it. -/

variable {n : Nat} (hn : n = 4089)

include hn

theorem checkPath_padded {name : String} (hname : '\x00' ∉ name.toList) :
    Files.checkPath (Path.padded "d" n ++ name) =
      if 4090 + name.utf8ByteSize ≤ maxPath then .ok () else .error .nameTooLong := by
  have hsize : (Path.padded "d" n ++ name).utf8ByteSize = 4090 + name.utf8ByteSize := by
    have hd : "d".utf8ByteSize = 1 := rfl
    rw [String.utf8ByteSize_append, Path.padded_size, hd, hn]
  have hnul : '\x00' ∉ (Path.padded "d" n ++ name).toList := by
    simpa [Path.padded_toList] using hname
  have hne : Path.padded "d" n ++ name ≠ "" := by
    simp [← String.toList_inj, Path.padded_toList]
  rw [Files.checkPath, if_neg (by simpa using hnul), if_neg (by simpa using hne), hsize]
  split_ifs <;> first | rfl | omega

theorem checkPath_padded_self : Files.checkPath (Path.padded "d" n) = .ok () := by
  have hnul : '\x00' ∉ "".toList := by decide
  have hempty := checkPath_padded hn hnul
  rwa [String.append_empty] at hempty

theorem join_padded (name : String) :
    Files.join (Path.padded "d" n) name = Path.padded "d" n ++ name := by
  obtain ⟨m, rfl⟩ : ∃ m, n = m + 1 := ⟨4088, hn⟩
  exact Path.join_padded m name

theorem locate_padded :
    nestedTree.locate (Path.padded "d" n) = .ok (["d"], .dir nestedEntries) := by
  have hd : "d" ≠ "" := by decide
  obtain ⟨habsolute, hnames⟩ := Path.parse_padded hd n
  have hdown : Files.descend nestedTree.root (nestedTree.start (Path.parse (Path.padded "d" n)))
      (Path.parse (Path.padded "d" n)).names = .ok ["d"] := by
    rw [Files.start, habsolute, hnames]
    rfl
  have hget : nestedTree.root.get? ["d"] = some (.dir nestedEntries) := rfl
  simp [Files.locate, checkPath_padded_self hn, hdown, hget, bind, Except.bind]

theorem read_padded :
    nestedTree.read (Path.padded "d" n ++ "a.yar") =
      .ok "rule a \x7b condition: true \x7d".toUTF8 := by
  have hbelow : below (Path.padded "d" n) ["a.yar"] = Path.padded "d" n ++ "a.yar" :=
    join_padded hn "a.yar"
  have hsize : (Path.padded "d" n ++ "a.yar").utf8ByteSize = 4095 := by
    have hd : "d".utf8ByteSize = 1 := rfl
    have hname : "a.yar".utf8ByteSize = 5 := rfl
    rw [String.utf8ByteSize_append, Path.padded_size, hd, hname, hn]
  have hnames : ∀ name ∈ ["a.yar"], IsName name := by decide
  have hread := Files.read_below (locate_padded hn) (by simp) hnames rfl
  rwa [hbelow, hsize, if_pos (by decide)] at hread

theorem ruleFiles_padded :
    toolchain.ruleFiles nestedTree (Path.padded "d" n) =
      .error (.unlisted (Path.padded "d" n)
        (Files.walkWords (Path.padded "d" n ++ "subdir") .nameTooLong)) := by
  have hdir : nestedTree.isDirectory (Path.padded "d" n) = true := by
    rw [Files.isDirectory, locate_padded hn]
  have hinner : Files.checkPath (Path.padded "d" n ++ "subdir") = .error .nameTooLong :=
    checkPath_padded hn (by decide)
  have hwalk : toolchain.walk nestedTree (Path.padded "d" n) =
      [.ok ⟨Path.padded "d" n, false⟩, .ok ⟨Path.padded "d" n ++ "a.yar", true⟩,
        .ok ⟨Path.padded "d" n ++ "subdir", false⟩,
        .error (Files.walkWords (Path.padded "d" n ++ "subdir") .nameTooLong)] := by
    change nestedTree.walk (Path.padded "d" n) = _
    rw [Files.walk, locate_padded hn]
    simp [nestedEntries, Files.spotsOf, Files.entrySpots, Files.inOrder, checkPath_padded_self hn,
      hinner, join_padded hn, List.mergeSort, List.MergeSort.Internal.splitInTwo]
  rw [Toolchain.ruleFiles, if_pos hdir, hwalk]
  rfl

end Padded

/-- **What a walk has come to is lost when it fails.** The path of the directory is as long as it
can be for the rule file in it to be read, and the directory next to that file cannot be listed:
the rule file is never handed to the compiler. -/
theorem longPath_submits_nothing :
    let source := "rule a \x7b condition: true \x7d".toUTF8
    let path := Path.padded "d" 4089
    let t := Collector.addPaths toolchain nestedTree [path] false {}
    nestedTree.root.Tidy ∧ nestedTree.locate path = .ok (["d"], .dir nestedEntries) ∧
      (∀ names, (Node.dir nestedEntries).RuleFileAt names ↔ names = ["a.yar"]) ∧
      nestedTree.read (path ++ "a.yar") = .ok source ∧
      t.reply = .error (.compile
        (.unlisted path (Files.walkWords (path ++ "subdir") .nameTooLong))) ∧
      ¬ ∃ failure k, toolchain.Submits nestedTree
        [.ok (.source source (some (path ++ "a.yar")))] (toolchain.start {}) failure
        (handed t.trace) k := by
  intro source path t
  have ht : t = ⟨.error (.compile
      (.unlisted path (Files.walkWords (path ++ "subdir") .nameTooLong))), {}, []⟩ := by
    change Collector.addPaths toolchain nestedTree [path] false {} = _
    rw [Collector.addPaths, Collector.addEach, ruleFiles_padded rfl]
    rfl
  refine ⟨nestedTree_tidy, locate_padded rfl, nestedEntries_files, read_padded rfl, by rw [ht], ?_⟩
  rw [ht]
  rintro ⟨failure, k, h⟩
  exact h.ne_nil toolchain nestedTree rfl

end Rules

end RuleScan
