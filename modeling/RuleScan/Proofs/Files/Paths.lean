import RuleScan.Proofs.Files.Tree

/-!
# Operations at paths

What the operations on files do, said by what stands in the tree. Going down by some names
(`descend`) ends in the same place in every tree in which at least as much stands (`descend_mono`).
A file that was written is read back at the path at which it was written, and nothing else changes
(`write_eq_ok`, `read_of_write`). Names without a step upwards lead to what stands at them
(`descend_plain`).
-/

namespace RuleScan.Files

/-! ## Going down -/

theorem descend_cons (root : Node) (here : List String) (name : String) (rest : List String) :
    descend root here (name :: rest) =
      if root.look here = some .dir then
        if name = ".." then descend root here.dropLast rest
        else if name.utf8ByteSize > maxName then .error .nameTooLong
        else if root.look (here ++ [name]) = none then .error .notFound
        else descend root (here ++ [name]) rest
      else .error .notDirectory := by
  have hchild (entries : List (String × Node)) (hdir : root.get? here = some (.dir entries)) :
      ((Node.dir entries).child? name).isNone ↔ root.look (here ++ [name]) = none := by
    rw [Node.look_append, hdir, Option.bind_some, Node.look_cons]
    cases (Node.dir entries).child? name <;> simp
  rw [descend, Node.look]
  split
  next entries hdir =>
    rw [hdir]
    simp only [Option.map_some, Node.entry, if_true, hchild entries hdir]
  next hdir =>
    rw [if_neg]
    intro h
    obtain ⟨entries, he⟩ := Node.eq_dir_of_look h
    exact hdir entries he

theorem descend_append (root : Node) (here above below : List String) :
    descend root here (above ++ below) =
      (descend root here above).bind fun there => descend root there below := by
  induction above generalizing here with
  | nil => rfl
  | cons name rest ih =>
    rw [List.cons_append, descend_cons, descend_cons]
    split_ifs
    · exact ih _
    · rfl
    · rfl
    · exact ih _
    · rfl

/-- A tree in which the directories of another one stand, and something wherever something stands in
the other one. -/
structure Covers (root below : Node) : Prop where
  dir : ∀ {names}, below.look names = some .dir → root.look names = some .dir
  some : ∀ {names}, (below.look names).isSome → (root.look names).isSome

/-- The way down stays as it is when more is put into a tree. -/
theorem descend_mono {root below : Node} (h : Covers root below) {here names there : List String}
    (hd : descend below here names = .ok there) : descend root here names = .ok there := by
  induction names generalizing here with
  | nil => exact hd
  | cons name rest ih =>
    rw [descend_cons] at hd
    split_ifs at hd with hdir hup hlong hnone
    · rw [descend_cons, if_pos (h.dir hdir), if_pos hup]
      exact ih hd
    · have hsome := h.some (Option.isSome_iff_ne_none.2 hnone)
      rw [descend_cons, if_pos (h.dir hdir), if_neg hup, if_neg hlong,
        if_neg (Option.isSome_iff_ne_none.1 hsome)]
      exact ih hd

/-- Names without a step upwards lead to what stands at them. -/
theorem descend_plain {root : Node} {here names there : List String} (hup : ".." ∉ names) :
    descend root here names = .ok there ↔
      there = here ++ names ∧ (∀ name ∈ names, name.utf8ByteSize ≤ maxName) ∧
        (names = [] ∨ (root.look (here ++ names)).isSome) := by
  induction names generalizing here with
  | nil =>
    rw [descend, List.append_nil, Except.ok.injEq]
    constructor
    · rintro rfl
      exact ⟨rfl, by simp, .inl rfl⟩
    · exact fun h => h.1.symm
  | cons name rest ih =>
    obtain ⟨hname, hrest⟩ : name ≠ ".." ∧ ".." ∉ rest := by simpa [eq_comm] using hup
    have hassoc : here ++ [name] ++ rest = here ++ name :: rest := by simp
    rw [descend_cons, if_neg hname]
    split_ifs with hdir hlong hnone
    · simp only [List.forall_mem_cons, false_iff]
      exact fun h => absurd h.2.1.1 (Nat.not_le.2 hlong)
    · have hbelow : root.look (here ++ name :: rest) = none := by
        by_cases h : rest = []
        · rw [← hassoc, h, List.append_nil, hnone]
        · refine Node.look_below (by simp [hnone]) ⟨rest, hassoc⟩ ?_
          rw [← hassoc]
          simpa using h
      simp [hbelow]
    · rw [ih hrest, hassoc, List.forall_mem_cons]
      have hthere : rest = [] → (root.look (here ++ name :: rest)).isSome := by
        rintro rfl
        exact Option.isSome_iff_ne_none.2 hnone
      have hshort : name.utf8ByteSize ≤ maxName := Nat.not_lt.1 hlong
      simp only [hshort, true_and, false_or]
      constructor
      · rintro ⟨h, hlen, hempty | hsome⟩
        · exact ⟨h, hlen, hthere hempty⟩
        · exact ⟨h, hlen, hsome⟩
      · rintro ⟨h, hlen, hsome⟩
        exact ⟨h, hlen, .inr hsome⟩
    · simp only [false_iff]
      rintro ⟨-, -, h | h⟩
      · cases h
      · exact hdir (Node.look_of_isSome_append h)

/-! ## Reading and writing -/

theorem locate_file {fs : Files} {path : String} {names : List String} {data : ByteArray} :
    fs.locate path = .ok (names, .file data) ↔
      checkPath path = .ok () ∧ (Path.parse path).slashed = false ∧
      descend fs.root (fs.start (Path.parse path)) (Path.parse path).names = .ok names ∧
      fs.root.look names = some (.file data) := by
  rw [locate]
  rcases checkPath path with e | ⟨⟩
  · simp [bind, Except.bind]
  rcases hd : descend fs.root (fs.start (Path.parse path)) (Path.parse path).names with e | there
  · simp [bind, Except.bind, hd]
  by_cases hthere : there = names
  · subst hthere
    rcases h : fs.root.get? there with _ | ⟨other⟩ | entries
    · simp [bind, Except.bind, hd, h, Node.look_eq_file]
    · cases hs : (Path.parse path).slashed <;>
        simp [bind, Except.bind, hd, h, hs, Node.look_eq_file]
    · simp [bind, Except.bind, hd, h, Node.look_eq_file]
  · rcases h : fs.root.get? there with _ | ⟨other⟩ | entries
    · simp [bind, Except.bind, hd, h, hthere]
    · cases hs : (Path.parse path).slashed <;> simp [bind, Except.bind, hd, h, hs, hthere]
    · simp [bind, Except.bind, hd, h, hthere]

/-- What can be read is a file. -/
theorem read_eq_ok {fs : Files} {path : String} {data : ByteArray} :
    fs.read path = .ok data ↔ ∃ names, fs.locate path = .ok (names, .file data) := by
  rw [read]
  rcases fs.locate path with e | ⟨names, ⟨other⟩ | entries⟩ <;> simp [bind, Except.bind]

/-- What can be removed is a file. -/
theorem remove_eq_ok {fs fs' : Files} {path : String} :
    fs.remove path = .ok fs' ↔
      ∃ names data, fs.locate path = .ok (names, .file data) ∧
        fs' = { fs with root := fs.root.erase names } := by
  rw [remove]
  rcases fs.locate path with e | ⟨names, ⟨other⟩ | entries⟩ <;> simp [bind, Except.bind, eq_comm]

theorem place_concat {fs : Files} {p : Path} {above : List String} {name : String}
    (h : p.names = above ++ [name]) :
    fs.place p = (descend fs.root (fs.start p) above).bind fun here =>
      if fs.root.look here = some .dir then
        if name = ".." then .ok (here.dropLast, none)
        else if name.utf8ByteSize > maxName then .error .nameTooLong
        else .ok (here, some name)
      else .error .notDirectory := by
  simp only [place, h, List.getLast?_append, List.getLast?_singleton, Option.some_or,
    List.dropLast_concat]
  refine congrArg (Except.bind _) (funext fun here => ?_)
  rcases hlook : fs.root.get? here with _ | ⟨data⟩ | entries <;> simp [Node.look, Node.entry, hlook]

/-- Something new stands in a directory that is there, by a name that may stand in it. -/
theorem place_eq_ok {fs : Files} {p : Path} {here : List String} {name : String} :
    fs.place p = .ok (here, some name) ↔
      ∃ above, p.names = above ++ [name] ∧ descend fs.root (fs.start p) above = .ok here ∧
        fs.root.look here = some .dir ∧ name ≠ ".." ∧ name.utf8ByteSize ≤ maxName := by
  constructor
  · intro h
    rcases p.names.eq_nil_or_concat with hnil | ⟨above, last, hnames⟩
    · simp [place, hnil] at h
    rw [List.concat_eq_append] at hnames
    rw [place_concat hnames] at h
    rcases hd : descend fs.root (fs.start p) above with e | there
    · simp [Except.bind, hd] at h
    simp only [Except.bind, hd] at h
    split_ifs at h with hdir hup hlong
    · simp at h
    · obtain ⟨rfl, rfl⟩ : there = here ∧ last = name := by simpa using h
      exact ⟨above, hnames, hd, hdir, hup, Nat.not_lt.1 hlong⟩
  · rintro ⟨above, hnames, hd, hdir, hup, hshort⟩
    rw [place_concat hnames, hd, Except.bind, if_pos hdir, if_neg hup,
      if_neg (Nat.not_lt.2 hshort)]

/-- What is written stands in a directory that is there; nothing but a file may be replaced. -/
theorem write_eq_ok {fs fs' : Files} {path : String} {data : ByteArray} :
    fs.write path data = .ok fs' ↔
      checkPath path = .ok () ∧ (Path.parse path).slashed = false ∧
      ∃ here name, fs.place (Path.parse path) = .ok (here, some name) ∧
        fs.root.look (here ++ [name]) ≠ some .dir ∧
        fs' = { fs with root := fs.root.put (here ++ [name]) (.file data) } := by
  rw [write]
  rcases checkPath path with e | ⟨⟩
  · simp [bind, Except.bind]
  rcases hplace : fs.place (Path.parse path) with e | ⟨here, _ | name⟩
  · simp [bind, Except.bind, hplace]
  · simp [bind, Except.bind, hplace]
  simp only [bind, Except.bind, hplace]
  rcases h : fs.root.get? (here ++ [name]) with _ | ⟨other⟩ | entries
  · cases hs : (Path.parse path).slashed <;> simp [Node.look, h, eq_comm]
  · cases hs : (Path.parse path).slashed <;> simp [Node.look, Node.entry, h, eq_comm]
  · simp [Node.look, Node.entry, h]

/-- A path that does not end in a slash has a name. -/
theorem names_ne_nil {path : String} (h : (Path.parse path).slashed = false) :
    (Path.parse path).names ≠ [] := by
  have hsegments : Path.segments path ≠ [] := by
    simp [Path.segments, List.splitOn_ne_nil]
  have hlast := List.getLast_mem hsegments
  simp only [Path.parse, List.getLast?_eq_some_getLast hsegments, Option.any_some] at h
  refine List.ne_nil_of_mem (a := (Path.segments path).getLast hsegments) ?_
  simpa [Path.parse, hlast] using h

/-! ## What a written file changes -/

theorem covers_put_file {root : Node} {here : List String} {name : String}
    (hdir : root.look here = some .dir) (hnot : root.look (here ++ [name]) ≠ some .dir)
    (data : ByteArray) :
    Covers (root.put (here ++ [name]) (.file data)) root where
  dir {names} h := by
    rw [Node.look_put_file hdir hnot, if_neg]
    · exact h
    · rintro rfl
      exact hnot h
  some {names} h := by
    rw [Node.look_put_file hdir hnot]
    split_ifs
    · rfl
    · exact h

/-- The way down to something new, once it is there. -/
theorem descend_placed {fs : Files} {p : Path} {here : List String} {name : String} {root : Node}
    (hplace : fs.place p = .ok (here, some name)) (hcovers : Covers root fs.root)
    (hthere : root.look (here ++ [name]) ≠ none) :
    descend root (fs.start p) p.names = .ok (here ++ [name]) := by
  obtain ⟨above, hnames, hdown, hdir, hup, hshort⟩ := place_eq_ok.1 hplace
  have hlast : descend root here [name] = .ok (here ++ [name]) := by
    rw [descend_cons, if_pos (hcovers.dir hdir), if_neg hup, if_neg (Nat.not_lt.2 hshort),
      if_neg hthere, descend]
  rw [hnames, descend_append]
  exact (congrArg (Except.bind · _) (descend_mono hcovers hdown)).trans hlast

/-- A file that was written is found where it was placed. -/
theorem locate_of_write {fs fs' : Files} {path : String} {data : ByteArray}
    (h : fs.write path data = .ok fs') :
    ∃ here name, fs.root.look here = some .dir ∧ fs.root.look (here ++ [name]) ≠ some .dir ∧
      fs' = { fs with root := fs.root.put (here ++ [name]) (.file data) } ∧
      fs'.locate path = .ok (here ++ [name], .file data) := by
  obtain ⟨hcheck, hslash, here, name, hplace, hnot, rfl⟩ := write_eq_ok.1 h
  obtain ⟨above, -, -, hdir, -⟩ := place_eq_ok.1 hplace
  have hfile : (fs.root.put (here ++ [name]) (.file data)).look (here ++ [name]) =
      some (.file data) := by
    rw [Node.look_put_file hdir hnot, if_pos rfl]
  have hdown := descend_placed hplace (covers_put_file hdir hnot data) (by simp [hfile])
  exact ⟨here, name, hdir, hnot, rfl, locate_file.2 ⟨hcheck, hslash, hdown, hfile⟩⟩

/-- **Reading back** what was written. -/
theorem read_of_write {fs fs' : Files} {path : String} {data : ByteArray}
    (h : fs.write path data = .ok fs') : fs'.read path = .ok data := by
  obtain ⟨here, name, -, -, -, hlocate⟩ := locate_of_write h
  exact read_eq_ok.2 ⟨_, hlocate⟩

/-- Two paths of one file. -/
def SameFile (fs : Files) (path other : String) : Prop :=
  ∃ names data, fs.locate path = .ok (names, .file data) ∧ fs.locate other = .ok (names, .file data)

/-- A path of a file stays one where the files that were there are covered. -/
theorem locate_of_covers {fs fs' : Files} {path : String} {names : List String}
    {old data : ByteArray} (hcovers : Covers fs'.root fs.root) (hcwd : fs'.cwd = fs.cwd)
    (h : fs.locate path = .ok (names, .file old))
    (hfile : fs'.root.look names = some (.file data)) :
    fs'.locate path = .ok (names, .file data) := by
  obtain ⟨hcheck, hslash, hdown, -⟩ := locate_file.1 h
  refine locate_file.2 ⟨hcheck, hslash, ?_, hfile⟩
  rw [start, hcwd]
  exact descend_mono hcovers hdown

/-- What is read at a path stays as long as another file is written. -/
theorem read_of_write_other {fs fs' : Files} {path other : String} {data written : ByteArray}
    (h : fs.write other written = .ok fs') (hread : fs.read path = .ok data)
    (hother : ¬ fs'.SameFile path other) : fs'.read path = .ok data := by
  obtain ⟨names, hlocate⟩ := read_eq_ok.1 hread
  obtain ⟨here, name, hdir, hnot, hnew, hplace⟩ := locate_of_write h
  have hold : fs.root.look names = some (.file data) := (locate_file.1 hlocate).2.2.2
  have hcovers : Covers fs'.root fs.root := by
    rw [hnew]
    exact covers_put_file hdir hnot written
  have hcwd : fs'.cwd = fs.cwd := by rw [hnew]
  have hlook : fs'.root.look names =
      if names = here ++ [name] then some (.file written) else fs.root.look names := by
    rw [hnew, Node.look_put_file hdir hnot]
  by_cases heq : names = here ++ [name]
  · rw [if_pos heq] at hlook
    have hfound := locate_of_covers hcovers hcwd hlocate hlook
    rw [heq] at hfound
    exact absurd ⟨_, _, hfound, hplace⟩ hother
  · rw [if_neg heq, hold] at hlook
    exact read_eq_ok.2 ⟨names, locate_of_covers hcovers hcwd hlocate hlook⟩

end RuleScan.Files
