import RuleScan.Proofs.Files.Directories

/-!
# Plain paths

A path from the working directory that never leads upwards stands for one place, whatever else is in
the tree (`read_plain`). Writing and removing at such a path replace what stands there and leave all
other files as they are (`write_plain`, `remove_plain`); a file can be written where there is a
place for it (`write_isOk`).
-/

namespace RuleScan

namespace Path

/-- A path from the working directory that never leads upwards. -/
def Plain (path : String) : Prop := (parse path).absolute = false ∧ ".." ∉ (parse path).names

/-- Texts for one path: they are cut into the same names, and none of them has a fault that the
others have not. -/
def Same (path other : String) : Prop :=
  parse path = parse other ∧ Files.checkPath path = Files.checkPath other

instance (path other : String) : Decidable (Same path other) :=
  inferInstanceAs (Decidable (_ ∧ _))

instance (path : String) : Decidable (Plain path) := inferInstanceAs (Decidable (_ ∧ _))

theorem mem_of_mem_splitOnP {p : Char → Bool} {text piece : List Char} {c : Char}
    (hpiece : piece ∈ text.splitOnP p) (hc : c ∈ piece) : c ∈ text := by
  induction text generalizing piece with
  | nil => simp_all
  | cons first rest ih =>
    rw [List.splitOnP_cons_eq_if_modifyHead] at hpiece
    obtain ⟨head, tail, hsplit⟩ := List.exists_cons_of_ne_nil (List.splitOnP_ne_nil p rest)
    rw [hsplit] at ih hpiece
    split_ifs at hpiece
    · rcases List.mem_cons.1 hpiece with rfl | hpiece
      · cases hc
      · exact List.mem_cons_of_mem _ (ih hpiece hc)
    · rcases List.mem_cons.1 hpiece with rfl | hpiece
      · rcases List.mem_cons.1 hc with rfl | hc
        · exact List.mem_cons_self
        · exact List.mem_cons_of_mem _ (ih List.mem_cons_self hc)
      · exact List.mem_cons_of_mem _ (ih (List.mem_cons_of_mem _ hpiece) hc)

/-- The names of a path are made of its characters. -/
theorem mem_of_mem_names {path name : String} {c : Char} (hname : name ∈ (parse path).names)
    (hc : c ∈ name.toList) : c ∈ path.toList := by
  have hsegment : name ∈ segments path := List.mem_of_mem_filter hname
  obtain ⟨piece, hpiece, rfl⟩ := List.mem_map.1 hsegment
  rw [String.toList_ofList] at hc
  exact mem_of_mem_splitOnP hpiece hc

end Path

namespace Files

variable {fs fs' : Files} {path other : String} {data : ByteArray}

theorem read_same (h : Path.Same path other) : fs.read path = fs.read other := by
  rw [read, read, locate, locate, h.1, h.2]

/-- What can be read at a path, if anything can. -/
def content (fs : Files) (path : String) : Option ByteArray := (fs.read path).toOption

theorem content_eq_some : fs.content path = some data ↔ fs.read path = .ok data := by
  rw [content]
  rcases fs.read path with e | other <;> simp [Except.toOption]

theorem content_same (h : Path.Same path other) : fs.content path = fs.content other := by
  rw [content, content, read_same h]

/-- Where a plain path leads to. -/
def target (fs : Files) (path : String) : List String := fs.cwd ++ (Path.parse path).names

/-- Whether a text may be the path of a file. -/
def Nameable (path : String) : Prop :=
  checkPath path = .ok () ∧ (Path.parse path).slashed = false

theorem locate_plain (h : Path.Plain path) {names : List String} :
    fs.locate path = .ok (names, .file data) ↔
      Nameable path ∧ (∀ name ∈ (Path.parse path).names, name.utf8ByteSize ≤ maxName) ∧
        fs.root.look (fs.target path) = some (.file data) ∧ names = fs.target path := by
  rw [locate_file, start, h.1, if_neg Bool.false_ne_true, descend_plain h.2]
  constructor
  · rintro ⟨hcheck, hslash, ⟨rfl, hshort, -⟩, hfile⟩
    exact ⟨⟨hcheck, hslash⟩, hshort, hfile, rfl⟩
  · rintro ⟨⟨hcheck, hslash⟩, hshort, hfile, rfl⟩
    refine ⟨hcheck, hslash, ⟨rfl, hshort, .inr ?_⟩, hfile⟩
    rw [target] at hfile
    rw [hfile]
    rfl

/-- Reading at a plain path. -/
theorem read_plain (h : Path.Plain path) :
    fs.read path = .ok data ↔
      Nameable path ∧ (∀ name ∈ (Path.parse path).names, name.utf8ByteSize ≤ maxName) ∧
        fs.root.look (fs.target path) = some (.file data) := by
  rw [read_eq_ok]
  simp only [locate_plain h]
  constructor
  · rintro ⟨_, hname, hshort, hfile, -⟩
    exact ⟨hname, hshort, hfile⟩
  · rintro ⟨hname, hshort, hfile⟩
    exact ⟨_, hname, hshort, hfile, rfl⟩

/-- New directories change nothing that can be read. -/
theorem Grows.content (h : fs.Grows fs') (hp : Path.Plain path) :
    fs'.content path = fs.content path := by
  refine Option.ext fun data => ?_
  rw [content_eq_some, content_eq_some, read_plain hp, read_plain hp, target, target, h.cwd,
    h.file_iff]

/-- What becomes of files where what stands in one place is replaced by a file or by nothing. -/
structure Replaces (fs fs' : Files) (place : List String) (new : Option ByteArray) : Prop where
  cwd : fs'.cwd = fs.cwd
  file : ∀ names data, fs'.root.look names = some (.file data) ↔
    if names = place then new = some data else fs.root.look names = some (.file data)

namespace Replaces

variable {new : Option ByteArray}

/-- What can be read at another path stays. -/
theorem content_of_ne (h : fs.Replaces fs' (fs.target other) new) (hother : Nameable other)
    (hp : Path.Plain path) (ho : Path.Plain other) (hne : ¬ Path.Same path other) :
    fs'.content path = fs.content path := by
  refine Option.ext fun data => ?_
  rw [content_eq_some, content_eq_some, read_plain hp, read_plain hp]
  refine and_congr_right fun hname => and_congr_right fun _ => ?_
  have hplace : fs'.target path ≠ fs.target other := by
    intro heq
    rw [target, target, h.cwd, List.append_cancel_left_eq] at heq
    refine hne ⟨?_, hname.1.trans hother.1.symm⟩
    have hfields : (Path.parse path).absolute = (Path.parse other).absolute ∧
        (Path.parse path).names = (Path.parse other).names ∧
        (Path.parse path).slashed = (Path.parse other).slashed :=
      ⟨hp.1.trans ho.1.symm, heq, hname.2.trans hother.2.symm⟩
    cases hpath : Path.parse path
    cases hparse : Path.parse other
    simpa [hpath, hparse] using hfields
  rw [h.file, if_neg hplace, target, target, h.cwd]

/-- What is left at the place itself. -/
theorem content_removed (h : fs.Replaces fs' (fs.target path) none) (hp : Path.Plain path) :
    fs'.content path = none := by
  refine Option.eq_none_iff_forall_ne_some.2 fun data => ?_
  rw [Ne, content_eq_some, read_plain hp, h.file, target, target, h.cwd, if_pos rfl]
  simp

end Replaces

/-! ## Writing -/

/-- A file can stand at a plain path: all that leads there can be made, and it is no directory. -/
structure HasPlace (fs : Files) (path : String) : Prop where
  name : Nameable path
  short : ∀ name ∈ (Path.parse path).names, name.utf8ByteSize ≤ maxName
  above : fs.HasRoom (Path.parse path).names.dropLast
  notDir : fs.root.look (fs.target path) ≠ some .dir

theorem write_plain (h : Path.Plain path) (hwrite : fs.write path data = .ok fs') :
    fs.Replaces fs' (fs.target path) (some data) ∧ Nameable path ∧
      (∀ name ∈ (Path.parse path).names, name.utf8ByteSize ≤ maxName) ∧
      fs.root.look (fs.cwd ++ (Path.parse path).names.dropLast) = some .dir ∧
      fs.root.look (fs.target path) ≠ some .dir := by
  obtain ⟨hcheck, hslash, here, name, hplace, hnot, rfl⟩ := write_eq_ok.1 hwrite
  obtain ⟨above, hnames, hdown, hdir, hup, hshort⟩ := place_eq_ok.1 hplace
  have hupAbove : ".." ∉ above := fun hmem => h.2 (by simp [hnames, hmem])
  rw [start, h.1, if_neg Bool.false_ne_true, descend_plain hupAbove] at hdown
  obtain ⟨rfl, hshortAbove, -⟩ := hdown
  have htarget : fs.cwd ++ above ++ [name] = fs.target path := by
    rw [target, hnames, List.append_assoc]
  refine ⟨⟨rfl, fun names other => ?_⟩, ⟨hcheck, hslash⟩, ?_, ?_, htarget ▸ hnot⟩
  · rw [Node.look_put_file hdir hnot, htarget]
    split_ifs <;> simp
  · rw [hnames]
    simpa [or_imp, forall_and] using ⟨hshortAbove, hshort⟩
  · rw [hnames, List.dropLast_concat]
    exact hdir

/-- Writing where all directories are there. -/
theorem write_isOk (h : Path.Plain path) (hname : Nameable path)
    (hshort : ∀ name ∈ (Path.parse path).names, name.utf8ByteSize ≤ maxName)
    (hdir : fs.root.look (fs.cwd ++ (Path.parse path).names.dropLast) = some .dir)
    (hnot : fs.root.look (fs.target path) ≠ some .dir) (data : ByteArray) :
    ∃ fs', fs.write path data = .ok fs' := by
  rcases (Path.parse path).names.eq_nil_or_concat with hnil | ⟨above, last, hnames⟩
  · exact absurd hnil (names_ne_nil hname.2)
  rw [List.concat_eq_append] at hnames
  have hplain := h.2
  rw [target] at hnot
  rw [hnames] at hshort hdir hnot hplain
  rw [List.dropLast_concat] at hdir
  obtain ⟨hupAbove, hlast⟩ : ".." ∉ above ∧ last ≠ ".." := by simpa [eq_comm] using hplain
  obtain ⟨hshortAbove, hshortLast⟩ : (∀ n ∈ above, n.utf8ByteSize ≤ maxName) ∧
      last.utf8ByteSize ≤ maxName := by simpa [or_imp, forall_and] using hshort
  have hdown : descend fs.root (fs.start (Path.parse path)) above = .ok (fs.cwd ++ above) := by
    rw [start, h.1, if_neg Bool.false_ne_true, descend_plain hupAbove]
    exact ⟨rfl, hshortAbove, .inr (by rw [hdir]; rfl)⟩
  have hplace := place_eq_ok.2 ⟨above, hnames, hdown, hdir, hlast, hshortLast⟩
  rw [← List.append_assoc] at hnot
  exact ⟨_, write_eq_ok.2 ⟨hname.1, hname.2, _, _, hplace, hnot, rfl⟩⟩

/-! ## Removing -/

theorem remove_plain (h : Path.Plain path) (hremove : fs.remove path = .ok fs') :
    fs.Replaces fs' (fs.target path) none ∧ Nameable path := by
  obtain ⟨names, data, hlocate, rfl⟩ := remove_eq_ok.1 hremove
  obtain ⟨hname, -, hfile, rfl⟩ := (locate_plain h).1 hlocate
  obtain ⟨above, last, hnames⟩ : ∃ above last, fs.target path = above ++ [last] := by
    rcases (fs.target path).eq_nil_or_concat with hnil | ⟨above, last, hconcat⟩
    · exact absurd (List.append_eq_nil_iff.1 hnil).2 (names_ne_nil hname.2)
    · exact ⟨above, last, hconcat.trans (List.concat_eq_append ..)⟩
  refine ⟨⟨rfl, fun names other => ?_⟩, hname⟩
  rw [hnames] at hfile ⊢
  rw [Node.look_erase_file hfile]
  split_ifs <;> simp

end Files

end RuleScan
