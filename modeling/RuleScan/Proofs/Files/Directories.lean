import RuleScan.Proofs.Files.Paths

/-!
# Making directories

`Files.makeDirectories` makes the directories that are missing, the lowest of them first of all if
the one above it is there. It adds directories and nothing else (`makeDirectories_grows`), also
where it fails in the end. Below the working directory it succeeds exactly where there is room for
the directories: where no name is too long and none of them is the name of a file
(`makeDirectories_ok`).
-/

namespace RuleScan.Files

/-! ## New directories -/

/-- What files become when new directories are made. -/
structure Grows (fs fs' : Files) : Prop where
  cwd : fs'.cwd = fs.cwd
  kept : ∀ {names e}, fs.root.look names = some e → fs'.root.look names = some e
  old : ∀ {names data}, fs'.root.look names = some (.file data) →
    fs.root.look names = some (.file data)

namespace Grows

variable {fs fs' fs'' : Files}

theorem refl (fs : Files) : fs.Grows fs := ⟨rfl, id, id⟩

theorem trans (h : fs.Grows fs') (h' : fs'.Grows fs'') : fs.Grows fs'' where
  cwd := h'.cwd.trans h.cwd
  kept hn := h'.kept (h.kept hn)
  old hn := h.old (h'.old hn)

theorem covers (h : fs.Grows fs') : Covers fs'.root fs.root where
  dir := h.kept
  some hn := by
    obtain ⟨e, he⟩ := Option.isSome_iff_exists.1 hn
    exact Option.isSome_iff_exists.2 ⟨e, h.kept he⟩

theorem file_iff (h : fs.Grows fs') {names : List String} {data : ByteArray} :
    fs'.root.look names = some (.file data) ↔ fs.root.look names = some (.file data) :=
  ⟨h.old, h.kept⟩

/-- What can be read stays. -/
theorem read (h : fs.Grows fs') {path : String} {data : ByteArray}
    (hread : fs.read path = .ok data) : fs'.read path = .ok data := by
  obtain ⟨names, hlocate⟩ := read_eq_ok.1 hread
  have hold : fs.root.look names = some (.file data) := (locate_file.1 hlocate).2.2.2
  exact read_eq_ok.2 ⟨names, locate_of_covers h.covers h.cwd hlocate (h.kept hold)⟩

theorem start (h : fs.Grows fs') (p : Path) : fs'.start p = fs.start p := by
  rw [Files.start, Files.start, h.cwd]

end Grows

/-- What files become when new directories are made and one file is put somewhere. -/
structure Gains (fs fs' : Files) (place : List String) (data : ByteArray) : Prop where
  cwd : fs'.cwd = fs.cwd
  there : fs'.root.look place = some (.file data)
  dirs : ∀ {names}, fs.root.look names = some .dir → fs'.root.look names = some .dir
  others : ∀ {names data}, names ≠ place →
    (fs'.root.look names = some (.file data) ↔ fs.root.look names = some (.file data))

/-- A file that is written where new directories were made. -/
theorem Grows.gains {fs fs' fs'' : Files} {path : String} {data : ByteArray} (h : fs.Grows fs')
    (hwrite : fs'.write path data = .ok fs'') :
    ∃ place, fs''.locate path = .ok (place, .file data) ∧ fs.Gains fs'' place data := by
  obtain ⟨here, name, hdir, hnot, rfl, hlocate⟩ := locate_of_write hwrite
  refine ⟨_, hlocate, h.cwd, (locate_file.1 hlocate).2.2.2, fun {names} hn => ?_, fun hne => ?_⟩
  · have hold := h.kept hn
    rw [Node.look_put_file hdir hnot, if_neg]
    · exact hold
    · rintro rfl
      exact hnot hold
  · rw [Node.look_put_file hdir hnot, if_neg hne, h.file_iff]

/-- A directory is made where nothing stands. -/
theorem makeDirectory_eq_ok {fs fs' : Files} {p : Path} :
    fs.makeDirectory p = .ok fs' ↔
      ∃ here name, fs.place p = .ok (here, some name) ∧ fs.root.look (here ++ [name]) = none ∧
        fs' = { fs with root := fs.root.put (here ++ [name]) (.dir []) } := by
  rw [makeDirectory]
  rcases fs.place p with e | ⟨here, _ | name⟩
  · simp [bind, Except.bind]
  · simp [bind, Except.bind]
  simp only [bind, Except.bind]
  rcases h : fs.root.get? (here ++ [name]) with _ | n
  · simp [Node.look, h, eq_comm]
  · simp [Node.look, h]

theorem look_makeDirectory {fs fs' : Files} {p : Path} (h : fs.makeDirectory p = .ok fs') :
    ∃ here name, fs.place p = .ok (here, some name) ∧ fs.root.look (here ++ [name]) = none ∧
      fs'.cwd = fs.cwd ∧ ∀ names, fs'.root.look names =
        if names = here ++ [name] then some .dir else fs.root.look names := by
  obtain ⟨here, name, hplace, hnone, rfl⟩ := makeDirectory_eq_ok.1 h
  obtain ⟨above, -, -, hdir, -⟩ := place_eq_ok.1 hplace
  exact ⟨here, name, hplace, hnone, rfl, Node.look_put_dir hdir hnone⟩

theorem makeDirectory_grows {fs fs' : Files} {p : Path} (h : fs.makeDirectory p = .ok fs') :
    fs.Grows fs' := by
  obtain ⟨here, name, -, hnone, hcwd, hlook⟩ := look_makeDirectory h
  refine ⟨hcwd, fun {names e} hn => ?_, fun {names data} hn => ?_⟩
  · rw [hlook, if_neg, hn]
    rintro rfl
    exact absurd (hnone.symm.trans hn) (by simp)
  · rw [hlook] at hn
    split_ifs at hn
    · cases hn
    · exact hn

theorem leadsToDirectory_iff {fs : Files} {p : Path} :
    fs.leadsToDirectory p ↔
      ∃ names, descend fs.root (fs.start p) p.names = .ok names ∧
        fs.root.look names = some .dir := by
  rw [leadsToDirectory]
  rcases descend fs.root (fs.start p) p.names with e | names
  · simp
  rcases h : fs.root.get? names with _ | ⟨other⟩ | entries <;> simp [Node.look, Node.entry, h]

theorem ensureDirectory_grows (fs : Files) (p : Path) : fs.Grows (fs.ensureDirectory p).1 := by
  rw [ensureDirectory]
  split
  next fs' h => exact makeDirectory_grows h
  next => exact .refl fs

theorem ensureDirectory_error {fs : Files} {p : Path} {e : FileFault}
    (h : (fs.ensureDirectory p).2 = .error e) : (fs.ensureDirectory p).1 = fs := by
  rw [ensureDirectory] at h ⊢
  split at h
  next => cases h
  next => rfl

/-- A directory that was made sure of is there. -/
theorem ensureDirectory_leads {fs : Files} {p : Path} (h : (fs.ensureDirectory p).2 = .ok ()) :
    (fs.ensureDirectory p).1.leadsToDirectory p := by
  rw [ensureDirectory] at h ⊢
  split at h
  next fs' hmade =>
    obtain ⟨here, name, hplace, hnone, hcwd, hlook⟩ := look_makeDirectory hmade
    have hdir : fs'.root.look (here ++ [name]) = some .dir := by rw [hlook, if_pos rfl]
    have hgrows := makeDirectory_grows hmade
    refine leadsToDirectory_iff.2 ⟨here ++ [name], ?_, hdir⟩
    rw [hgrows.start]
    exact descend_placed hplace hgrows.covers (by simp [hdir])
  next =>
    by_contra hleads
    rw [if_neg hleads] at h
    cases h

/-! ## Directories and those above them -/

/-- The path of some names, the last one first. -/
def upwards (absolute : Bool) (names : List String) : Path :=
  { absolute, names := names.reverse, slashed := false }

theorem makeDirectories_cons (fs : Files) (absolute : Bool) (name : String) (above : List String) :
    fs.makeDirectories absolute (name :: above) =
      let p := upwards absolute (name :: above)
      let upper := fs.makeDirectories absolute above
      if (fs.ensureDirectory p).2 = .error .notFound then
        if upper.2 = .ok () then upper.1.ensureDirectory p else upper
      else fs.ensureDirectory p := by
  rw [makeDirectories]
  split
  next fs' h =>
    have hmissing : fs.ensureDirectory (upwards absolute (name :: above)) =
        (fs', .error .notFound) := h
    have hstate := ensureDirectory_error (congrArg Prod.snd hmissing)
    rw [hmissing] at hstate
    obtain rfl : fs' = fs := hstate
    simp only [hmissing, if_true]
    rcases fs'.makeDirectories absolute above with ⟨upper, e | ⟨⟨⟩⟩⟩
    · simp
    · rfl
  next hother =>
    have hthere : (fs.ensureDirectory (upwards absolute (name :: above))).2 ≠ .error .notFound :=
      fun h => hother _ (Prod.ext rfl h)
    simp only [hthere, if_false]
    rfl

theorem makeDirectories_grows (fs : Files) (absolute : Bool) (names : List String) :
    fs.Grows (fs.makeDirectories absolute names).1 := by
  induction names with
  | nil => exact .refl fs
  | cons name above ih =>
    simp only [makeDirectories_cons]
    split
    · split
      · exact ih.trans (ensureDirectory_grows _ _)
      · exact ih
    · exact ensureDirectory_grows fs _

/-- Directories that were made are there. -/
theorem makeDirectories_leads {fs : Files} {absolute : Bool} {name : String} {above : List String}
    (h : (fs.makeDirectories absolute (name :: above)).2 = .ok ()) :
    (fs.makeDirectories absolute (name :: above)).1.leadsToDirectory
      (upwards absolute (name :: above)) := by
  simp only [makeDirectories_cons] at h ⊢
  split at h
  next hmissing =>
    rw [if_pos hmissing]
    split at h
    next hupper =>
      rw [if_pos hupper]
      exact ensureDirectory_leads h
    next hupper => exact absurd h hupper
  next hthere =>
    rw [if_neg hthere]
    exact ensureDirectory_leads h

/-! ## Room for directories -/

/-- Room for directories below the working directory: their names are not too long, and none of
them is that of a file. -/
structure HasRoom (fs : Files) (names : List String) : Prop where
  cwd : fs.root.look fs.cwd = some .dir
  short : ∀ name ∈ names, name.utf8ByteSize ≤ maxName
  noFile : ∀ above, above <+: names → ∀ data, fs.root.look (fs.cwd ++ above) ≠ some (.file data)

namespace HasRoom

variable {fs fs' : Files} {names above : List String}

theorem below (h : fs.HasRoom names) (habove : above <+: names) : fs.HasRoom above where
  cwd := h.cwd
  short name hn := h.short name (habove.subset hn)
  noFile _ hpre := h.noFile _ (hpre.trans habove)

theorem grows (h : fs.HasRoom names) (hgrows : fs.Grows fs') : fs'.HasRoom names where
  cwd := by rw [hgrows.cwd, hgrows.kept h.cwd]
  short := h.short
  noFile above habove data hfile := by
    rw [hgrows.cwd] at hfile
    exact h.noFile above habove data (hgrows.old hfile)

/-- What stands where there is room for a directory is one. -/
theorem dir_or_none (h : fs.HasRoom names) (habove : above <+: names) :
    fs.root.look (fs.cwd ++ above) = some .dir ∨ fs.root.look (fs.cwd ++ above) = none := by
  rcases hlook : fs.root.look (fs.cwd ++ above) with _ | ⟨data⟩ | _
  · exact .inr rfl
  · exact absurd hlook (h.noFile above habove data)
  · exact .inl rfl

end HasRoom

/-- Where there is room, the way down fails only because something is missing. -/
theorem descend_missing {root : Node} {here names : List String} (hup : ".." ∉ names)
    (hdir : root.look here = some .dir) (hshort : ∀ name ∈ names, name.utf8ByteSize ≤ maxName)
    (hfile : ∀ above, above <+: names → ∀ data, root.look (here ++ above) ≠ some (.file data))
    (hnone : root.look (here ++ names) = none) : descend root here names = .error .notFound := by
  induction names generalizing here with
  | nil =>
    rw [List.append_nil, hdir] at hnone
    cases hnone
  | cons name rest ih =>
    obtain ⟨hname, hrest⟩ : name ≠ ".." ∧ ".." ∉ rest := by simpa [eq_comm] using hup
    obtain ⟨hlong, hshort⟩ := List.forall_mem_cons.1 hshort
    have hassoc (l : List String) : here ++ [name] ++ l = here ++ name :: l := by simp
    rw [descend_cons, if_pos hdir, if_neg hname, if_neg (Nat.not_lt.2 hlong)]
    rcases hlook : root.look (here ++ [name]) with _ | ⟨data⟩ | _
    · rw [if_pos rfl]
    · exact absurd hlook (hfile [name] (by simp) data)
    · rw [if_neg (by simp)]
      refine ih hrest hlook hshort (fun above habove data => ?_) (hassoc rest ▸ hnone)
      rw [hassoc]
      exact hfile (name :: above) (List.cons_prefix_cons.2 ⟨rfl, habove⟩) data

variable {fs : Files}

/-- Plain names lead to a directory if they are not too long and it is there. -/
theorem leadsToDirectory_plain {names : List String} (hup : ".." ∉ names) (hne : names ≠ []) :
    fs.leadsToDirectory (upwards false names.reverse) ↔
      (∀ name ∈ names, name.utf8ByteSize ≤ maxName) ∧
        fs.root.look (fs.cwd ++ names) = some .dir := by
  rw [leadsToDirectory_iff]
  simp only [upwards, start, List.reverse_reverse, Bool.false_eq_true, if_false,
    descend_plain hup, hne, false_or]
  constructor
  · rintro ⟨_, ⟨rfl, hshort, -⟩, hdir⟩
    exact ⟨hshort, hdir⟩
  · rintro ⟨hshort, hdir⟩
    exact ⟨_, ⟨rfl, hshort, by rw [hdir]; rfl⟩, hdir⟩

/-- A directory whose upper one is there can be made. -/
theorem ensureDirectory_below {above : List String} {name : String}
    (hup : ".." ∉ above ++ [name]) (hroom : fs.HasRoom (above ++ [name]))
    (habove : fs.root.look (fs.cwd ++ above) = some .dir) :
    (fs.ensureDirectory (upwards false (above ++ [name]).reverse)).2 = .ok () := by
  obtain ⟨hupAbove, hname⟩ : ".." ∉ above ∧ name ≠ ".." := by simpa [eq_comm] using hup
  obtain ⟨hshortAbove, hshort⟩ : (∀ n ∈ above, n.utf8ByteSize ≤ maxName) ∧
      name.utf8ByteSize ≤ maxName := by simpa [or_imp, forall_and] using hroom.short
  have hdown : descend fs.root fs.cwd above = .ok (fs.cwd ++ above) :=
    (descend_plain hupAbove).2 ⟨rfl, hshortAbove, .inr (by rw [habove]; rfl)⟩
  have hplace : fs.place (upwards false (above ++ [name]).reverse) =
      .ok (fs.cwd ++ above, some name) :=
    place_eq_ok.2 ⟨above, List.reverse_reverse _, hdown, habove, hname, hshort⟩
  by_cases hleads : fs.leadsToDirectory (upwards false (above ++ [name]).reverse)
  · rw [ensureDirectory]
    split
    next => rfl
    next => rw [if_pos hleads]
  · have hnone : fs.root.look (fs.cwd ++ above ++ [name]) = none := by
      rw [List.append_assoc]
      refine (hroom.dir_or_none List.prefix_rfl).resolve_left fun hdir => ?_
      exact hleads ((leadsToDirectory_plain hup (by simp)).2 ⟨hroom.short, hdir⟩)
    rw [ensureDirectory, makeDirectory_eq_ok.2 ⟨_, _, hplace, hnone, rfl⟩]

/-- A directory whose upper one is missing cannot. -/
theorem ensureDirectory_missing {above : List String} {name : String}
    (hup : ".." ∉ above ++ [name]) (hroom : fs.HasRoom (above ++ [name]))
    (habove : fs.root.look (fs.cwd ++ above) = none) :
    (fs.ensureDirectory (upwards false (above ++ [name]).reverse)).2 = .error .notFound := by
  have hroomAbove := hroom.below (List.prefix_append above [name])
  have hdown : descend fs.root fs.cwd above = .error .notFound :=
    descend_missing (fun h => hup (by simp [h])) hroom.cwd hroomAbove.short hroomAbove.noFile habove
  have hmake : fs.makeDirectory (upwards false (above ++ [name]).reverse) = .error .notFound := by
    rw [makeDirectory, place_concat (List.reverse_reverse _)]
    change ((descend fs.root fs.cwd above).bind _).bind _ = _
    rw [hdown]
    rfl
  have hnone : fs.root.look (fs.cwd ++ (above ++ [name])) = none := by
    rw [← List.append_assoc]
    exact Node.look_below (by simp [habove]) (List.prefix_append _ _) (by simp)
  have hleads : ¬ fs.leadsToDirectory (upwards false (above ++ [name]).reverse) := by
    rw [leadsToDirectory_plain hup (by simp), hnone]
    simp
  simp only [ensureDirectory, hmake]
  rw [if_neg hleads]

/-- Nothing can be made below what is no directory. -/
theorem ensureDirectory_nowhere {names : List String} (hne : names ≠ [])
    (hcwd : fs.root.look fs.cwd ≠ some .dir) :
    fs.ensureDirectory (upwards false names.reverse) = (fs, .error .notDirectory) := by
  have hdown (name : String) (rest : List String) :
      descend fs.root fs.cwd (name :: rest) = .error .notDirectory := by
    rw [descend_cons, if_neg hcwd]
  have hmake : fs.makeDirectory (upwards false names.reverse) = .error .notDirectory := by
    rcases names.eq_nil_or_concat with hnil | ⟨above, last, hnames⟩
    · exact absurd hnil hne
    rw [List.concat_eq_append] at hnames
    rw [makeDirectory, place_concat ((List.reverse_reverse _).trans hnames)]
    change ((descend fs.root fs.cwd above).bind _).bind _ = _
    cases above with
    | nil => simp [descend, Except.bind, hcwd]
    | cons name rest => rw [hdown]; rfl
  have hleads : ¬ fs.leadsToDirectory (upwards false names.reverse) := by
    rw [leadsToDirectory_iff]
    rintro ⟨there, hd, -⟩
    obtain ⟨name, rest, rfl⟩ := List.exists_cons_of_ne_nil hne
    rw [upwards, List.reverse_reverse] at hd
    cases (hdown name rest).symm.trans hd
  simp only [ensureDirectory, hmake]
  rw [if_neg hleads]

theorem hasRoom_of_makeDirectories {names : List String} (hup : ".." ∉ names) (hne : names ≠ [])
    (h : (fs.makeDirectories false names.reverse).2 = .ok ()) : fs.HasRoom names := by
  have hgrows := makeDirectories_grows fs false names.reverse
  obtain ⟨name, above, hrev⟩ := List.exists_cons_of_ne_nil (List.reverse_ne_nil_iff.2 hne)
  have hleads : (fs.makeDirectories false names.reverse).1.leadsToDirectory
      (upwards false names.reverse) := by
    rw [hrev] at h ⊢
    exact makeDirectories_leads h
  obtain ⟨hshort, hdir⟩ := (leadsToDirectory_plain hup hne).1 hleads
  rw [hgrows.cwd] at hdir
  refine ⟨?_, hshort, fun above habove data hfile => ?_⟩
  · by_contra hcwd
    have hfail := ensureDirectory_nowhere hne hcwd
    rw [hrev, makeDirectories_cons, ← hrev] at h
    simp [hfail] at h
  · have hkept := hgrows.kept hfile
    by_cases heq : above = names
    · rw [heq, hdir] at hkept
      cases hkept
    · have hpre : fs.cwd ++ above <+: fs.cwd ++ names := (List.prefix_append_right_inj _).2 habove
      have habove := Node.look_above hpre (by simpa using heq) (by rw [hdir]; rfl)
      cases hkept.symm.trans habove

theorem makeDirectories_of_hasRoom {names : List String} (hup : ".." ∉ names)
    (hroom : fs.HasRoom names) : (fs.makeDirectories false names.reverse).2 = .ok () := by
  induction names using List.reverseRecOn with
  | nil => rfl
  | append_singleton above name ih =>
    have hupAbove : ".." ∉ above := fun h => hup (by simp [h])
    have hroomAbove := hroom.below (List.prefix_append above [name])
    have hrev : (above ++ [name]).reverse = name :: above.reverse := List.reverse_concat
    have hcons := makeDirectories_cons fs false name above.reverse
    rw [← hrev] at hcons
    rw [hcons]
    rcases hroomAbove.dir_or_none List.prefix_rfl with hdir | hnone
    · have hok := ensureDirectory_below hup hroom hdir
      simp only [hok, reduceCtorEq, if_false]
    · have hmissing := ensureDirectory_missing hup hroom hnone
      simp only [hmissing, if_true]
      have hne : above ≠ [] := by
        rintro rfl
        rw [List.append_nil, hroom.cwd] at hnone
        cases hnone
      specialize ih hupAbove hroomAbove
      have hgrows := makeDirectories_grows fs false above.reverse
      obtain ⟨last, rest, hlast⟩ := List.exists_cons_of_ne_nil (List.reverse_ne_nil_iff.2 hne)
      have hleads : (fs.makeDirectories false above.reverse).1.leadsToDirectory
          (upwards false above.reverse) := by
        rw [hlast] at ih ⊢
        exact makeDirectories_leads ih
      obtain ⟨-, hdir⟩ := (leadsToDirectory_plain hupAbove hne).1 hleads
      rw [if_pos ih]
      exact ensureDirectory_below hup (hroom.grows hgrows) hdir

/-- **Making directories** below the working directory succeeds where there is room for them. -/
theorem makeDirectories_ok {names : List String} (hup : ".." ∉ names) (hne : names ≠ []) :
    (fs.makeDirectories false names.reverse).2 = .ok () ↔ fs.HasRoom names :=
  ⟨hasRoom_of_makeDirectories hup hne, makeDirectories_of_hasRoom hup⟩

/-- A new directory stands where it was asked for. -/
theorem ensureDirectory_new {names place : List String} (hup : ".." ∉ names)
    (h : (fs.ensureDirectory (upwards false names.reverse)).1.root.look place = some .dir) :
    fs.root.look place = some .dir ∨ place = fs.cwd ++ names := by
  rw [ensureDirectory] at h
  split at h
  next fs' hmade =>
    obtain ⟨here, name, hplace, -, -, hlook⟩ := look_makeDirectory hmade
    obtain ⟨above, hlast, hdown, -⟩ := place_eq_ok.1 hplace
    have hnames : names = above ++ [name] := (List.reverse_reverse names).symm.trans hlast
    have hupAbove : ".." ∉ above := fun hmem => hup (by simp [hnames, hmem])
    obtain ⟨rfl, -⟩ := (descend_plain hupAbove).1 hdown
    rw [hlook] at h
    split_ifs at h with heq
    · refine .inr ?_
      rw [heq, hnames]
      exact List.append_assoc ..
    · exact .inl h
  next => exact .inl h

/-- New directories stand on the way to where they were asked for. -/
theorem makeDirectories_new {names place : List String} (hup : ".." ∉ names)
    (h : (fs.makeDirectories false names.reverse).1.root.look place = some .dir) :
    fs.root.look place = some .dir ∨ ∃ above, above <+: names ∧ place = fs.cwd ++ above := by
  induction names using List.reverseRecOn with
  | nil => exact .inl h
  | append_singleton above name ih =>
    specialize ih fun hmem => hup (by simp [hmem])
    have hgrows := makeDirectories_grows fs false above.reverse
    have hrev : (above ++ [name]).reverse = name :: above.reverse := List.reverse_concat
    have hcons := makeDirectories_cons fs false name above.reverse
    rw [← hrev] at hcons
    simp only [hcons] at h
    split at h
    · split at h
      · rcases ensureDirectory_new hup h with hold | rfl
        · obtain hold | ⟨first, hfirst, rfl⟩ := ih hold
          · exact .inl hold
          · exact .inr ⟨first, hfirst.trans (List.prefix_append ..), rfl⟩
        · rw [hgrows.cwd]
          exact .inr ⟨_, List.prefix_rfl, rfl⟩
      · obtain hold | ⟨first, hfirst, rfl⟩ := ih h
        · exact .inl hold
        · exact .inr ⟨first, hfirst.trans (List.prefix_append ..), rfl⟩
    · rcases ensureDirectory_new hup h with hold | rfl
      · exact .inl hold
      · exact .inr ⟨_, List.prefix_rfl, rfl⟩

end RuleScan.Files
