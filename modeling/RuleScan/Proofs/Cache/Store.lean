import RuleScan.CachedScanner
import RuleScan.Proofs.Action
import RuleScan.Proofs.Cache.Block
import RuleScan.Proofs.Files.Plain

/-!
# The rule cache as a store

Cache files are saved, cleared and loaded at paths. What a save and a clearance do to the files is
said once each (`save_cases`, `clear_cases`), and at plain paths by what stands in one place.
-/

namespace RuleScan.Cache

theorem dropStart?_append (start rest : List UInt8) :
    dropStart? start (start ++ rest) = some rest := by
  induction start with
  | nil => cases rest <;> rfl
  | cons b start ih => rw [List.cons_append, dropStart?, if_pos rfl, ih]

/-! ## Directories -/

/-- The directories that are made before a cache is saved. -/
def parents (fs : Files) (path : String) : Files × Except FileFault Unit :=
  fs.makeDirectories (Path.parse path).absolute (Path.parse path).names.dropLast.reverse

theorem parents_grows (fs : Files) (path : String) : fs.Grows (parents fs path).1 :=
  Files.makeDirectories_grows ..

/-- What files become when a cache is written: the directories above it are made, and the file is
put there. -/
structure Written (fs fs' : Files) (path : String) (data : ByteArray) : Prop where
  made : (parents fs path).2 = .ok ()
  wrote : (parents fs path).1.write path data = .ok fs'

/-- Apart from the cache, only directories are new. -/
theorem Written.gains {fs fs' : Files} {path : String} {data : ByteArray}
    (h : Written fs fs' path data) :
    ∃ place, fs'.locate path = .ok (place, .file data) ∧ fs.Gains fs' place data :=
  (parents_grows fs path).gains h.wrote

/-- The directories are made if the path has no fault and they can be made. -/
theorem makeParent_cases (path : String) (fs : Files) :
    ((parents fs path).2 = .ok () ∧ (makeParent path).Does fs (.ok ()) (parents fs path).1 []) ∨
    ∃ e fs', (makeParent path).Does fs (.error (.file e)) fs' [] ∧ fs.Grows fs' ∧
      (Files.checkPath path = .ok () → (parents fs path).2 ≠ .ok ()) := by
  by_cases hnul : (Path.parse path).names.dropLast.any (·.toList.contains '\x00')
  · have h : makeParent path fs = ⟨.error (.file .nulInPath), fs, []⟩ := by
      simp only [makeParent, hnul, if_true]
    refine .inr ⟨.nulInPath, fs, ⟨by rw [h], by rw [h], by rw [h]; rfl⟩, .refl fs, ?_⟩
    obtain ⟨name, hname, hmem⟩ := List.any_eq_true.1 hnul
    have hpath := Path.mem_of_mem_names (List.dropLast_subset _ hname)
      (List.contains_iff_mem.1 hmem)
    intro hcheck
    rw [Files.checkPath, if_pos (List.contains_iff_mem.2 hpath)] at hcheck
    cases hcheck
  · have h : makeParent path fs =
        ⟨.ofExcept ((parents fs path).2.mapError .file), (parents fs path).1, []⟩ := by
      simp only [makeParent, hnul]
      rfl
    rcases hmade : (parents fs path).2 with e | ⟨⟨⟩⟩
    · rw [hmade] at h
      refine .inr ⟨e, _, ⟨by rw [h]; rfl, by rw [h], by rw [h]; rfl⟩, parents_grows fs path, ?_⟩
      exact fun _ hok => by cases hok
    · rw [hmade] at h
      exact .inl ⟨rfl, by rw [h]; rfl, by rw [h], by rw [h]; rfl⟩

namespace Codec

variable (K : Codec)

theorem decode_encode {data : ByteArray} (h : K.unpack (K.pack data) = .ok data) :
    K.decode (K.encode data) = .ok data := by
  rw [decode, encode]
  dsimp only
  rw [dropStart?_append]
  simp [h]

/-- Blocks are read back out of a short file. -/
theorem blocks_unpack {fs : Files} {path : String}
    (h : (fs.read path).toOption.all (·.size < 2 ^ 32)) {data : ByteArray}
    (hread : fs.read path = .ok (blocks.encode data)) :
    blocks.unpack (blocks.pack data) = .ok data := by
  have hshort : (blocks.encode data).size < 2 ^ 32 := by
    simpa [hread, Except.toOption] using h
  have hlong : data.size ≤ (blocks.encode data).size := by
    have hblock := Block.size_le_write data
    have hfile : (blocks.encode data).size = letters.length + ((Block.write data).length + 1) := by
      simp [encode, blocks, ByteArray.size]
    omega
  exact Block.read_write (by omega)

/-! ## Single calls -/

theorem load_reply (path : String) (fs : Files) :
    (K.load path fs).reply =
      match fs.read path with
      | .error e => .error (.file e)
      | .ok file => .ofExcept ((K.decode file).mapError .cache) := by
  rcases h : fs.read path with e | file
  · simp [load, loadQuietly, Action.bind, Action.get, Action.ofExcept, Reply.ofExcept, h,
      Except.mapError]
  · rcases hd : K.decode file with e | data <;>
      simp [load, loadQuietly, Action.bind, Action.get, Action.ofExcept, Reply.ofExcept, h, hd,
        Except.mapError, Action.log, Action.emit, Action.pure]

/-- **Saving**: the directories are made and the file is written, or some directories are made. -/
theorem save_cases (path : String) (data : ByteArray) (fs : Files) :
    (∃ fs', (parents fs path).2 = .ok () ∧
      (parents fs path).1.write path (K.encode data) = .ok fs' ∧
      (K.save path data).Does fs (.ok ()) fs' []) ∨
    ∃ e fs', (K.save path data).Does fs (.error (.file e)) fs' [] ∧ fs.Grows fs' ∧
      (Files.checkPath path = .ok () → (parents fs path).2 = .ok () →
        ∀ written, (parents fs path).1.write path (K.encode data) ≠ .ok written) := by
  rcases makeParent_cases path fs with ⟨hmade, hparent⟩ | ⟨e, fs', hparent, hgrows, hwhy⟩
  · have hresult := Action.Does.ofExcept
      (((parents fs path).1.write path (K.encode data)).mapError Failure.file) (parents fs path).1
    rcases hwrite : (parents fs path).1.write path (K.encode data) with e | fs'
    · rw [hwrite] at hresult
      have hquiet : (K.saveQuietly path data).Does fs (.error (.file e)) (parents fs path).1 [] :=
        hparent.after ((Action.Does.get _).after (by rw [hwrite]; exact hresult.bind_error))
      refine .inr ⟨e, _, hquiet.bind_error, parents_grows fs path, fun _ _ _ => ?_⟩
      exact fun hok => by cases hok
    · rw [hwrite] at hresult
      have hquiet : (K.saveQuietly path data).Does fs (.ok ()) fs' [] :=
        hparent.after ((Action.Does.get _).after
          (by rw [hwrite]; exact hresult.after (.modify (fun _ => fs') _)))
      exact .inl ⟨fs', hmade, rfl, hquiet.after (.log _ _ fs')⟩
  · refine .inr ⟨e, fs', hparent.bind_error.bind_error, hgrows, fun hcheck hmade => ?_⟩
    exact absurd hmade (hwhy hcheck)

end Codec

/-- **Clearing**: nothing is there, or a file is removed, or a directory is not. -/
theorem clear_cases (path : String) (fs : Files) :
    (fs.isThere path = false ∧ (clear path).Does fs (.ok ()) fs []) ∨
    (∃ fs', fs.remove path = .ok fs' ∧ (clear path).Does fs (.ok ()) fs' []) ∨
    (fs.isDirectory path ∧ (clear path).Does fs (.error (.file .isDirectory)) fs []) := by
  have hresult := Action.Does.ofExcept ((fs.remove path).mapError Failure.file) fs
  rcases hl : fs.locate path with e | ⟨names, ⟨data⟩ | entries⟩
  · have hthere : fs.isThere path = false := by rw [Files.isThere, hl]; rfl
    exact .inl ⟨hthere, (Action.Does.get fs).after (by rw [hthere]; exact .pure () fs)⟩
  · have hthere : fs.isThere path = true := by rw [Files.isThere, hl]; rfl
    have hremove := Files.remove_eq_ok.2 ⟨names, data, hl, rfl⟩
    rw [hremove] at hresult
    refine .inr (.inl ⟨_, hremove, (Action.Does.get fs).after ?_⟩)
    rw [if_pos hthere, hremove]
    exact hresult.after (.modify _ fs)
  · have hthere : fs.isThere path = true := by rw [Files.isThere, hl]; rfl
    have hdir : fs.isDirectory path := by rw [Files.isDirectory, hl]
    have hremove : fs.remove path = .error .isDirectory := by
      rw [Files.remove, hl]
      rfl
    rw [hremove] at hresult
    refine .inr (.inr ⟨hdir, (Action.Does.get fs).after ?_⟩)
    rw [if_pos hthere, hremove]
    exact hresult.bind_error

/-! ## Plain paths -/

section

variable {path : String} {fs : Files}

theorem parents_plain (h : Path.Plain path) :
    parents fs path = fs.makeDirectories false (Path.parse path).names.dropLast.reverse := by
  rw [parents, h.1]

theorem up_notMem_above (h : Path.Plain path) : ".." ∉ (Path.parse path).names.dropLast :=
  fun hmem => h.2 (List.dropLast_subset _ hmem)

theorem look_parents (h : Path.Plain path) (hmade : (parents fs path).2 = .ok ())
    (hcwd : fs.root.look fs.cwd = some .dir) :
    (parents fs path).1.root.look (fs.cwd ++ (Path.parse path).names.dropLast) = some .dir := by
  rw [parents_plain h] at hmade ⊢
  have hgrows := Files.makeDirectories_grows fs false (Path.parse path).names.dropLast.reverse
  by_cases hne : (Path.parse path).names.dropLast = []
  · rw [hne, List.append_nil]
    exact hcwd
  · obtain ⟨last, rest, hlast⟩ := List.exists_cons_of_ne_nil (List.reverse_ne_nil_iff.2 hne)
    rw [hlast] at hmade
    have hleads := Files.makeDirectories_leads hmade
    rw [← hlast, Files.leadsToDirectory_plain (up_notMem_above h) hne, hgrows.cwd] at hleads
    exact hleads.2

/-- Where the directories above a path could be made and it then stands in one, there is room for
them. -/
theorem hasRoom_of_parents (h : Path.Plain path) (hmade : (parents fs path).2 = .ok ())
    (hdir : (parents fs path).1.root.look
      ((parents fs path).1.cwd ++ (Path.parse path).names.dropLast) = some .dir) :
    fs.HasRoom (Path.parse path).names.dropLast := by
  by_cases hne : (Path.parse path).names.dropLast = []
  · have hsame : parents fs path = (fs, .ok ()) := by rw [parents_plain h, hne]; rfl
    rw [hsame, hne, List.append_nil] at hdir
    rw [hne]
    refine ⟨hdir, by simp, fun above habove data hfile => ?_⟩
    rw [List.prefix_nil.1 habove, List.append_nil, hdir] at hfile
    cases hfile
  · rw [parents_plain h] at hmade
    exact (Files.makeDirectories_ok (up_notMem_above h) hne).1 hmade

/-- The directories that are made above a path are none at the path itself. -/
theorem parents_notDir (h : Path.Plain path) (hplace : fs.HasPlace path) :
    (parents fs path).1.root.look ((parents fs path).1.target path) ≠ some .dir := by
  intro hnew
  rw [Files.target, (parents_grows fs path).cwd, parents_plain h] at hnew
  rcases Files.makeDirectories_new (up_notMem_above h) hnew with hold | ⟨above, habove, heq⟩
  · exact hplace.notDir hold
  · rw [List.append_cancel_left_eq] at heq
    have hlen := habove.length_le
    rw [← heq, List.length_dropLast] at hlen
    have := List.length_pos_iff.2 (Files.names_ne_nil hplace.name.2)
    omega

/-- **A save at a plain path succeeds exactly where there is a place for the file**, and then it
replaces what stands there. -/
theorem save_plain (K : Codec) (data : ByteArray) (h : Path.Plain path) :
    (fs.HasPlace path ∧ ∃ fs', (K.save path data).Does fs (.ok ()) fs' [] ∧
      fs.Replaces fs' (fs.target path) (some (K.encode data)) ∧
      fs'.content path = some (K.encode data)) ∨
    (¬ fs.HasPlace path ∧ ∃ e fs', (K.save path data).Does fs (.error (.file e)) fs' [] ∧
      fs.Grows fs') := by
  have hgrows := parents_grows fs path
  rcases K.save_cases path data fs with ⟨fs', hmade, hwrite, hdoes⟩ | ⟨e, fs', hdoes, hkept, hwhy⟩
  · obtain ⟨hreplaces, hname, hshort, hdir, hnot⟩ := Files.write_plain h hwrite
    have htarget : (parents fs path).1.target path = fs.target path := by
      rw [Files.target, Files.target, hgrows.cwd]
    refine .inl ⟨⟨hname, hshort, hasRoom_of_parents h hmade hdir, fun hold => hnot ?_⟩, fs', hdoes,
      ⟨?_, ?_⟩, Files.content_eq_some.2 (Files.read_of_write hwrite)⟩
    · rw [htarget]
      exact hgrows.kept hold
    · exact hreplaces.cwd.trans hgrows.cwd
    · intro names other
      rw [hreplaces.file, htarget, hgrows.file_iff]
  · refine .inr ⟨fun hplace => ?_, e, fs', hdoes, hkept⟩
    have hmade : (parents fs path).2 = .ok () := by
      rw [parents_plain h]
      exact Files.makeDirectories_of_hasRoom (up_notMem_above h) hplace.above
    have hdir := look_parents h hmade hplace.above.cwd
    rw [← hgrows.cwd] at hdir
    obtain ⟨written, hwrite⟩ := Files.write_isOk h hplace.name hplace.short hdir
      (parents_notDir h hplace) (K.encode data)
    exact hwhy hplace.name.1 hmade written hwrite

theorem save_isOk (K : Codec) (data : ByteArray) (h : Path.Plain path) :
    (K.save path data fs).reply.isOk ↔ fs.HasPlace path := by
  rcases save_plain K data h with ⟨hplace, fs', hdoes, -⟩ | ⟨hplace, e, fs', hdoes, -⟩
  · exact iff_of_true (by rw [hdoes.reply_eq]; rfl) hplace
  · exact iff_of_false (by rw [hdoes.reply_eq]; exact Bool.false_ne_true) hplace

/-- A file that was saved stands in directories. -/
theorem look_above_save (K : Codec) (data : ByteArray) (h : Path.Plain path)
    (hok : (K.save path data fs).reply.isOk) {above : List String}
    (habove : above <+: (Path.parse path).names.dropLast) :
    (K.save path data fs).state.root.look (fs.cwd ++ above) = some .dir := by
  rcases save_plain K data h with ⟨hplace, fs', hdoes, hreplaces, -⟩ | ⟨-, e, fs', hdoes, -⟩
  · rw [hdoes.state_eq]
    have hfile := (hreplaces.file (fs.target path) (K.encode data)).2 (by rw [if_pos rfl])
    refine Node.look_above ?_ ?_ (by rw [hfile]; rfl)
    · exact (List.prefix_append_right_inj _).2 (habove.trans (List.dropLast_prefix _))
    · intro heq
      have hlen := habove.length_le
      rw [List.append_cancel_left heq, List.length_dropLast] at hlen
      have := List.length_pos_iff.2 (Files.names_ne_nil hplace.name.2)
      omega
  · rw [hdoes.reply_eq] at hok
    cases hok

/-- **A clearance at a plain path** fails where a directory stands; otherwise nothing can be
read there afterwards. -/
theorem clear_plain (h : Path.Plain path) :
    (fs.isDirectory path = false ∧ ∃ fs', (clear path).Does fs (.ok ()) fs' [] ∧
      (fs' = fs ∨ fs.Replaces fs' (fs.target path) none ∧ Files.Nameable path) ∧
      fs'.content path = none) ∨
    (fs.isDirectory path ∧ (clear path).Does fs (.error (.file .isDirectory)) fs []) := by
  rcases clear_cases path fs with ⟨hnone, hdoes⟩ | ⟨fs', hremove, hdoes⟩ | hdir
  · have hlocate (names : List String) (n : Node) : fs.locate path ≠ .ok (names, n) := by
      intro hok
      rw [Files.isThere, hok] at hnone
      cases hnone
    refine .inl ⟨?_, fs, hdoes, .inl rfl, Option.eq_none_iff_forall_ne_some.2 fun data hread => ?_⟩
    · rw [Files.isDirectory]
      split
      next hok => exact absurd hok (hlocate _ _)
      next => rfl
    · obtain ⟨names, hok⟩ := Files.read_eq_ok.1 (Files.content_eq_some.1 hread)
      exact hlocate _ _ hok
  · obtain ⟨hreplaces, hname⟩ := Files.remove_plain h hremove
    obtain ⟨names, data, hlocate, -⟩ := Files.remove_eq_ok.1 hremove
    refine .inl ⟨by rw [Files.isDirectory, hlocate], fs', hdoes, .inr ⟨hreplaces, hname⟩, ?_⟩
    exact hreplaces.content_removed h
  · exact .inr hdir

theorem clear_isOk (h : Path.Plain path) :
    (clear path fs).reply.isOk ↔ fs.isDirectory path = false := by
  rcases clear_plain h with ⟨hdir, fs', hdoes, -⟩ | ⟨hdir, hdoes⟩
  · exact iff_of_true (by rw [hdoes.reply_eq]; rfl) hdir
  · refine iff_of_false (by rw [hdoes.reply_eq]; exact Bool.false_ne_true) ?_
    rw [hdir]
    exact Bool.noConfusion

end

end RuleScan.Cache
