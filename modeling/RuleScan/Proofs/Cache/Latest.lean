import RuleScan.Proofs.Cache.Store
import RuleScan.Proofs.Session.Misuse

/-!
# What is in the cache after many turns

The last turn at a path that succeeded says what can be read there (`latest`): each turn at a plain
path replaces what is read at that path and at no other one (`content_run`), so that a run of turns
does what its last one did (`content_final`). Together with a codec that has its bytes back this is
what is loaded (`store_keeps`).
-/

namespace RuleScan

namespace Cache

/-! ## Turns -/

/-- A call that changes what is in the cache. -/
inductive Turn
  | save (path : String) (data : ByteArray)
  | clear (path : String)
  deriving DecidableEq

namespace Turn

/-- The path that a turn is about. -/
def path : Turn → String
  | save path _ => path
  | clear path => path

variable (K : Codec)

/-- Carries out a turn. -/
def run : Turn → Action Files Unit
  | save path data => K.save path data
  | clear path => Cache.clear path

/-- The file that a turn leaves at its path. -/
def left : Turn → Option ByteArray
  | save _ data => some (K.encode data)
  | clear _ => none

/-- **One turn** at a plain path: it succeeds, and what is at its path is replaced, if there was
anything; or it fails and adds directories at most. -/
theorem run_cases (fs : Files) (t : Turn) (h : Path.Plain t.path) :
    (∃ fs', (t.run K).Does fs (.ok ()) fs' [] ∧
      (fs' = fs ∨ fs.Replaces fs' (fs.target t.path) (t.left K) ∧ Files.Nameable t.path) ∧
      fs'.content t.path = t.left K) ∨
    ∃ e fs', (t.run K).Does fs (.error (.file e)) fs' [] ∧ fs.Grows fs' := by
  cases t with
  | save path data =>
    rcases save_plain K data h with ⟨hplace, fs', hdoes, hreplaces, hleft⟩ | ⟨-, hfail⟩
    · exact .inl ⟨fs', hdoes, .inr ⟨hreplaces, hplace.name⟩, hleft⟩
    · exact .inr hfail
  | clear path =>
    rcases clear_plain h with ⟨-, fs', hdoes, hfiles, hleft⟩ | ⟨-, hdoes⟩
    · exact .inl ⟨fs', hdoes, hfiles, hleft⟩
    · exact .inr ⟨_, fs, hdoes, .refl fs⟩

/-- What one turn does to what can be read at a path. -/
theorem content_run (fs : Files) (t : Turn) {path : String} (ht : Path.Plain t.path)
    (hp : Path.Plain path) :
    (t.run K fs).state.content path =
      if (t.run K fs).reply.isOk ∧ Path.Same path t.path then t.left K else fs.content path := by
  rcases run_cases K fs t ht with ⟨fs', hdoes, hfiles, hleft⟩ | ⟨e, fs', hdoes, hgrows⟩
  · rw [hdoes.state_eq, hdoes.reply_eq]
    by_cases hsame : Path.Same path t.path
    · rw [if_pos ⟨rfl, hsame⟩, Files.content_same hsame, hleft]
    · rw [if_neg fun h => hsame h.2]
      rcases hfiles with rfl | ⟨hreplaces, hname⟩
      · rfl
      · exact hreplaces.content_of_ne hname hp ht hsame
  · rw [hdoes.state_eq, hdoes.reply_eq, if_neg fun h => absurd h.1 Bool.false_ne_true]
    exact hgrows.content hp

end Turn

/-! ## Runs -/

variable (K : Codec)

/-- The files after some turns. -/
def after (fs : Files) (turns : List Turn) : Files := Action.final (Turn.run K) fs turns

/-- The last turn at a path that succeeded, of some that start with the given files. -/
def latest (path : String) (fs : Files) : List Turn → Option Turn
  | [] => none
  | t :: rest =>
    (latest path (t.run K fs).state rest).or
      (if (t.run K fs).reply.isOk ∧ Path.Same path t.path then some t else none)

/-- **A run** leaves at a path what the last turn left there, or what was there before. -/
theorem content_after {path : String} (hp : Path.Plain path) (fs : Files) (turns : List Turn)
    (h : ∀ t ∈ turns, Path.Plain t.path) :
    (after K fs turns).content path =
      match latest K path fs turns with
      | some t => t.left K
      | none => fs.content path := by
  induction turns generalizing fs with
  | nil => rfl
  | cons t rest ih =>
    obtain ⟨ht, hrest⟩ := List.forall_mem_cons.1 h
    have hafter : after K fs (t :: rest) = after K (t.run K fs).state rest := rfl
    rw [hafter, ih _ hrest, latest]
    rcases latest K path (t.run K fs).state rest with _ | last
    · simp only [Option.none_or, Turn.content_run K fs t ht hp]
      by_cases hlast : (t.run K fs).reply.isOk ∧ Path.Same path t.path
      · rw [if_pos hlast, if_pos hlast]
      · rw [if_neg hlast, if_neg hlast]
    · rfl

/-- The last turn is one of them. -/
theorem mem_of_latest {path : String} {fs : Files} {turns : List Turn} {t : Turn}
    (h : latest K path fs turns = some t) : t ∈ turns := by
  induction turns generalizing fs with
  | nil => cases h
  | cons first rest ih =>
    rw [latest, Option.or_eq_some_iff] at h
    rcases h with h | ⟨-, h⟩
    · exact List.mem_cons_of_mem _ (ih h)
    · split_ifs at h
      cases h
      exact List.mem_cons_self

/-- What a turn leaves as it is: all files where it fails, and all others where it succeeds. -/
structure Turn.Frame (t : Turn) (fs : Files) : Prop where
  cwd : (t.run K fs).state.cwd = fs.cwd
  failed : (t.run K fs).reply.isOk = false → ∀ names data,
    (t.run K fs).state.root.look names = some (.file data) ↔
      fs.root.look names = some (.file data)
  others : ∀ names, names ≠ fs.target t.path → ∀ data,
    (t.run K fs).state.root.look names = some (.file data) ↔
      fs.root.look names = some (.file data)

variable {K}

theorem Turn.frame {t : Turn} (h : Path.Plain t.path) (fs : Files) : t.Frame K fs := by
  rcases run_cases K fs t h with ⟨fs', hdoes, hfiles, -⟩ | ⟨e, fs', hdoes, hgrows⟩
  · constructor <;> rw [hdoes.state_eq]
    · rcases hfiles with rfl | ⟨hreplaces, -⟩
      · rfl
      · exact hreplaces.cwd
    · rw [hdoes.reply_eq]
      exact fun hfail => by cases hfail
    · rintro names hne data
      rcases hfiles with rfl | ⟨hreplaces, -⟩
      · rfl
      · rw [hreplaces.file, if_neg hne]
  · constructor <;> rw [hdoes.state_eq]
    · exact hgrows.cwd
    · exact fun _ _ _ => hgrows.file_iff
    · exact fun _ _ _ => hgrows.file_iff

theorem load_of_content {path : String} {fs : Files} {data : ByteArray}
    (h : fs.content path = some (K.encode data)) (hdata : K.unpack (K.pack data) = .ok data) :
    (K.load path fs).reply = .ok data := by
  rw [Codec.load_reply, Files.content_eq_some.1 h]
  simp only [K.decode_encode hdata]
  rfl

theorem load_of_no_content {path : String} {fs : Files} (h : fs.content path = none) :
    ∃ e, (K.load path fs).reply = .error (.file e) := by
  rcases hread : fs.read path with e | file
  · exact ⟨e, by rw [Codec.load_reply, hread]⟩
  · rw [Files.content_eq_some.2 hread] at h
    cases h

/-- **The cache is a faithful store.** For every codec that has bytes back that are not too many,
every tree of files and all turns at plain paths, what is loaded at a plain path is what the last
turn there saved, and nothing can be loaded if it cleared the path. A save succeeds exactly where
there is a place for the file, and makes the directories above it that are missing; a clearance
fails only for a directory. No turn changes any other file, and none that fails changes a file. A
scanner whose rules are not built saves nothing: this is refused before the files are touched. -/
theorem cache_keeps (hK : ∀ data, data.size < 2 ^ 32 → K.unpack (K.pack data) = .ok data) :
    (∀ (fs : Files) (turns : List Turn), (∀ t ∈ turns, Path.Plain t.path) →
      (∀ path data, .save path data ∈ turns → data.size < 2 ^ 32) →
      ∀ path, Path.Plain path →
        match latest K path fs turns with
        | some (.save _ data) => (K.load path (after K fs turns)).reply = .ok data
        | some (.clear _) => ∃ e, (K.load path (after K fs turns)).reply = .error (.file e)
        | none => (after K fs turns).content path = fs.content path) ∧
    (∀ (path : String) (data : ByteArray) (fs : Files), Path.Plain path →
      ((K.save path data fs).reply.isOk ↔ fs.HasPlace path) ∧
      ((K.save path data fs).reply.isOk → ∀ above, above <+: (Path.parse path).names.dropLast →
        (K.save path data fs).state.root.look (fs.cwd ++ above) = some .dir) ∧
      ((clear path fs).reply.isOk ↔ fs.isDirectory path = false)) ∧
    (∀ (t : Turn) (fs : Files), Path.Plain t.path → t.Frame K fs) ∧
    ∀ {κ β π : Type} (E : Engine κ β) (path : String) (fs : Files) (s : Scanner κ β π),
      s.session.status ≠ .built →
        (Scanner.saveCache E K path).Does (fs, s) (.error (.misuse s.session.status.misuse))
          (fs, s) [] := by
  refine ⟨fun fs turns hplain hsmall path hp => ?_, fun path data fs hp => ⟨save_isOk K data hp,
    fun hok above habove => look_above_save K data hp hok habove, clear_isOk hp⟩,
    fun t fs ht => t.frame ht fs, fun E path fs s hs => ?_⟩
  · have hcontent := content_after K hp fs turns hplain
    rcases hlatest : latest K path fs turns with _ | ⟨saved, data⟩ | cleared
    · rw [hlatest] at hcontent
      exact hcontent
    · rw [hlatest] at hcontent
      exact load_of_content hcontent (hK data (hsmall saved data (mem_of_latest K hlatest)))
    · rw [hlatest] at hcontent
      exact load_of_no_content hcontent
  · have hexport : Session.Misused (Session.exportRules E) s.session :=
      Session.withBackend_misused _ _ hs
    exact ((hexport.zoom _).zoom _).bind_error

/-- Two saves at one path, written in two ways, and a clearance of another one. -/
def twoSaves : List Turn :=
  [.save "rules/a" ⟨#[1, 2, 3]⟩, .clear "rules/b", .save "rules//a" ⟨#[4]⟩]

/-- What was saved last is loaded. -/
theorem second_save_is_loaded :
    (blocks.load "rules/a" (after blocks .empty twoSaves)).reply = .ok ⟨#[4]⟩ := by
  have hplain : ∀ t ∈ twoSaves, Path.Plain t.path := by decide
  have hsmall : ∀ path data, .save path data ∈ twoSaves → data.size < 2 ^ 32 := by
    rintro path data h
    simp only [twoSaves, List.mem_cons, Turn.save.injEq, reduceCtorEq, List.not_mem_nil, or_false,
      false_or] at h
    rcases h with ⟨-, rfl⟩ | ⟨-, rfl⟩ <;> decide
  have hlatest : latest blocks "rules/a" .empty twoSaves = some (.save "rules//a" ⟨#[4]⟩) := by
    decide +kernel
  have h := (cache_keeps (K := blocks) fun _ => Block.read_write).1 .empty twoSaves hplain hsmall
    "rules/a" (by decide)
  rw [hlatest] at h
  exact h

end Cache

end RuleScan
