import RuleScan.Proofs.Cache.Store

/-!
# The format of cache files

A cache file is read from its start: first the letters, then the version, and only then the block.
`Codec.Finds` says what comes of a file whose first wrong part is one of these, with one rule for
each; `Codec.decode_finds` is the only place where the reader is taken apart. Exactly the files of
the format are read, and what a wrong file is refused for can be told from its bytes
(`Codec.format`).
-/

namespace RuleScan.Cache

/-! ## The start of a list -/

theorem dropStart?_eq_some_iff {start bytes rest : List UInt8} :
    dropStart? start bytes = some rest ↔ bytes = start ++ rest := by
  induction start generalizing bytes with
  | nil => cases bytes <;> simp [dropStart?, eq_comm]
  | cons a start ih =>
    cases bytes with
    | nil => simp [dropStart?]
    | cons b bytes =>
      rw [dropStart?]
      by_cases hab : a = b
      · rw [if_pos hab, ih, hab]
        simp
      · rw [if_neg hab]
        simp [Ne.symm hab]

theorem dropStart?_eq_none_iff {start bytes : List UInt8} :
    dropStart? start bytes = none ↔ ¬start <+: bytes := by
  rw [Option.eq_none_iff_forall_ne_some]
  constructor
  · rintro hnone ⟨rest, hrest⟩
    exact hnone rest (dropStart?_eq_some_iff.2 hrest.symm)
  · intro hnot rest hsome
    exact hnot ⟨rest, (dropStart?_eq_some_iff.1 hsome).symm⟩

namespace Codec

variable (K : Codec)

/-! ## Reading -/

/-- What comes of the bytes of a file. -/
inductive Finds : List UInt8 → Except CacheFault ByteArray → Prop
  | foreign {bytes : List UInt8} (h : ¬letters <+: bytes) : Finds bytes (.error .foreign)
  | noVersion : Finds letters (.error .noVersion)
  | otherVersion {v : UInt8} (rest : List UInt8) (h : v ≠ version) :
      Finds (letters ++ v :: rest) (.error (.otherVersion v.toNat version.toNat))
  | damaged {block : List UInt8} {fault : Block.Fault} (h : K.unpack block = .error fault) :
      Finds (letters ++ version :: block) (.error (.damaged fault block.length))
  | data {block : List UInt8} {data : ByteArray} (h : K.unpack block = .ok data) :
      Finds (letters ++ version :: block) (.ok data)

theorem decode_finds (file : ByteArray) : K.Finds file.data.toList (K.decode file) := by
  rw [decode]
  split
  · next hnone => exact .foreign (dropStart?_eq_none_iff.1 hnone)
  · next hbare =>
    rw [dropStart?_eq_some_iff.1 hbare, List.append_nil]
    exact .noVersion
  · next v block hsome =>
    rw [dropStart?_eq_some_iff.1 hsome]
    split
    · next hv => exact .otherVersion block hv
    · next hv =>
      rw [not_not.1 hv]
      split
      · next hdata => exact .data hdata
      · next hfault => exact .damaged hfault

section

variable {file : ByteArray}

theorem decode_of_foreign (h : ¬letters <+: file.data.toList) :
    K.decode file = .error .foreign := by
  rw [decode, dropStart?_eq_none_iff.2 h]

theorem decode_of_bare (h : file.data.toList = letters) : K.decode file = .error .noVersion := by
  rw [decode, dropStart?_eq_some_iff.2 (h.trans (List.append_nil _).symm)]

theorem decode_of_otherVersion {v : UInt8} {rest : List UInt8} (hv : v ≠ version)
    (h : file.data.toList = letters ++ v :: rest) :
    K.decode file = .error (.otherVersion v.toNat version.toNat) := by
  rw [decode, dropStart?_eq_some_iff.2 h]
  exact if_pos hv

theorem decode_of_block {block : List UInt8}
    (h : file.data.toList = letters ++ version :: block) :
    K.decode file = (K.unpack block).mapError (.damaged · block.length) := by
  rw [decode, dropStart?_eq_some_iff.2 h]
  simp only [ne_eq, not_true_eq_false, if_false]
  cases K.unpack block <;> rfl

/-- **Reading a file** is to find what comes of its bytes. -/
theorem decode_eq_iff {result : Except CacheFault ByteArray} :
    K.decode file = result ↔ K.Finds file.data.toList result := by
  constructor
  · rintro rfl
    exact K.decode_finds file
  · intro h
    generalize hbytes : file.data.toList = bytes at h
    cases h with
    | foreign hnot => exact K.decode_of_foreign (hbytes ▸ hnot)
    | noVersion => exact K.decode_of_bare hbytes
    | otherVersion rest hv => exact K.decode_of_otherVersion hv hbytes
    | damaged hfault =>
      rw [K.decode_of_block hbytes, hfault]
      rfl
    | data hdata =>
      rw [K.decode_of_block hbytes, hdata]
      rfl

end

theorem encode_toList (data : ByteArray) :
    (K.encode data).data.toList = letters ++ version :: K.pack data := by
  rw [encode]

/-! ## The format -/

/-- What is read of any file, and of those that were written. -/
structure Format : Prop where
  /-- Exactly the files of the format are read. -/
  accepts (file data : ByteArray) :
    K.decode file = .ok data ↔
      ∃ block, file.data.toList = letters ++ version :: block ∧ K.unpack block = .ok data
  /-- The letters are looked at before all else. -/
  foreign (file : ByteArray) : K.decode file = .error .foreign ↔ ¬letters <+: file.data.toList
  noVersion (file : ByteArray) : K.decode file = .error .noVersion ↔ file.data.toList = letters
  /-- The version is looked at before the block. -/
  otherVersion (file : ByteArray) (found expected : Nat) :
    K.decode file = .error (.otherVersion found expected) ↔
      expected = version.toNat ∧ ∃ v rest,
        file.data.toList = letters ++ v :: rest ∧ v ≠ version ∧ v.toNat = found
  damaged (file : ByteArray) (fault : Block.Fault) (size : Nat) :
    K.decode file = .error (.damaged fault size) ↔ ∃ block,
      file.data.toList = letters ++ version :: block ∧ K.unpack block = .error fault ∧
        block.length = size
  /-- A file that is not read is refused for one of these reasons, as a fault of the cache. -/
  refused (fs : Files) (path : String) (file : ByteArray) (h : fs.read path = .ok file) :
    (∃ data, K.decode file = .ok data ∧ (K.load path fs).reply = .ok data) ∨
      ∃ fault, K.decode file = .error fault ∧ (K.load path fs).reply = .error (.cache fault) ∧
        (fault = .foreign ∨ fault = .noVersion ∨ (∃ v, fault = .otherVersion v version.toNat) ∨
          ∃ e size, fault = .damaged e size)
  /-- What was written is read back. -/
  restored (data : ByteArray) (h : data.size < 2 ^ 32) : K.decode (K.encode data) = .ok data
  /-- No other five bytes may stand at the start. -/
  changed (data : ByteArray) (start : List UInt8) (hlength : start.length = 5)
    (hne : start ≠ (K.encode data).data.toList.take 5) :
    ∃ fault, K.decode ⟨(start ++ (K.encode data).data.toList.drop 5).toArray⟩ = .error fault
  /-- The first five bytes may not be cut. -/
  cut (data : ByteArray) (n : Nat) (h : n < 5) :
    ∃ fault, K.decode ⟨((K.encode data).data.toList.take n).toArray⟩ = .error fault

variable {K}

namespace Finds

variable {bytes : List UInt8}

theorem ok_iff {data : ByteArray} :
    K.Finds bytes (.ok data) ↔
      ∃ block, bytes = letters ++ version :: block ∧ K.unpack block = .ok data := by
  constructor
  · intro h
    cases h with
    | data hdata => exact ⟨_, rfl, hdata⟩
  · rintro ⟨block, rfl, hdata⟩
    exact .data hdata

theorem foreign_iff : K.Finds bytes (.error .foreign) ↔ ¬letters <+: bytes := by
  constructor
  · intro h
    cases h with
    | foreign hnot => exact hnot
  · exact .foreign

theorem noVersion_iff : K.Finds bytes (.error .noVersion) ↔ bytes = letters := by
  constructor
  · intro h
    cases h with
    | noVersion => rfl
  · rintro rfl
    exact .noVersion

theorem otherVersion_iff {found expected : Nat} :
    K.Finds bytes (.error (.otherVersion found expected)) ↔
      expected = version.toNat ∧ ∃ v rest,
        bytes = letters ++ v :: rest ∧ v ≠ version ∧ v.toNat = found := by
  constructor
  · intro h
    cases h with
    | otherVersion rest hv => exact ⟨rfl, _, rest, rfl, hv, rfl⟩
  · rintro ⟨rfl, v, rest, rfl, hv, rfl⟩
    exact .otherVersion rest hv

theorem damaged_iff {fault : Block.Fault} {size : Nat} :
    K.Finds bytes (.error (.damaged fault size)) ↔ ∃ block,
      bytes = letters ++ version :: block ∧ K.unpack block = .error fault ∧
        block.length = size := by
  constructor
  · intro h
    cases h with
    | damaged hfault => exact ⟨_, rfl, hfault, rfl⟩
  · rintro ⟨block, rfl, hfault, rfl⟩
    exact .damaged hfault

theorem fault_cases {fault : CacheFault} (h : K.Finds bytes (.error fault)) :
    fault = .foreign ∨ fault = .noVersion ∨ (∃ v, fault = .otherVersion v version.toNat) ∨
      ∃ e size, fault = .damaged e size := by
  cases h with
  | foreign _ => exact .inl rfl
  | noVersion => exact .inr (.inl rfl)
  | otherVersion _ _ => exact .inr (.inr (.inl ⟨_, rfl⟩))
  | damaged _ => exact .inr (.inr (.inr ⟨_, _, rfl⟩))

end Finds

/-- A file whose first five bytes are not those of the format is not read. -/
theorem decode_of_start_ne {file : ByteArray} (h : ¬letters ++ [version] <+: file.data.toList) :
    ∃ fault, K.decode file = .error fault := by
  cases hresult : K.decode file with
  | error fault => exact ⟨fault, rfl⟩
  | ok data =>
    obtain ⟨block, hfile, -⟩ := Finds.ok_iff.1 (K.decode_eq_iff.1 hresult)
    exact absurd ⟨block, by rw [hfile, ← List.append_cons]⟩ h

/-- **The format of cache files.** For every codec that has bytes back that are not too many,
exactly the letters, the version and a block that the codec can unpack are read, and what is wrong
first decides why any other file is refused. What was written is read back, but not with other bytes
at the start, nor without them. -/
theorem format (hK : ∀ data, data.size < 2 ^ 32 → K.unpack (K.pack data) = .ok data) :
    K.Format where
  accepts file data := by rw [K.decode_eq_iff, Finds.ok_iff]
  foreign file := by rw [K.decode_eq_iff, Finds.foreign_iff]
  noVersion file := by rw [K.decode_eq_iff, Finds.noVersion_iff]
  otherVersion file found expected := by rw [K.decode_eq_iff, Finds.otherVersion_iff]
  damaged file fault size := by rw [K.decode_eq_iff, Finds.damaged_iff]
  refused fs path file h := by
    have hreply := K.load_reply path fs
    simp only [h] at hreply
    cases hresult : K.decode file with
    | ok data =>
      rw [hresult] at hreply
      exact .inl ⟨data, rfl, hreply⟩
    | error fault =>
      rw [hresult] at hreply
      exact .inr ⟨fault, rfl, hreply, (K.decode_eq_iff.1 hresult).fault_cases⟩
  restored data h := K.decode_encode (hK data h)
  changed data start hlength hne := by
    refine decode_of_start_ne fun hprefix => hne ?_
    have hstart := List.prefix_of_prefix_length_le hprefix (List.prefix_append start _)
      (by simp [hlength, letters])
    rw [encode_toList, ← hstart.eq_of_length (by simp [hlength, letters])]
    rfl
  cut data n h := by
    refine decode_of_start_ne fun hprefix => ?_
    have hle := hprefix.length_le
    simp only [List.length_append, List.length_cons, List.length_nil, List.length_take, letters]
      at hle
    omega

/-- Blocks are such a codec: of a written file everything is said that is said of its format. Three
bytes are had back, but not from the first four bytes of their file. -/
theorem blocks_format :
    (∀ data, data.size < 2 ^ 32 → blocks.unpack (blocks.pack data) = .ok data) ∧ blocks.Format ∧
      let file := blocks.encode ⟨#[1, 2, 3]⟩
      blocks.decode file = .ok ⟨#[1, 2, 3]⟩ ∧
        ∃ fault, blocks.decode ⟨(file.data.toList.take 4).toArray⟩ = .error fault := by
  have h : blocks.Format := format fun _ => Block.read_write
  exact ⟨fun _ => Block.read_write, h, h.restored _ (by decide), h.cut _ 4 (by decide)⟩

end Codec

end RuleScan.Cache
