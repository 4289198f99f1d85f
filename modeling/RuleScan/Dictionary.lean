/-!
# Dictionaries

A finite map from names to texts, kept in increasing order of the names. Its view is `get?`; its
list of entries shows the order. Main statements: `get?_insert` and `get?_merge` say what writing
and merging do to a look-up.
-/

namespace RuleScan

/-- A finite map from names to texts in increasing order of the names. -/
structure Dictionary where
  entries : List (String × String)
  sorted : entries.Pairwise (·.1 < ·.1)

namespace Dictionary

/-- Writes an entry into a list of entries in increasing order. -/
def insertEntry (k v : String) : List (String × String) → List (String × String)
  | [] => [(k, v)]
  | e :: rest =>
    if k < e.1 then (k, v) :: e :: rest
    else if k = e.1 then (k, v) :: rest
    else e :: insertEntry k v rest

theorem mem_insertEntry {k v : String} {e : String × String} {l : List (String × String)}
    (h : e ∈ insertEntry k v l) : e = (k, v) ∨ e ∈ l := by
  induction l with
  | nil => simpa [insertEntry] using h
  | cons a rest ih =>
    simp only [insertEntry] at h
    split at h
    · simpa using h
    · split at h
      · rcases List.mem_cons.1 h with h | h
        · exact .inl h
        · exact .inr (List.mem_cons_of_mem _ h)
      · rcases List.mem_cons.1 h with h | h
        · exact .inr (by simp [h])
        · exact (ih h).imp_right (List.mem_cons_of_mem _)

theorem sorted_insertEntry {k v : String} {l : List (String × String)}
    (h : l.Pairwise (·.1 < ·.1)) : (insertEntry k v l).Pairwise (·.1 < ·.1) := by
  induction l with
  | nil => simp [insertEntry]
  | cons a rest ih =>
    obtain ⟨ha, hr⟩ := List.pairwise_cons.1 h
    simp only [insertEntry]
    split
    next hlt =>
      refine List.pairwise_cons.2 ⟨fun e he => ?_, h⟩
      rcases List.mem_cons.1 he with rfl | he
      · exact hlt
      · exact String.lt_trans hlt (ha e he)
    next hlt =>
      split
      next heq => exact List.pairwise_cons.2 ⟨fun e he => heq ▸ ha e he, hr⟩
      next hne =>
        refine List.pairwise_cons.2 ⟨fun e he => ?_, ih hr⟩
        rcases mem_insertEntry he with rfl | he
        · grind
        · exact ha e he

/-- The dictionary without entries. -/
def empty : Dictionary := ⟨[], .nil⟩

instance : Inhabited Dictionary := ⟨empty⟩
instance : EmptyCollection Dictionary := ⟨empty⟩

instance : DecidableEq Dictionary := fun a b =>
  decidable_of_iff (a.entries = b.entries)
    ⟨fun h => by cases a; cases b; simp_all, fun h => by rw [h]⟩

/-- Whether there are no entries. -/
def isEmpty (d : Dictionary) : Bool := d.entries.isEmpty

/-- The text stored under a name. -/
def get? (d : Dictionary) (k : String) : Option String :=
  (d.entries.find? (·.1 = k)).map (·.2)

/-- Stores a text under a name, in place of any earlier one. -/
def insert (d : Dictionary) (k v : String) : Dictionary :=
  ⟨insertEntry k v d.entries, sorted_insertEntry d.sorted⟩

/-- The entries of a list, later ones in place of earlier ones with the same name. -/
def ofList (l : List (String × String)) : Dictionary :=
  l.foldl (fun d e => d.insert e.1 e.2) empty

/-- All entries of two dictionaries, those of the second in place of the first's. -/
def merge (a b : Dictionary) : Dictionary :=
  b.entries.foldl (fun d e => d.insert e.1 e.2) a

/-! ## Laws -/

theorem find?_insertEntry (k v k' : String) (l : List (String × String))
    (h : l.Pairwise (·.1 < ·.1)) :
    ((insertEntry k v l).find? (·.1 = k')).map (·.2) =
      if k = k' then some v else (l.find? (·.1 = k')).map (·.2) := by
  induction l with
  | nil => by_cases hk : k = k' <;> simp [insertEntry, hk]
  | cons a rest ih =>
    obtain ⟨ha, hr⟩ := List.pairwise_cons.1 h
    simp only [insertEntry]
    split
    · by_cases hk : k = k' <;> simp [List.find?_cons, hk]
    · split
      next heq => by_cases hk : k = k' <;> simp_all
      next hne =>
        simp only [List.find?_cons]
        by_cases hk' : a.1 = k'
        · have : k ≠ k' := fun hk => hne (hk.trans hk'.symm)
          simp [hk', this]
        · simpa [hk'] using ih hr

@[simp] theorem get?_insert (d : Dictionary) (k v k' : String) :
    (d.insert k v).get? k' = if k = k' then some v else d.get? k' :=
  find?_insertEntry k v k' d.entries d.sorted

theorem get?_foldl_insert {l : List (String × String)} (h : l.Pairwise (·.1 < ·.1))
    (d : Dictionary) (k : String) :
    (l.foldl (fun d e => d.insert e.1 e.2) d).get? k =
      ((l.find? (·.1 = k)).map (·.2)).or (d.get? k) := by
  induction l generalizing d with
  | nil => rfl
  | cons e rest ih =>
    obtain ⟨he, hrest⟩ := List.pairwise_cons.1 h
    rw [List.foldl_cons, ih hrest, get?_insert]
    by_cases hk : e.1 = k
    · have hnone : rest.find? (·.1 = k) = none := by
        rw [List.find?_eq_none]
        intro e' he' hk'
        exact String.lt_irrefl k (by simpa [hk, of_decide_eq_true hk'] using he e' he')
      simp [hk, hnone]
    · simp [hk]

@[simp] theorem get?_merge (a b : Dictionary) (k : String) :
    (a.merge b).get? k = (b.get? k).or (a.get? k) :=
  get?_foldl_insert b.sorted a k

end Dictionary

end RuleScan
